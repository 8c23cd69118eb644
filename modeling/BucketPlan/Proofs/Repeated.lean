import BucketPlan.Proofs.Demands
import BucketPlan.Proofs.Shape.Segments

namespace BucketPlan

namespace Descriptor

theorem versioning_unset {value : Value} {v : Violation} (member : v ∈ mismatches value)
    (path : v.path = "versioning_enabled") : (ofValue value).versioning = none := by
  have ended : segments v.path = ["versioning_enabled"] := by
    rw [path]
    decide
  have reports : (Shape.optional .boolean).Reports _ ["versioning_enabled"]
      (value.get "versioning_enabled") v :=
    .ofMember (reports_of_mem member) (named_parts value) (by simp) (ended ▸ List.prefix_rfl)
  have complaining := reports.given.complains (by simp [Shape.parts]) ended
  exact Option.not_isSome_iff_eq_none.mp (Bool.eq_false_iff.mp (Shape.refuses_of_complains complaining))

theorem website_unset {value : Value} {v : Violation} (member : v ∈ mismatches value)
    (path : v.path = "website") : (ofValue value).website = none := by
  have ended : segments v.path = ["website"] := by
    rw [path]
    decide
  have reports : (Shape.optional Website.shape).Reports _ ["website"] (value.get "website") v :=
    .ofMember (reports_of_mem member) (named_parts value) (by simp) (ended ▸ List.prefix_rfl)
  have complaining := reports.given.complains (Shape.named_of_recordOf (by decide +kernel)) ended
  exact if_neg (Bool.eq_false_iff.mp (Shape.refuses_of_complains complaining))

/-- What the checks ask for at the path of a mismatch, they insist on. -/
theorem mem_demands_iff_insistsOn {value : Value} {path : String}
    (mismatched : ∃ v ∈ mismatches value, v.path = path) :
    path ∈ demands (ofValue value).allFindings ↔ (ofValue value).InsistsOn path := by
  obtain ⟨v, member, rfl⟩ := mismatched
  rw [mem_demands_allFindings]
  refine ⟨fun asked => ?_, fun insists => Or.inr (Or.inr insists)⟩
  rcases asked with ⟨path, unversioned, _⟩ | ⟨path, website, given, _⟩ | insists
  · cases (versioning_unset member path).symm.trans unversioned
  · cases (website_unset member path).symm.trans given
  · exact insists

end Descriptor

namespace Compilation

/-- A compilation whose log starts with an error ends with the checks. -/
theorem Course.log_of_rejected {c : Compilation} {log : Log} {plan : Option Plan} {states : List State}
    (course : c.Course log plan states) (rejected : c.checked.rejects c.options.strict = true) :
    log = c.checked := by
  cases course with
  | turnedDown => rfl
  | unplannable passed | complete passed => cases passed.symm.trans rejected

/-- Of a value that has not the form of a description, the result says this and what the checks say. -/
theorem mem_violations_of_mismatched {value : Value} {options : Options} {result : Result}
    (returned : (compile value options).outcome = .ok result)
    (mismatched : Descriptor.mismatches value ≠ []) {v : Violation} :
    v ∈ result.violations ↔
      v ∈ (Descriptor.mismatches value).record (Descriptor.ofValue value).allFindings := by
  obtain ⟨log, plan, states, course, _, rfl⟩ := course_of_returned ⟨rfl, rfl⟩ returned
  have rejected : (ofValue value options).checked.rejects options.strict = true := by
    rw [checked, Log.rejects_record]
    exact Bool.or_eq_true_iff.mpr (Or.inl (Descriptor.rejects_mismatches mismatched options.strict))
  cases course.log_of_rejected rejected
  exact List.mem_mergeSort

end Compilation

/-- A result says of a value that it is of a wrong kind and that it is missing at exactly those paths
of mismatches that the checks insist on. -/
theorem compile_repeats_iff {value : Value} {options : Options} {result : Result}
    (returned : (compile value options).outcome = .ok result) (path : String) :
    ((∃ v ∈ result.violations, v ∈ Descriptor.mismatches value ∧ v.path = path) ∧
      ∃ w ∈ result.violations, w.code = .requiresField ∧ w.isError = true ∧ w.path = path) ↔
    (∃ v ∈ Descriptor.mismatches value, v.path = path) ∧
      (Descriptor.ofValue value).InsistsOn path := by
  constructor
  · rintro ⟨⟨v, _, member, same⟩, w, inResult, code, error, rfl⟩
    have mismatched : ∃ v ∈ Descriptor.mismatches value, v.path = w.path := ⟨v, member, same⟩
    obtain ⟨_, _, _, _, _, _, _, isError⟩ := Descriptor.leads_of_mem_mismatches member
    have reported := (Compilation.mem_violations_of_mismatched returned
      (List.ne_nil_of_mem member)).mp inResult
    have known : (Descriptor.mismatches value).hasErrorAt w.path = true :=
      List.any_eq_true.mpr ⟨v, member, by simp [isError, same]⟩
    refine ⟨mismatched, (Descriptor.mem_demands_iff_insistsOn mismatched).mp (mem_demands.mpr ?_)⟩
    -- An error stands at the path already, so this is no absence; and mismatches ask for nothing.
    rcases Log.violation_of_mem_record reported known with inMismatches | found
    · obtain ⟨_, _, _, _, _, _, other, _⟩ := Descriptor.leads_of_mem_mismatches inMismatches
      cases code.symm.trans other
    · exact ⟨w, found, code, error, rfl⟩
  · rintro ⟨mismatched, insists⟩
    obtain ⟨v, member, same⟩ := mismatched
    have asked := (Descriptor.mem_demands_iff_insistsOn ⟨v, member, same⟩).mpr insists
    obtain ⟨w, found, code, error, path⟩ := mem_demands.mp asked
    have inResult (u : Violation) := Compilation.mem_violations_of_mismatched (v := u) returned
      (List.ne_nil_of_mem member)
    exact ⟨⟨v, (inResult v).mpr (Log.mem_record_of_mem member), member, same⟩,
      w, (inResult w).mpr (Log.mem_record_of_violation found), code, error, path⟩

/-- A website whose one routing rule leads nowhere, and stands after a number. -/
def aimlessSite : Value :=
  .record [("name", .str "site"), ("website", .record [("static_website",
    .record [("index_document", .str "index.html"), ("routing_rules", .list [.int 5, .record []])])])]

theorem compile_aimlessSite_repeats :
    ∃ result, (compile aimlessSite).outcome = .ok result ∧
      (∃ v ∈ result.violations, v ∈ Descriptor.mismatches aimlessSite ∧
        v.path = "website.static_website.routing_rules.0") ∧
      ∃ w ∈ result.violations, w.code = .requiresField ∧ w.isError = true ∧
        w.path = "website.static_website.routing_rules.0" := by
  have returns : (compile aimlessSite).outcome.isOk = true := by decide +kernel
  have mismatched : ∃ v ∈ Descriptor.mismatches aimlessSite,
      v.path = "website.static_website.routing_rules.0" := by decide +kernel
  have insists : (Descriptor.ofValue aimlessSite).InsistsOn "website.static_website.routing_rules.0" :=
    .target (i := 0) rfl rfl rfl rfl rfl
  cases outcome : (compile aimlessSite).outcome with
  | error fault =>
    rw [outcome] at returns
    cases returns
  | ok result => exact ⟨result, rfl, (compile_repeats_iff outcome _).mpr ⟨mismatched, insists⟩⟩

/-- A lock with a text for its period. -/
def textPeriod : Value :=
  .record [("name", .str "bucket-x"), ("enables_object_lock", .bool true),
    ("object_lock", .record [("default_retention",
      .record [("retention_mode", .str "GOVERNANCE"), ("retention_days", .str "5")])])]

theorem compile_textPeriod_repeats :
    ∃ result, (compile textPeriod).outcome = .ok result ∧
      (∃ v ∈ result.violations, v ∈ Descriptor.mismatches textPeriod ∧
        v.path = "object_lock.default_retention.retention_days") ∧
      ∃ w ∈ result.violations, w.code = .requiresField ∧ w.isError = true ∧
        w.path = "object_lock.default_retention.retention_days" := by
  have returns : (compile textPeriod).outcome.isOk = true := by decide +kernel
  have logged : (Descriptor.mismatches textPeriod).record (Descriptor.ofValue textPeriod).allFindings =
      [⟨"object_lock", "", "default_retention.retention_days", .outOfRange,
          "expected an integer, got str", .error⟩,
        ⟨"object_lock", "", "default_retention.retention_days", .requiresField,
          "default_retention requires retention_days when no token is given", .error⟩] := by
    decide +kernel
  cases outcome : (compile textPeriod).outcome with
  | error fault =>
    rw [outcome] at returns
    cases returns
  | ok result =>
    have said (v : Violation) := Compilation.mem_violations_of_mismatched (v := v) outcome
      (by decide +kernel)
    rw [logged] at said
    exact ⟨result, rfl, ⟨_, (said _).mpr List.mem_cons_self, by decide +kernel, rfl⟩,
      _, (said _).mpr (List.mem_cons_of_mem _ List.mem_cons_self), rfl, rfl, rfl⟩

end BucketPlan
