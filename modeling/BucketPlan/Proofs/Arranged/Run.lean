import BucketPlan.Proofs.Arranged.Destinations
import BucketPlan.Proofs.Arranged.Plans
import BucketPlan.Proofs.Verdict

namespace BucketPlan

namespace Log

/-- Without errors no absence is held back, so that all findings are reported as they come. -/
theorem record_of_passes {log : Log} {findings : List Finding} (clean : log.hasErrors = false)
    (passes : Passes findings) : log.record findings = log ++ findings.map Finding.reported := by
  induction findings generalizing log with
  | nil => exact (List.append_nil log).symm
  | cons finding rest ih =>
    obtain ⟨own, others⟩ := List.forall_mem_cons.mp passes
    have settled : log.settle finding = log ++ [finding.reported] := by
      cases finding with
      | violation v => rfl
      | absence v =>
        refine if_neg fun known => ?_
        rw [hasErrors_of_hasErrorAt known] at clean
        cases clean
    have clean' : (log ++ [finding.reported]).hasErrors = false := by
      rw [hasErrors, List.any_append, ← hasErrors, clean]
      simpa using own
    rw [record_cons, settled, ih clean' others, List.append_assoc, List.map_cons,
      List.singleton_append]

theorem rejects_perm {log other : Log} (perm : log.Perm other) (strict : Bool) :
    log.rejects strict = other.rejects strict := by
  refine Bool.eq_iff_iff.mpr ?_
  rw [rejects_eq_true_iff, rejects_eq_true_iff, isAcceptable_perm perm]

theorem record_perm {log other : Log} {findings findings' : List Finding} (logs : log.Perm other)
    (perm : findings.Perm findings') (clean : (log.record findings).hasErrors = false) :
    (log.record findings).Perm (other.record findings') := by
  obtain ⟨before, passes⟩ := (log.hasErrors_record_eq_false findings).mp clean
  have before' : other.hasErrors = false := by rwa [hasErrors, ← logs.any_eq, ← hasErrors]
  have passes' : Passes findings' := fun finding member => passes finding (perm.mem_iff.mpr member)
  rw [record_of_passes before passes, record_of_passes before' passes']
  exact logs.append (perm.map Finding.reported)

end Log

namespace Descriptor

theorem allFindings_perm {d d' : Descriptor} (same : d.arrange = d'.arrange) :
    d.allFindings.Perm d'.allFindings := by
  have perm := d.allFindings_arrange_perm
  rw [same] at perm
  exact perm.symm.trans d'.allFindings_arrange_perm

theorem ruleFindings_perm {d d' : Descriptor} (same : d.arrange = d'.arrange) (settled : d.IsSettled)
    (options : Options) : (d.ruleFindings options).Perm (d'.ruleFindings options) := by
  have settled' : d'.IsSettled := isSettled_arrange.mp (same ▸ isSettled_arrange.mpr settled)
  have perm := settled.ruleFindings_arrange_perm options
  rw [same] at perm
  exact perm.symm.trans (settled'.ruleFindings_arrange_perm options)

end Descriptor

namespace Compilation

/-- Two compilations of descriptions that differ in order only. -/
structure SameUpToOrder (c c' : Compilation) : Prop where
  log : c.log.Perm c'.log
  descriptor : c.descriptor.arrange = c'.descriptor.arrange
  options : c.options = c'.options

variable {c c' : Compilation} {log log' : Log} {p : Plan} {plan : Option Plan}
  {states states' : List State}

theorem SameUpToOrder.resolve (same : c.SameUpToOrder c') :
    c.descriptor.resolve.arrange = c'.descriptor.resolve.arrange := by
  rw [← Descriptor.resolve_arrange, same.descriptor, Descriptor.resolve_arrange]

theorem SameUpToOrder.checked_perm (same : c.SameUpToOrder c') (clean : c.checked.hasErrors = false) :
    c.checked.Perm c'.checked :=
  Log.record_perm same.log (Descriptor.allFindings_perm same.descriptor) clean

theorem SameUpToOrder.planned_perm (same : c.SameUpToOrder c') (clean : c.planned.hasErrors = false) :
    c.planned.Perm c'.planned := by
  -- without errors in the first log, its rules are settled, and so are those of the second
  obtain ⟨before, planning⟩ := (Log.hasErrors_record_eq_false _ _).mp clean
  obtain ⟨_, checks⟩ := (Log.hasErrors_record_eq_false _ _).mp before
  have settled := Descriptor.isSettled_resolve checks planning
  have rules := Descriptor.ruleFindings_perm same.resolve settled c.options
  rw [planned, planned, ← same.options]
  exact Log.record_perm (same.checked_perm before) rules clean

/-- Where one compilation comes to a plan, the other comes to the same one, up to order. -/
theorem Course.sameUpToOrder (course : c.Course log (some p) states) (same : c.SameUpToOrder c')
    (course' : c'.Course log' plan states') :
    log'.Perm log ∧ ∃ q, plan = some q ∧ p.SameUpToOrder q := by
  cases course with
  | complete passed accepted replicated made =>
    have checked := same.checked_perm (Log.hasErrors_of_not_rejects passed)
    have planned := same.planned_perm (Log.hasErrors_of_not_rejects accepted)
    rw [same.options, Log.rejects_perm checked] at passed
    rw [same.options, Log.rejects_perm planned] at accepted
    cases course' with
    | turnedDown rejected => cases passed.symm.trans rejected
    | unplannable _ rejected => cases accepted.symm.trans rejected
    | complete _ _ replicated' made' =>
      exact ⟨planned.symm, _, rfl,
        Descriptor.sameUpToOrder_of_plan same.resolve replicated replicated' made made'⟩

theorem Course.destinationAddresses (course : c.Course log (some p) states) :
    p.destinationAddresses = c.descriptor.destinationNames := by
  obtain ⟨passes, replication, _, made⟩ := course.made
  exact Descriptor.destinationAddresses_of_plan passes made

theorem Course.mismatches_eq_nil {value : Value} {options : Options}
    (course : (ofValue value options).Course log (some p) states) : Descriptor.mismatches value = [] := by
  cases course with
  | complete passed =>
    by_contra mismatched
    have errors := Descriptor.rejects_mismatches mismatched false
    have clean := ((Log.hasErrors_record_eq_false _ _).mp (Log.hasErrors_of_not_rejects passed)).1
    cases errors.symm.trans clean

end Compilation

/-- A plan does not depend on the order in which anything under names of the user's own is given. Where
one description is planned, so is another one in another order, with the same violations and the same
plan but for the order of rules and destinations, where the destinations follow their description. -/
theorem compile_rearranged {v w : Value} (rearranged : Descriptor.shape.Rearranges v w)
    {options : Options} {first : Result} (returned : (compile v options).outcome = .ok first)
    (bundled : first.state = .bundled) :
    ∃ second p q, (compile w options).outcome = .ok second ∧ second.state = .bundled ∧
      second.violations.Perm first.violations ∧ first.plan = some p ∧ second.plan = some q ∧
      p.SameUpToOrder q ∧ p.destinationAddresses = v.destinationNames ∧
      q.destinationAddresses = w.destinationNames := by
  have same : (Compilation.ofValue v options).SameUpToOrder (.ofValue w options) :=
    ⟨rearranged.mismatches_perm {}, Descriptor.arrange_ofValue rearranged, rfl⟩
  obtain ⟨distinct, distinct'⟩ := Descriptor.distinct_destinationNames rearranged
  obtain ⟨log, plan, states, course, placeable, rfl⟩ :=
    Compilation.course_of_returned ⟨rfl, rfl⟩ returned
  obtain ⟨p, rfl⟩ := Option.isSome_iff_exists.mp (Compilation.verdict_bundled.mp bundled)
  obtain ⟨plan', states', course', outcome⟩ :=
    Compilation.run_course (c := .ofValue w options) ⟨rfl, rfl⟩
  obtain ⟨perm, q, rfl, alike⟩ := course.sameUpToOrder same course'
  obtain ⟨violations, sorted⟩ := Log.sorted_returns_iff.mpr fun violation member =>
    placeable violation (perm.mem_iff.mp member)
  rw [sorted] at outcome
  refine ⟨_, p, q, outcome, rfl, ?_, rfl, rfl, alike, ?_, ?_⟩
  · exact (Log.sorted_perm sorted).trans (perm.trans (List.mergeSort_perm log _).symm)
  · rw [course.destinationAddresses]
    exact Descriptor.destinationNames_ofValue course.mismatches_eq_nil distinct
  · rw [course'.destinationAddresses]
    exact Descriptor.destinationNames_ofValue course'.mismatches_eq_nil distinct'

/-- A site with some tags that tells the destinations given about new objects. -/
def tellingSite (tags addresses : List String) : Value :=
  .record [("name", .str "site-logs"), ("tags", .record (tags.map fun tag => (tag, .str tag))),
    ("notifications", .record [("destinations", .record (addresses.map fun address =>
      (address, .record [("events", .str "s3:ObjectCreated:*")])))])]

theorem rearrangesBy_turned {related : Value → Value → Prop} {a b : String} {x y : Value}
    (differ : a ≠ b) (first : related x x) (second : related y y) :
    Value.RearrangesBy related (.record [(a, x), (b, y)]) (.record [(b, y), (a, x)]) := by
  have distinct : [a, b].Nodup :=
    List.nodup_cons.mpr ⟨fun same => differ (List.mem_singleton.mp same), List.nodup_singleton b⟩
  refine (if_pos rfl).mpr ⟨rfl, distinct, [(b, y), (a, x)], .swap _ _ _, ?_⟩
  exact .cons ⟨rfl, second⟩ (.cons ⟨rfl, first⟩ .nil)

theorem rearranges_tellingSite : Descriptor.shape.Rearranges
    (tellingSite ["team", "env"] ["arn:aws:sqs:::queue", "arn:aws:lambda:::notify"])
    (tellingSite ["env", "team"] ["arn:aws:lambda:::notify", "arn:aws:sqs:::queue"]) := by
  have tags : Value.RearrangesBy (fun a b => Shape.text.Rearranges a b)
      (.record [("team", .str "team"), ("env", .str "env")])
      (.record [("env", .str "env"), ("team", .str "team")]) :=
    rearrangesBy_turned (by decide) rfl rfl
  refine (if_pos rfl).mpr ⟨rfl, ⟨rfl, rfl⟩, ⟨rfl, rfl⟩, ⟨rfl, tags⟩, ⟨rfl, rfl⟩, ⟨rfl, rfl⟩,
    ⟨rfl, rfl⟩, ⟨rfl, rfl⟩, ⟨rfl, rfl⟩, ⟨rfl, rfl⟩, ⟨rfl, rfl⟩, ⟨rfl, rfl⟩, ⟨rfl, rfl⟩, ⟨rfl, rfl⟩,
    ⟨rfl, rfl⟩, ⟨rfl, ?_⟩, ⟨rfl, rfl⟩, ⟨rfl, rfl⟩, ⟨rfl, rfl⟩, ⟨rfl, rfl⟩, trivial⟩
  refine (if_pos rfl).mpr ⟨rfl, ⟨rfl, ?_⟩, ⟨rfl, rfl⟩, trivial⟩
  exact rearrangesBy_turned (by decide) rfl rfl

theorem compile_tellingSite_rearranged :
    ∃ first second p q,
      (compile (tellingSite ["team", "env"] ["arn:aws:sqs:::queue", "arn:aws:lambda:::notify"])).outcome =
        .ok first ∧ first.state = .bundled ∧
      (compile (tellingSite ["env", "team"] ["arn:aws:lambda:::notify", "arn:aws:sqs:::queue"])).outcome =
        .ok second ∧ second.state = .bundled ∧
      second.violations.Perm first.violations ∧ first.plan = some p ∧ second.plan = some q ∧
      p.SameUpToOrder q ∧
      p.destinationAddresses = ["arn:aws:sqs:::queue", "arn:aws:lambda:::notify"] ∧
      q.destinationAddresses = ["arn:aws:lambda:::notify", "arn:aws:sqs:::queue"] := by
  have planned : (compile (tellingSite ["team", "env"]
      ["arn:aws:sqs:::queue", "arn:aws:lambda:::notify"])).outcome.toOption.map Result.state =
        some .bundled := by
    decide +kernel
  obtain ⟨first, found, bundled⟩ := Option.map_eq_some_iff.mp planned
  have returned := eq_ok_of_toOption found
  obtain ⟨second, p, q, returned', bundled', perm, made, made', alike, addresses, addresses'⟩ :=
    compile_rearranged rearranges_tellingSite returned bundled
  exact ⟨first, second, p, q, returned, bundled, returned', bundled', perm, made, made', alike,
    addresses, addresses'⟩

end BucketPlan
