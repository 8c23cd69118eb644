import BucketPlan.Proofs.Arranged.Run
import BucketPlan.Proofs.Removal.Findings
import BucketPlan.Proofs.Removal.Listed

namespace BucketPlan

namespace Log

variable {log part : Log}

/-- A log that speaks for a description still does when violations are taken out of it. -/
theorem rejects_sublist (sub : part.Sublist log) {strict : Bool} (accepted : log.rejects strict = false) :
    part.rejects strict = false := by
  rw [rejects_eq_false_iff] at accepted ⊢
  cases strict with
  | false => exact fun v member => accepted v (sub.subset member)
  | true =>
    have empty : log = [] := accepted
    exact List.sublist_nil.mp (empty ▸ sub)

theorem hasErrors_sublist (sub : part.Sublist log) (clean : log.hasErrors = false) :
    part.hasErrors = false := by
  have accepted : log.rejects false = false := clean
  exact rejects_sublist sub accepted

theorem record_sublist {findings findings' : List Finding} (logs : part.Sublist log)
    (sub : findings'.Sublist findings) (clean : (log.record findings).hasErrors = false) :
    (part.record findings').Sublist (log.record findings) := by
  obtain ⟨before, passes⟩ := (log.hasErrors_record_eq_false findings).mp clean
  rw [record_of_passes before passes, record_of_passes (hasErrors_sublist logs before) (passes.sublist sub)]
  exact logs.append (sub.map Finding.reported)

end Log

namespace Value

variable {v w : Value}

theorem KeepsSomeEntries.nodup_names (keeps : v.KeepsSomeEntries w) (distinct : v.names.Nodup) :
    w.names.Nodup :=
  (keeps.namedEntries_sublist.map Prod.fst).nodup distinct

theorem HasDistinctNames.leaveOut (distinct : v.HasDistinctNames)
    (left : Descriptor.shape.LeavesOut v w) : w.HasDistinctNames := by
  rcases left.cases_record with ⟨_, _, members⟩ | ⟨_, rfl⟩
  · obtain ⟨_, _, ⟨_, tags⟩, _, _, _, _, _, _, _, _, _, _, _, ⟨_, notifications⟩,
      ⟨_, lifecycleRules⟩, ⟨_, replication⟩, ⟨_, inventoryRules⟩, ⟨_, tieringRules⟩, _⟩ := members
    refine ⟨tags.nodup_names distinct.tags, lifecycleRules.nodup_names distinct.lifecycleRules,
      inventoryRules.nodup_names distinct.inventoryRules, tieringRules.nodup_names distinct.tieringRules,
      ?_, ?_⟩
    · rcases replication.cases_record with ⟨_, _, _, ⟨_, rules⟩, _⟩ | ⟨_, same⟩
      · exact rules.nodup_names distinct.replicationRules
      · rw [same]
        exact distinct.replicationRules
    · rcases notifications.cases_record with ⟨_, _, ⟨_, destinations⟩, _⟩ | ⟨_, same⟩
      · exact destinations.nodup_names distinct.destinations
      · rw [same]
        exact distinct.destinations
  · exact distinct

/-- A replication that is asked for lists some rule. -/
def ListsReplicationRules (value : Value) : Prop :=
  (value.get "replication").isMap = true → ((value.get "replication").get "rules").names ≠ []

end Value

theorem Descriptor.hasReplicationRules_ofValue {value : Value} (fits : shape.Fits value)
    (distinct : value.HasDistinctNames) (lists : value.ListsReplicationRules) :
    (ofValue value).HasReplicationRules := by
  intro replication given
  have own : (Shape.optional Replication.shape).Fits (value.get "replication") := fits.get (by simp)
  have names := Replication.names_ofValue own distinct.replicationRules
  have read : (value.get "replication").record? Replication.ofValue = some replication := given
  have isMap : (value.get "replication").isMap = true := by
    rw [Value.record?] at read
    split at read
    · assumption
    · cases read
  rw [read, Option.toList_some, List.flatMap_singleton] at names
  have some := lists isMap
  rw [← names, Keyed.names] at some
  rw [Keyed.isEmpty, List.isEmpty_eq_false_iff]
  exact fun empty => some (by rw [empty, List.map_nil])

namespace Compilation

/-- A compilation of a part of the description of another one. -/
structure IsReducedTo (c c' : Compilation) : Prop where
  log : c'.log.Sublist c.log
  descriptor : c.descriptor.IsReducedTo c'.descriptor
  rules : c'.descriptor.HasReplicationRules
  options : c'.options = c.options

variable {c c' : Compilation} {log log' : Log} {p : Plan} {plan : Option Plan}
  {states states' : List State}

theorem IsReducedTo.checked_sublist (reduced : c.IsReducedTo c') (clean : c.checked.hasErrors = false) :
    c'.checked.Sublist c.checked := by
  have passes := ((Log.hasErrors_record_eq_false _ _).mp clean).2
  exact Log.record_sublist reduced.log (reduced.descriptor.allFindings_sublist passes reduced.rules) clean

theorem IsReducedTo.planned_sublist (reduced : c.IsReducedTo c') (clean : c.planned.hasErrors = false) :
    c'.planned.Sublist c.planned := by
  -- without errors in the log its rules are settled, so that leaving some out raises no new question
  obtain ⟨before, planning⟩ := (Log.hasErrors_record_eq_false _ _).mp clean
  obtain ⟨_, checks⟩ := (Log.hasErrors_record_eq_false _ _).mp before
  have settled := Descriptor.isSettled_resolve checks planning
  have rules := reduced.descriptor.resolve.ruleFindings_sublist settled c.options
  rw [planned, reduced.options]
  exact Log.record_sublist (reduced.checked_sublist before) rules clean

/-- Where a compilation comes to a plan, that of a part of its description comes to a part of the plan. -/
theorem Course.isReducedTo (course : c.Course log (some p) states) (reduced : c.IsReducedTo c')
    (course' : c'.Course log' plan states') :
    log'.Sublist log ∧ ∃ q, plan = some q ∧ p.IsReducedTo q := by
  cases course with
  | complete passed accepted replicated made =>
    have checked := reduced.checked_sublist (Log.hasErrors_of_not_rejects passed)
    have planned := reduced.planned_sublist (Log.hasErrors_of_not_rejects accepted)
    have passed' := Log.rejects_sublist checked passed
    have accepted' := Log.rejects_sublist planned accepted
    rw [← reduced.options] at passed' accepted'
    cases course' with
    | turnedDown rejected => cases passed'.symm.trans rejected
    | unplannable _ rejected => cases accepted'.symm.trans rejected
    | complete _ _ replicated' made' =>
      exact ⟨planned, _, rfl, reduced.descriptor.resolve.plan replicated replicated' made made'⟩

theorem Course.lists {value : Value} {options : Options}
    (course : (ofValue value options).Course log (some p) states) (distinct : value.HasDistinctNames) :
    p.Lists value := by
  obtain ⟨passes, rules, replicated, made⟩ := course.made
  have fits := Shape.fits_of_mismatches course.mismatches_eq_nil
  exact Descriptor.lists_of_plan fits distinct passes replicated made

end Compilation

/-- No rule, destination or tag depends on the others. A description that is planned is still planned
without some of them, where some rule for replicas is left if there is to be replication, and with no
other violations than before. Both plans have exactly what their descriptions list, and what is in the
second plan is as it was in the first one, and in the same order. -/
theorem compile_withoutSome {v w : Value} (left : Descriptor.shape.LeavesOut v w)
    (distinct : v.HasDistinctNames) (remaining : w.ListsReplicationRules) {options : Options}
    {first : Result} (returned : (compile v options).outcome = .ok first)
    (bundled : first.state = .bundled) :
    ∃ second p q, (compile w options).outcome = .ok second ∧ second.state = .bundled ∧
      second.violations.Sublist first.violations ∧ first.plan = some p ∧ second.plan = some q ∧
      p.Lists v ∧ q.Lists w ∧ p.IsReducedTo q := by
  obtain ⟨log, plan, states, course, placeable, rfl⟩ :=
    Compilation.course_of_returned ⟨rfl, rfl⟩ returned
  obtain ⟨p, rfl⟩ := Option.isSome_iff_exists.mp (Compilation.verdict_bundled.mp bundled)
  have fits' := left.fits (Shape.fits_of_mismatches course.mismatches_eq_nil)
  have distinct' := distinct.leaveOut left
  have reduced : (Compilation.ofValue v options).IsReducedTo (.ofValue w options) := by
    refine ⟨?_, Descriptor.isReducedTo_ofValue left distinct,
      Descriptor.hasReplicationRules_ofValue fits' distinct' remaining, rfl⟩
    have silent : (Compilation.ofValue w options).log = [] := fits' {}
    rw [silent]
    exact List.nil_sublist _
  obtain ⟨plan', states', course', outcome⟩ :=
    Compilation.run_course (c := .ofValue w options) ⟨rfl, rfl⟩
  obtain ⟨sub, q, rfl, part⟩ := course.isReducedTo reduced course'
  obtain ⟨violations, sorted⟩ := Log.sorted_returns_iff.mpr fun violation member =>
    placeable violation (sub.subset member)
  rw [sorted] at outcome
  refine ⟨_, p, q, outcome, rfl, ?_, rfl, rfl, course.lists distinct, course'.lists distinct', part⟩
  rw [Compilation.verdict, Log.sorted_eq_mergeSort sorted]
  exact mergeSort_sublist Violation.comesBefore_trans Violation.comesBefore_total sub

/-- A site whose tags, origins, destinations and rules are as listed. Rules expire objects and copy them
to a bucket of their own name, those of longer names first. -/
def sharedSite (tags origins addresses rules : List String) : Value :=
  .record [("name", .str "site-logs"), ("tags", .record (tags.map fun tag => (tag, .str tag))),
    ("cors_rules", .list (origins.map fun origin =>
      .record [("allowed_methods", .str "get"), ("allowed_origins", .str origin)])),
    ("notifications", .record [("destinations", .record (addresses.map fun address =>
      (address, .record [("events", .str "s3:ObjectCreated:*")])))]),
    ("lifecycle_rules", .record (rules.map fun rule =>
      (rule, .record [("expiration", .record [("days_after_object_creation", .int 30)])]))),
    ("replication", .record [("role", .str "arn:aws:iam::123456789012:role/copier"),
      ("rules", .record (rules.map fun rule =>
        (rule, .record [("destination_bucket", .str rule), ("priority", .int rule.length)])))])]

theorem Value.keepsSomeEntries_record {fields kept : List (String × Value)} (sub : kept.Sublist fields) :
    (record fields).KeepsSomeEntries (record kept) := by
  refine (if_pos rfl).mpr ⟨rfl, ?_⟩
  rwa [namedEntries_record, namedEntries_record]

theorem leavesOut_sharedSite {tags origins addresses rules tags' origins' addresses' rules' : List String}
    (fewerTags : tags'.Sublist tags) (fewerOrigins : origins'.Sublist origins)
    (fewerAddresses : addresses'.Sublist addresses) (fewerRules : rules'.Sublist rules) :
    Descriptor.shape.LeavesOut (sharedSite tags origins addresses rules)
      (sharedSite tags' origins' addresses' rules') := by
  refine (if_pos rfl).mpr ⟨rfl, ⟨rfl, rfl⟩, ⟨rfl, rfl⟩, ⟨rfl, ?_⟩, ⟨rfl, rfl⟩, ⟨rfl, rfl⟩, ⟨rfl, rfl⟩,
    ⟨rfl, rfl⟩, ⟨rfl, rfl⟩, ⟨rfl, rfl⟩, ⟨rfl, rfl⟩, ⟨rfl, rfl⟩, ⟨rfl, rfl⟩, ⟨rfl, ?_⟩, ⟨rfl, rfl⟩,
    ⟨rfl, ?_⟩, ⟨rfl, ?_⟩, ⟨rfl, ?_⟩, ⟨rfl, rfl⟩, ⟨rfl, rfl⟩, trivial⟩
  · exact Value.keepsSomeEntries_record (fewerTags.map _)
  · exact ⟨_, rfl, fewerOrigins.map _⟩
  · have destinations := Value.keepsSomeEntries_record (fewerAddresses.map fun address =>
      (address, Value.record [("events", .str "s3:ObjectCreated:*")]))
    exact (if_pos rfl).mpr ⟨rfl, ⟨destinations.isTrue, destinations⟩, ⟨rfl, rfl⟩, trivial⟩
  · exact Value.keepsSomeEntries_record (fewerRules.map _)
  · refine (if_pos rfl).mpr ⟨rfl, ⟨rfl, rfl⟩, ⟨rfl, ?_⟩, trivial⟩
    exact Value.keepsSomeEntries_record (fewerRules.map _)

theorem compile_sharedSite_withoutSome :
    ∃ first second p q,
      (compile (sharedSite ["team", "env"] ["a.org", "b.org", "c.org"]
        ["arn:aws:sqs:::queue", "arn:aws:lambda:::notify"] ["old", "older"]) { strict := true }).outcome =
          .ok first ∧ first.state = .bundled ∧
      (compile (sharedSite ["env"] ["a.org", "c.org"] ["arn:aws:lambda:::notify"] ["old"])
        { strict := true }).outcome = .ok second ∧ second.state = .bundled ∧
      second.violations.Sublist first.violations ∧ first.plan = some p ∧ second.plan = some q ∧
      p.IsReducedTo q ∧ q.destinationAddresses = ["arn:aws:lambda:::notify"] ∧
      q.replicationNames.Perm ["old"] := by
  have left := leavesOut_sharedSite (by decide : ["env"].Sublist ["team", "env"])
    (by decide : ["a.org", "c.org"].Sublist ["a.org", "b.org", "c.org"])
    (by decide : ["arn:aws:lambda:::notify"].Sublist ["arn:aws:sqs:::queue", "arn:aws:lambda:::notify"])
    (by decide : ["old"].Sublist ["old", "older"])
  have distinct : (sharedSite ["team", "env"] ["a.org", "b.org", "c.org"]
      ["arn:aws:sqs:::queue", "arn:aws:lambda:::notify"] ["old", "older"]).HasDistinctNames := by
    constructor <;> decide +kernel
  have planned : (compile (sharedSite ["team", "env"] ["a.org", "b.org", "c.org"]
      ["arn:aws:sqs:::queue", "arn:aws:lambda:::notify"] ["old", "older"])
      { strict := true }).outcome.toOption.map Result.state = some .bundled := by
    decide +kernel
  obtain ⟨first, found, bundled⟩ := Option.map_eq_some_iff.mp planned
  have returned := eq_ok_of_toOption found
  obtain ⟨second, p, q, returned', bundled', fewer, made, made', _, lists, part⟩ :=
    compile_withoutSome left distinct (fun _ => by decide +kernel) returned bundled
  exact ⟨first, second, p, q, returned, bundled, returned', bundled', fewer, made, made', part,
    lists.destinations, lists.replicationRules⟩

end BucketPlan
