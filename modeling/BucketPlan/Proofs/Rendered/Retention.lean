import BucketPlan.Proofs.Rendered.Accepted
import BucketPlan.Proofs.Rendered.Calls
import BucketPlan.Proofs.Rendered.Member

namespace BucketPlan

/-- A value that says of a retention what it sets, and nothing else. -/
structure Retention.IsStatedBy (r : Retention) (stated : Value) : Prop where
  mode : stated.member? "Mode" = r.mode.map .str
  days : stated.member? "Days" = r.days.map .int
  years : stated.member? "Years" = r.years.map .int
  only : (stated.members.map Prod.fst).Sublist ["Mode", "Days", "Years"]

/-- A single call locks objects, and the retention is what it locks them for. -/
def StateRetention (requests : List Request) (r : Retention) : Prop :=
  ∃ call stated, callsOf .putObjectLock requests = [call] ∧
    call.params.memberAt? ["ObjectLockConfiguration", "Rule", "DefaultRetention"] = some stated ∧
    r.IsStatedBy stated

theorem not_stateRetention {requests : List Request} (silent : callsOf .putObjectLock requests = [])
    (r : Retention) : ¬StateRetention requests r := by
  intro stated
  obtain ⟨call, _, single, _⟩ := stated
  cases silent.symm.trans single

namespace ObjectLockPlan

variable {lock : ObjectLockPlan}

theorem retentionFields_eq (legal : lock.retention.IsLegal lock.token.isSome) :
    lock.retentionFields = fieldIfSet "Mode" lock.retention.mode ++
      fieldIfSet "Days" lock.retention.days ++ fieldIfSet "Years" lock.retention.years := by
  have filled : lock.retention.mode ≠ some "" := fun empty =>
    absurd (legal.mode "" empty) (by decide)
  rw [retentionFields, fieldsIf_isFilled filled]

theorem isStatedBy_retentionFields (legal : lock.retention.IsLegal lock.token.isSome) :
    lock.retention.IsStatedBy (.record lock.retentionFields) := by
  rw [retentionFields_eq legal]
  refine ⟨?_, ?_, ?_, ?_⟩
  · simp
  · simp
  · simp
  · rw [Value.members_record, List.map_append, List.map_append]
    exact ((names_fieldIfSet_sublist _ _).append (names_fieldIfSet_sublist _ _)).append
      (names_fieldIfSet_sublist _ _)

theorem retentionFields_ne_nil (legal : lock.retention.IsLegal lock.token.isSome)
    (set : lock.retention.mode ≠ none ∨ lock.retention.days ≠ none ∨
      lock.retention.years ≠ none) : lock.retentionFields ≠ [] := by
  rw [retentionFields_eq legal]
  intro empty
  simp only [List.append_eq_nil_iff, fieldIfSet_eq_nil] at empty
  obtain ⟨⟨mode, days⟩, years⟩ := empty
  rcases set with set | set | set
  · exact set mode
  · exact set days
  · exact set years

/-- Only an empty token without a mode goes for a token in the checks and for none in the request. -/
theorem isConfigured_iff (legal : lock.retention.IsLegal lock.token.isSome) :
    lock.isConfigured = true ↔ ¬(lock.retention.mode = none ∧ lock.token = some "") := by
  rw [isConfigured, Bool.or_eq_true, Retention.isFilled_mode legal.mode, isFilled_iff, not_and_or]
  refine or_congr_right' fun unset => ?_
  cases token : lock.token with
  | none =>
    rw [token] at legal
    exact absurd (Classical.not_not.mp unset) (legal.complete rfl).1
  | some token => simp

end ObjectLockPlan

namespace Plan

variable {plan : Plan} {lock : ObjectLockPlan}

/-- The call that locks objects states the retention, where it is made at all. -/
theorem lockCalls_eq (planned : plan.objectLock = some lock) (configured : lock.isConfigured = true)
    (fields : lock.retentionFields ≠ []) :
    ∃ call, plan.lockCalls = [call] ∧
      call.params.memberAt? ["ObjectLockConfiguration", "Rule", "DefaultRetention"] =
        some (.record lock.retentionFields) := by
  have nonempty : lock.retentionFields.isEmpty = false := List.isEmpty_eq_false_iff.mpr fields
  simp only [lockCalls, planned, callIf, configured]
  refine ⟨_, rfl, ?_⟩
  simp [call, ObjectLockPlan.request, nonempty]

theorem lockCalls_eq_nil (planned : plan.objectLock = some lock)
    (unconfigured : lock.isConfigured = false) : plan.lockCalls = [] := by
  simp [lockCalls, planned, callIf, unconfigured]

end Plan

/-- A retention is accepted only for a lock that is planned, under the rules of that plan. -/
theorem Descriptor.Yields.locked {d : Descriptor} {options : Options} {plan : Plan}
    (yields : d.Yields options plan) {lock : ObjectLock} (given : lock ∈ d.objectLock)
    {retention : Retention} (kept : retention ∈ lock.retention) :
    ∃ locked, plan.objectLock = some locked ∧ locked.token = lock.token ∧
      locked.retention = retention ∧ locked.retention.IsLegal locked.token.isSome := by
  have valid := yields.isValid.objectLock
  refine ⟨⟨lock.token, retention⟩, ?_, rfl, rfl, valid.retention lock given retention kept⟩
  rw [yields.objectLock_eq, valid.enabled (Option.ne_none_iff_exists'.mpr ⟨lock, given⟩),
    Option.mem_def.mp given]
  simp [ObjectLock.plan, Option.mem_def.mp kept]

/-- An accepted retention is asked for with all that it sets, unless it has no mode and comes with an
empty token: then it is lost. -/
theorem compile_retention {value : Value} {options : Options} {result : Result}
    (returned : (compile value options).outcome = .ok result) (bundled : result.state = .bundled)
    {lock : ObjectLock} (given : lock ∈ (Descriptor.ofValue value).objectLock)
    {retention : Retention} (kept : retention ∈ lock.retention)
    (set : retention.mode ≠ none ∨ retention.days ≠ none ∨ retention.years ≠ none) (minutes : Int) :
    ∃ plan requests, result.plan = some plan ∧ plan.requests minutes = .ok requests ∧
      (StateRetention requests retention ↔ ¬(retention.mode = none ∧ lock.token = some "")) ∧
      (retention.mode = none ∧ lock.token = some "" → callsOf .putObjectLock requests = []) := by
  obtain ⟨plan, found, yields⟩ := compile_yields returned bundled
  obtain ⟨requests, rendered⟩ := yields.requests_return minutes
  obtain ⟨locking, _, _⟩ := Plan.callsOf_requests rendered
  obtain ⟨locked, planned, token, rfl, legal⟩ := yields.locked given kept
  refine ⟨plan, requests, found, rendered, ?_⟩
  rw [← token]
  by_cases lost : locked.retention.mode = none ∧ locked.token = some ""
  · have unconfigured := Bool.eq_false_iff.mpr fun asked =>
      (ObjectLockPlan.isConfigured_iff legal).mp asked lost
    have silent : callsOf .putObjectLock requests = [] := by
      rw [locking, Plan.lockCalls_eq_nil planned unconfigured]
    exact ⟨iff_of_false (not_stateRetention silent _) (not_not_intro lost), fun _ => silent⟩
  · have configured := (ObjectLockPlan.isConfigured_iff legal).mpr lost
    obtain ⟨call, single, stated⟩ := Plan.lockCalls_eq planned configured
      (ObjectLockPlan.retentionFields_ne_nil legal set)
    refine ⟨iff_of_true ?_ lost, fun both => absurd both lost⟩
    exact ⟨call, _, locking.trans single, stated, ObjectLockPlan.isStatedBy_retentionFields legal⟩

/-- An archive that is kept for seven years. -/
def keptArchive : Value :=
  .record [("name", .str "archive"), ("enables_object_lock", .bool true),
    ("object_lock", .record [("default_retention",
      .record [("retention_mode", .str "COMPLIANCE"), ("retention_years", .int 7)])])]

theorem compile_keptArchive_retention :
    ∃ result plan requests, (compile keptArchive).outcome = .ok result ∧ result.state = .bundled ∧
      result.plan = some plan ∧ plan.requests = .ok requests ∧
      StateRetention requests { mode := some "COMPLIANCE", years := some 7 } := by
  have complete : (compile keptArchive).outcome.toOption.map Result.state = some .bundled := by
    decide +kernel
  obtain ⟨result, returned, bundled⟩ := compile_returns_bundled complete
  obtain ⟨plan, requests, made, rendered, stated, _⟩ := compile_retention returned bundled
    (show _ ∈ some _ from rfl) (show _ ∈ some _ from rfl) (by decide +kernel)
    ReplicationRulePlan.thresholdMinutes
  exact ⟨result, plan, requests, returned, bundled, made, rendered, stated.mpr (by decide +kernel)⟩

/-- A bucket that is kept for five days, with an empty token and without a mode. -/
def amendedArchive : Value :=
  .record [("name", .str "bucket-x"), ("enables_object_lock", .bool true),
    ("object_lock", .record [("token", .str ""),
      ("default_retention", .record [("retention_days", .int 5)])])]

theorem compile_amendedArchive_loses_retention :
    ∃ result plan requests, (compile amendedArchive).outcome = .ok result ∧ result.state = .bundled ∧
      result.plan = some plan ∧ plan.requests = .ok requests ∧
      (Descriptor.ofValue amendedArchive).objectLock = some ⟨some "", some { days := some 5 }⟩ ∧
      ¬StateRetention requests { days := some 5 } := by
  have complete : (compile amendedArchive).outcome.toOption.map Result.state = some .bundled := by
    decide +kernel
  obtain ⟨result, returned, bundled⟩ := compile_returns_bundled complete
  obtain ⟨plan, made, yields⟩ := compile_yields returned bundled
  obtain ⟨requests, rendered⟩ := yields.requests_return ReplicationRulePlan.thresholdMinutes
  have given : (Descriptor.ofValue amendedArchive).objectLock =
      some ⟨some "", some { days := some 5 }⟩ := by decide +kernel
  obtain ⟨locked, planned, token, retention, _⟩ := yields.locked given rfl
  have unconfigured : locked.isConfigured = false := by
    rw [ObjectLockPlan.isConfigured, token, retention]
    rfl
  have silent : callsOf .putObjectLock requests = [] := by
    rw [(Plan.callsOf_requests rendered).1, Plan.lockCalls_eq_nil planned unconfigured]
  exact ⟨result, plan, requests, returned, bundled, made, rendered, given, not_stateRetention silent _⟩

end BucketPlan
