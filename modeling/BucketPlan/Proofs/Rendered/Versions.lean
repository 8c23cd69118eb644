import BucketPlan.Proofs.Rendered.Accepted
import BucketPlan.Proofs.Rendered.Calls
import BucketPlan.Proofs.Rendered.Member

namespace BucketPlan

/-- Objects are replicated or locked, or the bucket is made for objects that can be locked. -/
def NeedVersions (requests : List Request) : Prop :=
  callsOf .putReplication requests ≠ [] ∨ callsOf .putObjectLock requests ≠ [] ∨
    ∃ call ∈ callsOf .createBucket requests,
      call.params.member? "ObjectLockEnabledForBucket" = some (.bool true)

/-- Versions are switched on by a single call, and no call before it replicates objects or locks
them. -/
def EnableVersionsFirst (requests : List Request) : Prop :=
  ∃ before call after, requests = before ++ call :: after ∧
    callsOf .putVersioning requests = [call] ∧
    call.params.memberAt? ["VersioningConfiguration", "Status"] = some (.str "Enabled") ∧
    callsOf .putReplication before = [] ∧ callsOf .putObjectLock before = []

theorem EnableVersionsFirst.append {first : List Request} (enable : EnableVersionsFirst first)
    {rest : List Request} (silent : callsOf .putVersioning rest = []) :
    EnableVersionsFirst (first ++ rest) := by
  obtain ⟨before, call, after, rfl, single, status, replicates, locks⟩ := enable
  refine ⟨before, call, after ++ rest, by simp, ?_, status, replicates, locks⟩
  rw [callsOf_append, single, silent, List.append_nil]

namespace Plan

variable {plan : Plan} {minutes : Int} {requests : List Request}

/-- What is called before versions are switched on only sets up the bucket itself. -/
theorem enableVersionsFirst_settingCalls (versions : plan.versioning = true) :
    EnableVersionsFirst plan.settingCalls := by
  refine ⟨plan.settingCalls.take 3,
    plan.call .putVersioning [("VersioningConfiguration", .record enabledField)],
    plan.settingCalls.drop 4, ?_, ?_, ?_, ?_, ?_⟩
  · simp [settingCalls, callIf, versions]
  · rw [settingCalls, versions]
    simp
    rfl
  · simp [call, enabledField]
  · simp [settingCalls]
  · simp [settingCalls]

theorem enableVersionsFirst_requests (rendered : plan.requests minutes = .ok requests)
    (versions : plan.versioning = true) : EnableVersionsFirst requests := by
  obtain ⟨lifecycle, notification, made, announced, rfl⟩ := requests_eq rendered
  simp only [List.append_assoc]
  refine (enableVersionsFirst_settingCalls versions).append ?_
  simp [contentCalls, replicationCalls, ruleCalls, callsOf_lockCalls, callsOf_lifecycleCalls made,
    callsOf_notificationCalls announced]

theorem callsOf_requests_createBucket (rendered : plan.requests minutes = .ok requests) :
    callsOf .createBucket requests =
      [plan.call .createBucket [("ObjectLockEnabledForBucket", plain plan.objectLock.isSome),
        ("ObjectOwnership", plain plan.ownership)]] := by
  obtain ⟨lifecycle, notification, made, announced, rfl⟩ := requests_eq rendered
  simp [settingCalls, contentCalls, replicationCalls, ruleCalls, callsOf_lockCalls,
    callsOf_lifecycleCalls made, callsOf_notificationCalls announced]

/-- Only a plan with replication replicates, and only one with a lock locks. -/
theorem planned_of_needVersions (rendered : plan.requests minutes = .ok requests)
    (need : NeedVersions requests) : plan.replication ≠ none ∨ plan.objectLock ≠ none := by
  obtain ⟨locking, replicating, _⟩ := callsOf_requests rendered
  rcases need with replicates | locks | ⟨call, member, lockable⟩
  · refine Or.inl fun unplanned => replicates ?_
    rw [replicating, replicationCalls, unplanned]
    rfl
  · refine Or.inr fun unplanned => locks ?_
    rw [locking, lockCalls, unplanned]
  · rw [callsOf_requests_createBucket rendered, List.mem_singleton] at member
    subst member
    refine Or.inr fun unplanned => ?_
    simp [Plan.call, unplanned, plain] at lockable

end Plan

namespace Descriptor.Yields

variable {d : Descriptor} {options : Options} {plan : Plan}

theorem versioning_eq (yields : d.Yields options plan) :
    plan.versioning = d.versioning.getD (d.lockEnabled.getD false || d.replication.isSome) := by
  obtain ⟨replication, _, made⟩ := yields.made
  obtain ⟨website, _, ended⟩ := steps_of_bind_ok made
  cases ended
  rfl

theorem replication_given (yields : d.Yields options plan) (planned : plan.replication ≠ none) :
    ∃ replication, replication ∈ d.replication := by
  refine Option.ne_none_iff_exists'.mp fun absent => planned ?_
  obtain ⟨rules, done, made⟩ := yields.made
  obtain ⟨website, _, ended⟩ := steps_of_bind_ok made
  cases ended
  simp only [replicationPlan, resolve, absent, Option.map_none] at done
  cases done
  rfl

theorem lock_enabled (yields : d.Yields options plan) (planned : plan.objectLock ≠ none) :
    d.lockEnabled = some true := by
  rw [yields.objectLock_eq] at planned
  cases enabled : d.lockEnabled with
  | none => simp [enabled, ObjectLock.plan] at planned
  | some switched =>
    cases switched with
    | false => simp [enabled, ObjectLock.plan] at planned
    | true => rfl

/-- The checks turn down whatever needs versions and switches them off, and the defaults switch them on
for whatever needs them and does not say. -/
theorem versioning_of_planned (yields : d.Yields options plan)
    (planned : plan.replication ≠ none ∨ plan.objectLock ≠ none) : plan.versioning = true := by
  rw [yields.versioning_eq]
  rcases planned with replicates | locks
  · obtain ⟨replication, given⟩ := yields.replication_given replicates
    have allowed := (yields.isValid.replication replication given).versions
    cases set : d.versioning with
    | none => simp [Option.mem_def.mp given]
    | some switched => simpa [set] using allowed
  · have enabled := yields.lock_enabled locks
    have allowed := yields.isValid.objectLock.versions
    cases set : d.versioning with
    | none => simp [enabled]
    | some switched => simpa [set, enabled] using allowed

end Descriptor.Yields

/-- What is compiled to its end can be rendered, and the calls switch versions on before whatever needs
them, wherever something does. -/
theorem compile_versions {value : Value} {options : Options} {result : Result}
    (returned : (compile value options).outcome = .ok result) (bundled : result.state = .bundled)
    (minutes : Int) :
    ∃ plan requests, result.plan = some plan ∧ plan.requests minutes = .ok requests ∧
      (NeedVersions requests → EnableVersionsFirst requests) := by
  obtain ⟨plan, found, yields⟩ := compile_yields returned bundled
  obtain ⟨requests, rendered⟩ := yields.requests_return minutes
  refine ⟨plan, requests, found, rendered, fun need => ?_⟩
  have planned := Plan.planned_of_needVersions rendered need
  exact Plan.enableVersionsFirst_requests rendered (yields.versioning_of_planned planned)

/-- A bucket that is copied and locked, and says nothing of versions. -/
def lockedMirror : Value :=
  .record [("name", .str "mirror"), ("enables_object_lock", .bool true),
    ("object_lock", .record [("default_retention",
      .record [("retention_mode", .str "GOVERNANCE"), ("retention_days", .int 30)])]),
    ("replication", .record [("role", .str "replicator"), ("rules", .record [
      ("all", .record [("destination_bucket", .str "copy"), ("priority", .int 1)])])])]

theorem compile_lockedMirror_versions :
    ∃ result plan requests, (compile lockedMirror).outcome = .ok result ∧ result.state = .bundled ∧
      result.plan = some plan ∧ plan.requests = .ok requests ∧ NeedVersions requests ∧
      EnableVersionsFirst requests := by
  have complete : (compile lockedMirror).outcome.toOption.map Result.state = some .bundled := by
    decide +kernel
  obtain ⟨result, returned, bundled⟩ := compile_returns_bundled complete
  obtain ⟨plan, requests, made, rendered, enable⟩ :=
    compile_versions returned bundled ReplicationRulePlan.thresholdMinutes
  have replicated : ((compile lockedMirror).outcome.toOption.bind Result.plan).map
      (·.replication.isSome) = some true := by decide +kernel
  rw [returned] at replicated
  have need : NeedVersions requests := by
    refine Or.inl ?_
    obtain ⟨planned, own⟩ : ∃ planned, plan.replication = some planned := by
      simpa [Except.toOption, made, Option.isSome_iff_exists] using replicated
    simp [(Plan.callsOf_requests rendered).2.1, Plan.replicationCalls, own]
  exact ⟨result, plan, requests, returned, bundled, made, rendered, need, enable need⟩

end BucketPlan
