import BucketPlan.Proofs.Fallible
import BucketPlan.Proofs.Rendered.Member
import BucketPlan.Proofs.Valid.Replication
import BucketPlan.Replication.Request

namespace BucketPlan

/-- A rule as it stands in a plan. -/
structure ReplicationRule.IsPlannedAs (rule : ReplicationRule) (name : String)
    (planned : ReplicationRulePlan) : Prop where
  name : planned.name = name
  priority : rule.priority = some planned.priority
  nonneg : 0 ≤ planned.priority
  enabled : planned.enabled = rule.enabled
  filter : planned.filter = .ofFilter rule.filter false
  storageClass : planned.storageClass = rule.storageClass
  destination : rule.destination.map bucketAddress = some planned.destination
  address : "arn:".toList <+: planned.destination.toList
  crossing : planned.accountScope = .cross ↔ rule.transfer.isSome = true
  grant : planned.needsGrant = true ↔ rule.transfer.isSome = true

/-- A request that says of a rule what becomes of its replicas: who owns them, how they are encrypted,
and how long they may take. -/
structure ReplicationRule.IsStatedBy (rule : ReplicationRule) (name : String) (minutes : Int)
    (stated : Value) : Prop where
  name : stated.member? "ID" = some (.str name)
  priority : stated.member? "Priority" = rule.priority.map .int
  bucket : stated.memberAt? ["Destination", "Bucket"] = rule.destination.map (.str ∘ bucketAddress)
  owned : ∀ transfer ∈ rule.transfer, ∃ id ∈ transfer.accountId, strip id ≠ "" ∧
    stated.memberAt? ["Destination", "Account"] = some (.str (strip id)) ∧
    stated.memberAt? ["Destination", "AccessControlTranslation"] =
      some (.record [("Owner", .str "Destination")])
  unowned : rule.transfer = none → stated.memberAt? ["Destination", "Account"] = none ∧
    stated.memberAt? ["Destination", "AccessControlTranslation"] = none
  encrypted : ∀ encrypted ∈ rule.encrypted, ∃ key ∈ encrypted.keyId, key ≠ "" ∧
    stated.memberAt? ["Destination", "EncryptionConfiguration"] =
      some (.record [("ReplicaKmsKeyID", .str key)]) ∧
    stated.memberAt? ["SourceSelectionCriteria", "SseKmsEncryptedObjects"] = some enabledStatus
  unencrypted : rule.encrypted = none →
    stated.memberAt? ["Destination", "EncryptionConfiguration"] = none ∧
    stated.memberAt? ["SourceSelectionCriteria", "SseKmsEncryptedObjects"] = none
  timed : (stated.memberAt? ["Destination", "ReplicationTime"]).isSome = true ↔
    ∃ features ∈ rule.features, features.timeControl = some true
  metered : ∀ time ∈ stated.memberAt? ["Destination", "ReplicationTime"],
    ∃ metrics ∈ stated.memberAt? ["Destination", "Metrics"],
      time.memberAt? ["Time", "Minutes"] = some (.int minutes) ∧
      metrics.memberAt? ["EventThreshold", "Minutes"] = some (.int minutes)

theorem arn_prefix_bucketAddress (bucket : String) : "arn:".toList <+: (bucketAddress bucket).toList := by
  rw [bucketAddress]
  split
  · rename_i full
    exact List.isPrefixOf_iff_prefix.mp full
  · rw [String.toList_append]
    exact List.prefix_append_of_prefix (by decide)

namespace ReplicationRulePlan

variable {planned : ReplicationRulePlan}

theorem request_owned {id : String} (account : planned.accountId = some id) (nonempty : id ≠ "")
    (minutes : Int) :
    (planned.request minutes).memberAt? ["Destination", "Account"] = some (.str id) ∧
    (planned.request minutes).memberAt? ["Destination", "AccessControlTranslation"] =
      some (.record [("Owner", .str "Destination")]) := by
  simp [request, destinationRequest, account, isFilled, nonempty]

theorem request_unowned (account : planned.accountId = none) (minutes : Int) :
    (planned.request minutes).memberAt? ["Destination", "Account"] = none ∧
    (planned.request minutes).memberAt? ["Destination", "AccessControlTranslation"] = none := by
  simp [request, destinationRequest, account, isFilled]

theorem memberAt?_selection (minutes : Int) :
    (planned.request minutes).memberAt? ["SourceSelectionCriteria", "SseKmsEncryptedObjects"] =
      if isFilled planned.replicaKey then some enabledStatus else none := by
  cases keyed : isFilled planned.replicaKey with
  | true => simp [request, selectionFields, keyed, fieldsIf]
  | false => cases synced : planned.modificationSync <;>
      simp [request, selectionFields, keyed, synced, fieldsIf]

theorem request_encrypted {key : String} (replicaKey : planned.replicaKey = some key)
    (nonempty : key ≠ "") (minutes : Int) :
    (planned.request minutes).memberAt? ["Destination", "EncryptionConfiguration"] =
      some (.record [("ReplicaKmsKeyID", .str key)]) ∧
    (planned.request minutes).memberAt? ["SourceSelectionCriteria", "SseKmsEncryptedObjects"] =
      some enabledStatus := by
  have filled : isFilled (some key) = true := isFilled_iff.mpr ⟨key, rfl, nonempty⟩
  rw [memberAt?_selection, replicaKey, if_pos filled]
  simp [request, destinationRequest, replicaKey, filled]

theorem request_unencrypted (replicaKey : planned.replicaKey = none) (minutes : Int) :
    (planned.request minutes).memberAt? ["Destination", "EncryptionConfiguration"] = none ∧
    (planned.request minutes).memberAt? ["SourceSelectionCriteria", "SseKmsEncryptedObjects"] =
      none := by
  have unfilled : isFilled none = false := rfl
  rw [memberAt?_selection, replicaKey, unfilled]
  simp [request, destinationRequest, replicaKey, unfilled]

theorem request_timed (minutes : Int) :
    ((planned.request minutes).memberAt? ["Destination", "ReplicationTime"]).isSome =
      planned.timeControl := by
  cases timed : planned.timeControl <;> simp [request, destinationRequest, timed]

theorem request_metered (metrics : planned.timeControl = true → planned.metrics = true)
    (minutes : Int) :
    ∀ time ∈ (planned.request minutes).memberAt? ["Destination", "ReplicationTime"],
      ∃ metrics ∈ (planned.request minutes).memberAt? ["Destination", "Metrics"],
        time.memberAt? ["Time", "Minutes"] = some (.int minutes) ∧
        metrics.memberAt? ["EventThreshold", "Minutes"] = some (.int minutes) := by
  simpa [request, destinationRequest] using metrics

end ReplicationRulePlan

namespace ReplicationRule

variable {rule : ReplicationRule} {name : String} {planned : ReplicationRulePlan}
  {encryption : Option Encryption}

/-- The account that replicas are handed over to. -/
def heir (rule : ReplicationRule) : Option String :=
  rule.transfer.bind fun transfer => transfer.accountId.map strip

theorem planWith_of_plan (made : rule.plan name = .ok planned) :
    ∃ destination priority, rule.destination = some destination ∧ rule.priority = some priority ∧
      planned = rule.planWith name destination rule.heir priority := by
  obtain ⟨⟨destination, account⟩, complete, rest⟩ := steps_of_bind_ok made
  have parts : rule.destination = some destination ∧ account = rule.heir := by
    rw [ReplicationRule.parts] at complete
    split at complete
    · cases complete
    · rename_i found unowned
      cases complete
      exact ⟨found, by rw [heir, unowned]; rfl⟩
    · rename_i found owned
      split at complete
      · cases complete
      · rename_i id known
        cases complete
        exact ⟨found, by rw [heir, owned, Option.bind_some, known]; rfl⟩
  obtain ⟨found, rfl⟩ := parts
  cases given : rule.priority with
  | none =>
    rw [given] at rest
    cases rest
  | some priority =>
    rw [given] at rest
    cases rest
    exact ⟨destination, priority, found, rfl, rfl⟩

theorem timeControl_of_plan (made : rule.resolve.plan name = .ok planned) :
    planned.timeControl = true ↔ ∃ features ∈ rule.features, features.timeControl = some true := by
  obtain ⟨destination, priority, _, _, rfl⟩ := planWith_of_plan made
  have resolved : (rule.resolve.planWith name destination rule.resolve.heir priority).timeControl =
      (rule.features.getD {}).timeControl.getD false := rfl
  rw [resolved]
  cases rule.features with
  | none => simp
  | some features => cases control : features.timeControl <;> simp [control]

/-- Time control does not go without metrics, which it brings with it where they are not set. -/
theorem IsLegal.metrics_of_timeControl (legal : rule.IsLegal encryption)
    (made : rule.resolve.plan name = .ok planned) (timed : planned.timeControl = true) :
    planned.metrics = true := by
  obtain ⟨features, given, control⟩ := (timeControl_of_plan made).mp timed
  have unbarred := legal.metrics features given control
  obtain ⟨destination, priority, _, _, rfl⟩ := planWith_of_plan made
  have resolved : (rule.resolve.planWith name destination rule.resolve.heir priority).metrics =
      (rule.features.getD {}).metrics.getD ((rule.features.getD {}).timeControl.getD false) := rfl
  rw [resolved, Option.mem_def.mp given, Option.getD_some, control]
  cases metrics : features.metrics with
  | none => rfl
  | some shown =>
    cases shown with
    | true => rfl
    | false => exact absurd metrics unbarred

theorem IsLegal.isPlannedAs (legal : rule.IsLegal encryption)
    (made : rule.resolve.plan name = .ok planned) : rule.IsPlannedAs name planned := by
  obtain ⟨destination, priority, found, ranked, rfl⟩ := planWith_of_plan made
  obtain ⟨_, ranked', nonneg⟩ := legal.priority
  cases ranked.symm.trans ranked'
  refine ⟨rfl, ranked, nonneg, rfl, rfl, rfl, ?_, arn_prefix_bucketAddress destination, ?_, .rfl⟩
  · rw [show rule.destination = some destination from found]
    rfl
  · have scope : (rule.resolve.planWith name destination rule.resolve.heir priority).accountScope =
        if rule.transfer.isSome then .cross else .same := rfl
    rw [scope]
    cases rule.transfer <;> simp

theorem IsLegal.isStatedBy (legal : rule.IsLegal encryption)
    (made : rule.resolve.plan name = .ok planned) (minutes : Int) :
    rule.IsStatedBy name minutes (planned.request minutes) := by
  obtain ⟨destination, priority, found, ranked, planned_eq⟩ := planWith_of_plan made
  have account : planned.accountId = rule.heir := by
    rw [planned_eq]
    rfl
  have replicaKey : planned.replicaKey = rule.encrypted.bind EncryptedReplicas.keyId := by
    rw [planned_eq]
    rfl
  refine ⟨?_, ?_, ?_, fun transfer given => ?_, fun absent => ?_, fun encrypted given => ?_,
    fun absent => ?_, ?_, ReplicationRulePlan.request_metered ?_ minutes⟩
  · simp [ReplicationRulePlan.request, planned_eq, planWith]
  · rw [show rule.priority = some priority from ranked]
    simp [ReplicationRulePlan.request, planned_eq, planWith]
  · rw [show rule.destination = some destination from found]
    simp [ReplicationRulePlan.request, ReplicationRulePlan.destinationRequest, planned_eq, planWith]
  · obtain ⟨id, known, blankless⟩ := legal.account transfer given
    have nonempty := strip_ne_empty_iff.mpr blankless
    refine ⟨id, known, nonempty, ReplicationRulePlan.request_owned ?_ nonempty minutes⟩
    rw [account, heir, Option.mem_def.mp given, Option.bind_some, Option.mem_def.mp known]
    rfl
  · refine ReplicationRulePlan.request_unowned ?_ minutes
    rw [account, heir, absent]
    rfl
  · obtain ⟨key, known, nonempty⟩ := legal.replicaKey encrypted given
    refine ⟨key, known, nonempty, ReplicationRulePlan.request_encrypted ?_ nonempty minutes⟩
    rw [replicaKey, Option.mem_def.mp given, Option.bind_some, Option.mem_def.mp known]
  · refine ReplicationRulePlan.request_unencrypted ?_ minutes
    rw [replicaKey, absent]
    rfl
  · rw [ReplicationRulePlan.request_timed]
    exact timeControl_of_plan made
  · exact legal.metrics_of_timeControl made

end ReplicationRule

end BucketPlan
