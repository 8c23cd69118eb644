import BucketPlan.Descriptor.Checks
import BucketPlan.Proofs.Record

namespace BucketPlan

theorem getD_eq_some_iff {given : Option Bool} {value default : Bool} (differs : value ≠ default) :
    some (given.getD default) = some value ↔ given = some value := by
  cases given <;> simp [Ne.symm differs]

/-- A lock that is switched on brings its versions with it, so that no version is missed. -/
theorem ObjectLock.findings_resolve {lock : Option ObjectLock} {enabled versioning : Option Bool}
    {implied : Bool} (implies : enabled = some true → implied = true) :
    findings lock (some (enabled.getD false)) (some (versioning.getD implied)) =
      findings lock enabled versioning := by
  have switched : some (enabled.getD false) = some true ↔ enabled = some true :=
    getD_eq_some_iff (by decide)
  have versions : (enabled = some true ∧ some (versioning.getD implied) = some false) ↔
      (enabled = some true ∧ versioning = some false) := by
    refine and_congr_right fun on => ?_
    rw [implies on]
    exact getD_eq_some_iff (by decide)
  simp only [findings, switched, versions]

/-- The default algorithm is legal and goes without a key. -/
theorem Encryption.findings_resolve (encryption : Option Encryption) :
    (resolve encryption).findings = encryption.toList.flatMap findings := by
  cases encryption with
  | none => rfl
  | some given =>
    obtain ⟨algorithm, masterKey, bucketKey⟩ := given
    cases algorithm with
    | none => simp [resolve, findings, Scope.oneOf, defaultAlgorithm, algorithms]
    | some name =>
      rw [Option.toList_some, List.flatMap_singleton]
      rfl

theorem Encryption.isKeyBased_resolve (encryption : Option Encryption) :
    isKeyBased (some (resolve encryption)) = isKeyBased encryption := by
  cases encryption with
  | none => rfl
  | some given =>
    obtain ⟨algorithm, masterKey, bucketKey⟩ := given
    cases algorithm <;> rfl

theorem ownershipFindings_default (ownership : Option String) :
    ownershipFindings (some (ownership.getD defaultOwnership)) = ownershipFindings ownership := by
  cases ownership with
  | none => rfl
  | some mode => rfl

theorem requesterPaysFindings_default (requesterPays : Option Bool) (account : Option String) :
    requesterPaysFindings (some (requesterPays.getD false)) account =
      requesterPaysFindings requesterPays account := by
  have asked : some (requesterPays.getD false) = some true ↔ requesterPays = some true :=
    getD_eq_some_iff (by decide)
  simp only [requesterPaysFindings, asked]

/-- Metrics that were left out follow time control, so time control never misses them. -/
theorem ReplicationRule.featureFindings_resolve (rule : ReplicationRule) (scope : Scope) :
    rule.resolve.featureFindings scope = rule.featureFindings scope := by
  obtain ⟨_, _, _, _, _, _, _, features⟩ := rule
  cases features with
  | none => rfl
  | some features =>
    obtain ⟨metrics, timeControl, _, _⟩ := features
    cases timeControl with
    | none => cases metrics <;> rfl
    | some controlled => cases metrics <;> cases controlled <;> rfl

theorem ReplicationRule.findings_resolve (rule : ReplicationRule) (scope : Scope) (keyBased : Bool) :
    rule.resolve.findings scope keyBased = rule.findings scope keyBased := by
  rw [findings, featureFindings_resolve]
  rfl

theorem Replication.findings_resolve (replication : Replication) (versioning : Option Bool)
    (encryption : Option Encryption) :
    replication.resolve.findings (some (versioning.getD true)) (some (.resolve encryption)) =
      replication.findings versioning encryption := by
  have off : some (versioning.getD true) = some false ↔ versioning = some false :=
    getD_eq_some_iff (by decide)
  have isEmpty : replication.resolve.rules.isEmpty = replication.rules.isEmpty := by
    simp [resolve, Keyed.mapValues, Keyed.isEmpty]
  have role : replication.resolve.role = replication.role := rfl
  have entries : replication.resolve.rules.entries =
      replication.rules.entries.map fun entry => (entry.1, entry.2.resolve) := rfl
  simp only [findings, off, isEmpty, role, Encryption.isKeyBased_resolve, entries, List.flatMap_map,
    ReplicationRule.findings_resolve]

namespace Descriptor

/-- Every check says of a resolved description what it says of the description as it was given. -/
theorem findings_resolve (d : Descriptor) (concern : Concern) :
    d.resolve.findings concern = d.findings concern := by
  cases concern with
  | name => rfl
  | tags => rfl
  | objectLock =>
    exact ObjectLock.findings_resolve fun enabled => by simp [enabled]
  | encryption =>
    exact (List.flatMap_singleton _ _).trans (Encryption.findings_resolve d.encryption)
  | ownership => exact ownershipFindings_default d.ownership
  | requesterPays => exact requesterPaysFindings_default d.requesterPays d.ownerAccount
  | website => rfl
  | cors => rfl
  | replication =>
    cases given : d.replication with
    | none => simp [findings, resolve, given]
    | some replication =>
      have resolved := replication.findings_resolve d.versioning d.encryption
      simpa [findings, resolve, given] using resolved
  | notifications =>
    cases given : d.notifications with
    | none => simp [findings, resolve, given]
    | some notifications => simp [findings, resolve, given, Notifications.findings, Notifications.resolve]

theorem allFindings_resolve (d : Descriptor) : d.resolve.allFindings = d.allFindings := by
  rw [allFindings, funext d.findings_resolve]
  rfl

/-- Checking a description and checking it once it is resolved adds the same violations to a log, in
the same order. -/
theorem reports_resolve (d : Descriptor) (log : Log) :
    ∃ added, log.record d.allFindings = log ++ added ∧ log.record d.resolve.allFindings = log ++ added :=
  ⟨log.reports d.allFindings, log.record_eq_append _, d.allFindings_resolve ▸ log.record_eq_append _⟩

end Descriptor

end BucketPlan
