import Mathlib.Data.List.TakeWhile
import BucketPlan.Notification.Destination
import BucketPlan.Proofs.Passes
import BucketPlan.Replication.Checks

namespace BucketPlan

/-- Nothing is left of a text that is stripped exactly when it is all white space. -/
theorem strip_eq_empty_iff {text : String} : strip text = "" ↔ ∀ c ∈ text.toList, isBlank c = true := by
  rw [strip, String.ofList_eq_empty_iff, List.reverse_eq_nil_iff, List.dropWhile_eq_nil_iff]
  simp only [List.mem_reverse]
  constructor
  · intro blank
    have start := List.head?_dropWhile_not isBlank text.toList
    cases left : text.toList.dropWhile isBlank with
    | nil => exact List.dropWhile_eq_nil_iff.mp left
    | cons c rest =>
      -- the first character that is left is no white space
      rw [left] at start blank
      exact absurd (blank c List.mem_cons_self) (Bool.eq_false_iff.mp start)
  · intro blank c member
    exact blank c ((List.dropWhile_sublist isBlank).mem member)

theorem strip_ne_empty_iff {text : String} :
    strip text ≠ "" ↔ ∃ c ∈ text.toList, isBlank c = false := by
  simp [strip_eq_empty_iff]

namespace ReplicationRule

/-- What a rule asks for: a destination, a priority from zero upwards, an account where replicas
change their owner, and managed keys on both sides where encrypted objects are replicated. Time
control needs metrics. -/
structure IsLegal (rule : ReplicationRule) (encryption : Option Encryption) : Prop where
  destination : ∃ bucket ∈ rule.destination, bucket ≠ ""
  priority : ∃ priority ∈ rule.priority, 0 ≤ priority
  storageClass : ∀ name ∈ rule.storageClass, name ∈ replicaStorageClasses
  account : ∀ transfer ∈ rule.transfer, ∃ id ∈ transfer.accountId, ∃ c ∈ id.toList, isBlank c = false
  replicaKey : ∀ encrypted ∈ rule.encrypted, ∃ key ∈ encrypted.keyId, key ≠ ""
  sourceKey : rule.encrypted ≠ none →
    ∃ given ∈ encryption, ∃ name ∈ given.algorithm, name ∈ ["aws:kms", "aws:kms:dsse"]
  metrics : ∀ features ∈ rule.features, features.timeControl = some true → features.metrics ≠ some false

theorem passes_priorityFindings {rule : ReplicationRule} {scope : Scope} :
    Passes (rule.priorityFindings scope) ↔ ∃ priority ∈ rule.priority, 0 ≤ priority := by
  unfold priorityFindings
  cases rule.priority <;> simp

theorem passes_transferFindings {rule : ReplicationRule} {scope : Scope} :
    Passes (rule.transferFindings scope) ↔ ∀ transfer ∈ rule.transfer,
      ∃ id ∈ transfer.accountId, ∃ c ∈ id.toList, isBlank c = false := by
  unfold transferFindings
  cases rule.transfer with
  | none => simp
  | some transfer =>
    obtain ⟨accountId⟩ := transfer
    simp only [Scope.passes_require, decide_eq_true_eq, strip_ne_empty_iff, Option.mem_some, forall_eq']
    cases accountId <;> simp

theorem passes_encryptedFindings {rule : ReplicationRule} {scope : Scope} {keyBased : Bool} :
    Passes (rule.encryptedFindings scope keyBased) ↔
      (∀ encrypted ∈ rule.encrypted, ∃ key ∈ encrypted.keyId, key ≠ "") ∧
      (rule.encrypted ≠ none → keyBased = true) := by
  unfold encryptedFindings
  cases rule.encrypted with
  | none => simp
  | some encrypted => cases keyBased <;> simp [isFilled_iff]

theorem passes_featureFindings {rule : ReplicationRule} {scope : Scope} :
    Passes (rule.featureFindings scope) ↔ ∀ features ∈ rule.features,
      features.timeControl = some true → features.metrics ≠ some false := by
  unfold featureFindings
  cases rule.features with
  | none => simp
  | some features => simp

theorem passes_findings {rule : ReplicationRule} {scope : Scope} {encryption : Option Encryption} :
    Passes (rule.findings scope (Encryption.isKeyBased encryption)) ↔ rule.IsLegal encryption := by
  have keyBased : Encryption.isKeyBased encryption = true ↔
      ∃ given ∈ encryption, ∃ name ∈ given.algorithm, name ∈ Encryption.keyAlgorithms := by
    cases encryption with
    | none => simp [Encryption.isKeyBased]
    | some given => cases algorithm : given.algorithm <;> simp [Encryption.isKeyBased, algorithm]
  simp only [findings, reportsOnly_append, Scope.passes_require, isFilled_iff, passes_priorityFindings,
    Scope.passes_oneOf, passes_transferFindings, passes_encryptedFindings, keyBased,
    passes_featureFindings]
  constructor
  · intro passes
    obtain ⟨⟨⟨⟨⟨destination, priority⟩, storageClass⟩, account⟩, replicaKey, sourceKey⟩, metrics⟩ :=
      passes
    exact ⟨destination, priority, storageClass, account, replicaKey, sourceKey, metrics⟩
  · intro legal
    exact ⟨⟨⟨⟨⟨legal.destination, legal.priority⟩, legal.storageClass⟩, legal.account⟩,
      legal.replicaKey, legal.sourceKey⟩, legal.metrics⟩

end ReplicationRule

namespace Replication

structure IsLegal (replication : Replication) (versioning : Option Bool)
    (encryption : Option Encryption) : Prop where
  role : ∃ role ∈ replication.role, role ≠ ""
  nonempty : replication.rules.entries ≠ []
  versions : versioning ≠ some false
  rules : ∀ rule ∈ replication.rules.values, rule.IsLegal encryption

theorem passes_findings {replication : Replication} {versioning : Option Bool}
    {encryption : Option Encryption} :
    Passes (replication.findings versioning encryption) ↔ replication.IsLegal versioning encryption := by
  have nonempty : (!replication.rules.isEmpty) = true ↔ replication.rules.entries ≠ [] := by
    simp [Keyed.isEmpty]
  have each : (∀ entry ∈ replication.rules.entries, entry.2.IsLegal encryption) ↔
      ∀ rule ∈ replication.rules.values, rule.IsLegal encryption := by
    rw [Keyed.values, List.forall_mem_map]
  simp only [findings, reportsOnly_append, Scope.passes_require, isFilled_iff, nonempty,
    reportsOnly_ite, Scope.passes_error, imp_false, reportsOnly_nil, implies_true, and_true,
    reportsOnly_flatMap, ReplicationRule.passes_findings, each]
  constructor
  · intro passes
    obtain ⟨⟨⟨role, nonempty⟩, versions⟩, rules⟩ := passes
    exact ⟨role, nonempty, versions, rules⟩
  · intro legal
    exact ⟨⟨⟨legal.role, legal.nonempty⟩, legal.versions⟩, legal.rules⟩

end Replication

theorem occursIn_iff {needle text : List Char} : occursIn needle text = true ↔ needle <:+: text := by
  induction text with
  | nil => cases needle <;> simp [occursIn]
  | cons c rest ih => simp [occursIn, ih, List.infix_cons_iff]

theorem DestinationKind.ofAddress?_isSome_iff {address : String} :
    (ofAddress? address).isSome = true ↔
      ∃ marker ∈ [":lambda:", ":sqs:", ":sns:"], marker.toList <:+: address.toList := by
  simp only [ofAddress?, Option.isSome_map, List.find?_isSome, occursIn_iff, markers]
  simp

theorem Notifications.passes_findings {notifications : Notifications} :
    Passes notifications.findings ↔ ∀ address ∈ notifications.destinations.names,
      ∃ marker ∈ [":lambda:", ":sqs:", ":sns:"], marker.toList <:+: address.toList := by
  simp only [findings, reportsOnly_flatMap, reportsOnly_ite, reportsOnly_nil, implies_true, true_and,
    Scope.passes_error, imp_false, Classical.not_not, DestinationKind.ofAddress?_isSome_iff]

end BucketPlan
