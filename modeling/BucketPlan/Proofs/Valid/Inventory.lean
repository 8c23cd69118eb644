import BucketPlan.Descriptor.Checks
import BucketPlan.Inventory.Plan
import BucketPlan.Proofs.Passes

namespace BucketPlan

/-- A bucket to report to, in a known form, under a key exactly where the encryption asks for one. -/
structure InventoryDestination.IsLegal (destination : InventoryDestination) : Prop where
  bucket : ∃ bucket ∈ destination.bucket, bucket ≠ ""
  format : ∃ format ∈ destination.format, format ∈ ["CSV", "ORC", "Parquet"]
  encryption : ∀ encryption ∈ destination.encryption, encryption ∈ ["SSE-S3", "SSE-KMS"]
  key : destination.encryption = some "SSE-KMS" → ∃ key ∈ destination.keyId, key ≠ ""
  keyless : destination.encryption ≠ some "SSE-KMS" → destination.keyId = none

/-- Reports to a legal destination, daily or weekly, about what is known of objects. -/
structure InventoryRule.IsLegal (rule : InventoryRule) : Prop where
  destination : ∃ destination ∈ rule.destination, destination.IsLegal
  frequency : ∃ frequency ∈ rule.frequency, frequency ∈ ["Daily", "Weekly"]
  fields : ∀ field ∈ rule.optionalFields, field ∈ ["Size", "LastModifiedDate", "StorageClass", "ETag",
    "IsMultipartUploaded", "ReplicationStatus", "EncryptionStatus", "ObjectLockRetainUntilDate",
    "ObjectLockMode", "ObjectLockLegalHoldStatus", "IntelligentTieringAccessTier", "BucketKeyStatus",
    "ChecksumAlgorithm", "ObjectAccessControlList", "ObjectOwner"]

namespace InventoryRule

variable {rule : InventoryRule} {scope : Scope}

theorem passes_keyFindings {destination : InventoryDestination} :
    Passes (keyFindings destination scope) ↔
      (destination.encryption = some "SSE-KMS" → ∃ key ∈ destination.keyId, key ≠ "") ∧
      (destination.encryption ≠ some "SSE-KMS" → destination.keyId = none) := by
  simp only [keyFindings, reportsOnly_ite, Scope.passes_require, isFilled_iff, Scope.passes_error,
    imp_false, reportsOnly_nil, implies_true, and_true, Bool.not_eq_true, Option.isSome_eq_false_iff,
    Option.isNone_iff_eq_none]

theorem passes_findings : Passes (rule.resolve.findings scope) ↔ rule.resolve.IsLegal := by
  simp only [findings, reportsOnly_append, Scope.passes_require, isFilled_iff, Scope.passes_oneOf,
    passes_keyFindings, reportsOnly_flatMap, Option.mem_some, forall_eq', resolve, Option.getD_some]
  constructor
  · intro passes
    obtain ⟨⟨⟨⟨⟨bucket, format⟩, encryption⟩, key, keyless⟩, frequency⟩, fields⟩ := passes
    exact ⟨⟨_, rfl, bucket, ⟨_, rfl, format⟩, encryption, key, keyless⟩, ⟨_, rfl, frequency⟩, fields⟩
  · intro legal
    obtain ⟨⟨_, same, destination⟩, ⟨_, same', frequency⟩, fields⟩ := legal
    cases same
    cases same'
    obtain ⟨bucket, ⟨_, same, format⟩, encryption, key, keyless⟩ := destination
    cases same
    exact ⟨⟨⟨⟨⟨bucket, format⟩, encryption⟩, key, keyless⟩, frequency⟩, fields⟩

end InventoryRule

theorem Descriptor.passes_inventoryFindings (d : Descriptor) :
    Passes (InventoryPlan.findings d.resolve.inventoryRules) ↔
      ∀ entry ∈ d.resolve.inventoryRules.entries, entry.2.IsLegal := by
  simp only [InventoryPlan.findings, resolve, Keyed.mapValues, List.flatMap_map, reportsOnly_flatMap,
    InventoryRule.passes_findings, List.forall_mem_map]

end BucketPlan
