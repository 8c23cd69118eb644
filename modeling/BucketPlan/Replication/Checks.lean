import BucketPlan.Replication.Plan
import BucketPlan.Settings.Encryption

namespace BucketPlan

/-- The storage classes that a replica may be written with. -/
def replicaStorageClasses : List String :=
  ["STANDARD", "REDUCED_REDUNDANCY", "STANDARD_IA", "ONEZONE_IA", "INTELLIGENT_TIERING", "GLACIER",
    "DEEP_ARCHIVE", "GLACIER_IR"]

namespace ReplicationRule

def priorityFindings (rule : ReplicationRule) (scope : Scope) : List Finding :=
  scope.require rule.priority.isSome "priority" ++ scope.inRange rule.priority "priority" (some 0)

def transferFindings (rule : ReplicationRule) (scope : Scope) : List Finding :=
  match rule.transfer with
  | none => []
  | some transfer =>
    scope.require (strip (transfer.accountId.getD "") ≠ "")
      "change_object_ownership_to_destination_bucket_owner.destination_account_id"
      "ownership transfer requires a destination account id"

def encryptedFindings (rule : ReplicationRule) (scope : Scope) (keyBased : Bool) : List Finding :=
  match rule.encrypted with
  | none => []
  | some encrypted =>
    scope.require (isFilled encrypted.keyId) "replicate_kms_encrypted_objects.replica_kms_key_id"
      "replicating KMS-encrypted objects requires a destination key" ++
    if keyBased then []
    else scope.error "replicate_kms_encrypted_objects" .requiresField
      "replicating KMS-encrypted objects requires encryption.sse_algorithm to be a KMS scheme"

def featureFindings (rule : ReplicationRule) (scope : Scope) : List Finding :=
  match rule.features with
  | none => []
  | some features =>
    if features.timeControl = some true ∧ features.metrics = some false then
      scope.error "features.metrics" .requiresField
        "replication_time_control requires metrics to be enabled"
    else []

def findings (rule : ReplicationRule) (scope : Scope) (keyBased : Bool) : List Finding :=
  scope.require (isFilled rule.destination) "destination_bucket" ++
  rule.priorityFindings scope ++
  scope.oneOf rule.storageClass replicaStorageClasses "storage_class" ++
  rule.transferFindings scope ++
  rule.encryptedFindings scope keyBased ++
  rule.featureFindings scope

end ReplicationRule

/-- What replication asks of its source: versions, and a managed key for encrypted replicas. -/
def Replication.findings (replication : Replication) (versioning : Option Bool)
    (encryption : Option Encryption) : List Finding :=
  let scope : Scope := { area := "replication" }
  scope.require (isFilled replication.role) "role" ++
  scope.require (!replication.rules.isEmpty) "rules" "replication requires at least one rule" ++
  (if versioning = some false then
    Scope.error { area := "versioning_enabled" } "" .requiresField
      "replication requires versioning_enabled to be true" else []) ++
  replication.rules.entries.flatMap fun (name, rule) =>
    rule.findings { area := "replication.rules", rule := name } (Encryption.isKeyBased encryption)

end BucketPlan
