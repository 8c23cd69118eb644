import BucketPlan.Inventory.Rule
import BucketPlan.Text.Arn

namespace BucketPlan

structure InventoryPlan where
  name : String
  enabled : Bool
  keyPrefix : Option String
  destination : String
  accountId : Option String
  destinationPrefix : Option String
  format : Option String
  encryption : Option String
  keyId : Option String
  frequency : Option String
  versions : String
  optionalFields : List String
deriving DecidableEq, Repr

instance : Plain InventoryPlan where
  plain rule := .record [("name", plain rule.name), ("enabled", plain rule.enabled),
    ("filter_prefix", plain rule.keyPrefix), ("destination_bucket_arn", plain rule.destination),
    ("destination_account_id", plain rule.accountId),
    ("destination_prefix", plain rule.destinationPrefix), ("output_format", plain rule.format),
    ("encryption", plain rule.encryption), ("kms_key_id", plain rule.keyId),
    ("frequency", plain rule.frequency), ("included_object_versions", plain rule.versions),
    ("optional_fields", plain rule.optionalFields)]

namespace InventoryRule

def formats : List String := ["CSV", "ORC", "Parquet"]

def frequencies : List String := ["Daily", "Weekly"]

def encryptions : List String := ["SSE-S3", "SSE-KMS"]

/-- What a report can tell about an object besides its key. -/
def fieldNames : List String :=
  ["Size", "LastModifiedDate", "StorageClass", "ETag", "IsMultipartUploaded", "ReplicationStatus",
    "EncryptionStatus", "ObjectLockRetainUntilDate", "ObjectLockMode", "ObjectLockLegalHoldStatus",
    "IntelligentTieringAccessTier", "BucketKeyStatus", "ChecksumAlgorithm",
    "ObjectAccessControlList", "ObjectOwner"]

/-- A key goes with encryption under a managed key and with nothing else. -/
def keyFindings (destination : InventoryDestination) (scope : Scope) : List Finding :=
  if destination.encryption = some "SSE-KMS" then
    scope.require (isFilled destination.keyId) "destination.kms_key_id"
      "SSE-KMS inventory encryption requires kms_key_id"
  else if destination.keyId.isSome then
    scope.error "destination.kms_key_id" .mutuallyExclusive
      "kms_key_id is only used with SSE-KMS inventory encryption"
  else []

def findings (rule : InventoryRule) (scope : Scope) : List Finding :=
  let destination := rule.destination.getD {}
  scope.require (isFilled destination.bucket) "destination.bucket_arn" ++
  scope.oneOf destination.format formats "destination.output_format" ++
  scope.oneOf destination.encryption encryptions "destination.encryption" ++
  keyFindings destination scope ++
  scope.oneOf rule.frequency frequencies "frequency" ++
  rule.optionalFields.flatMap fun name => scope.oneOf (some name) fieldNames "optional_fields"

def plan (rule : InventoryRule) (name : String) : InventoryPlan :=
  let destination := rule.destination.getD {}
  { name := name
    enabled := rule.enabled
    keyPrefix := rule.keyPrefix
    destination := match destination.bucket with
      | some bucket => if bucket = "" then "" else bucketAddress bucket
      | none => ""
    accountId := destination.accountId
    destinationPrefix := destination.keyPrefix
    format := destination.format
    encryption := destination.encryption
    keyId := destination.keyId
    frequency := rule.frequency
    versions := if rule.includeNoncurrent = some true then "All" else "Current"
    optionalFields := sortedSet rule.optionalFields }

end InventoryRule

namespace InventoryPlan

def ofRules (rules : Keyed InventoryRule) : Keyed InventoryPlan :=
  rules.mapValues fun name rule => rule.plan name

def findings (rules : Keyed InventoryRule) : List Finding :=
  rules.entries.flatMap fun (name, rule) => rule.findings { area := "inventory_rules", rule := name }

def encryptionFields (rule : InventoryPlan) : List (String × Value) :=
  if rule.encryption = some "SSE-S3" then [("Encryption", .record [("SSES3", .record [])])]
  else if rule.encryption = some "SSE-KMS" then
    [("Encryption", .record [("SSEKMS", .record [("KeyId", plain rule.keyId)])])]
  else []

def request (rule : InventoryPlan) : Value :=
  let destination : Value := .record ([("Bucket", plain rule.destination),
    ("Format", plain rule.format)] ++
    fieldsIf (isFilled rule.accountId) [("AccountId", plain rule.accountId)] ++
    fieldsIf (isFilled rule.destinationPrefix) [("Prefix", plain rule.destinationPrefix)] ++
    rule.encryptionFields)
  .record ([("Id", plain rule.name), ("IsEnabled", plain rule.enabled),
    ("Destination", .record [("S3BucketDestination", destination)]),
    ("IncludedObjectVersions", plain rule.versions),
    ("Schedule", .record [("Frequency", plain rule.frequency)])] ++
    fieldsIf (isFilled rule.keyPrefix) [("Filter", .record [("Prefix", plain rule.keyPrefix)])] ++
    fieldsIf (!rule.optionalFields.isEmpty) [("OptionalFields", plain rule.optionalFields)])

end InventoryPlan

end BucketPlan
