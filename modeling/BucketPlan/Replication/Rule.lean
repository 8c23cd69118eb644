import BucketPlan.Filter

namespace BucketPlan

/-- Replicas of objects under a managed key, encrypted again with a key of the destination. -/
structure EncryptedReplicas where
  keyId : Option String := none
deriving DecidableEq, Repr

/-- Replicas handed over to the account that owns the destination. -/
structure OwnershipTransfer where
  accountId : Option String := none
deriving DecidableEq, Repr

structure ReplicationFeatures where
  metrics : Option Bool := none
  timeControl : Option Bool := none
  modificationSync : Option Bool := none
  deleteMarkers : Option Bool := none
deriving DecidableEq, Repr

structure ReplicationRule where
  destination : Option String := none
  priority : Option Int := none
  enabled : Bool := true
  filter : Option ObjectFilter := none
  storageClass : Option String := none
  encrypted : Option EncryptedReplicas := none
  transfer : Option OwnershipTransfer := none
  features : Option ReplicationFeatures := none
deriving DecidableEq

structure Replication where
  role : Option String := none
  rules : Keyed ReplicationRule := {}
deriving DecidableEq

namespace EncryptedReplicas

def shape : Shape :=
  .recordOf [("replica_kms_key_id", .optional .text)]

def ofValue (value : Value) : EncryptedReplicas where
  keyId := (value.get "replica_kms_key_id").text?

instance : Plain EncryptedReplicas where
  plain e := .record [("replica_kms_key_id", plain e.keyId)]

end EncryptedReplicas

namespace OwnershipTransfer

def shape : Shape :=
  .recordOf [("destination_account_id", .optional .text)]

def ofValue (value : Value) : OwnershipTransfer where
  accountId := (value.get "destination_account_id").text?

instance : Plain OwnershipTransfer where
  plain t := .record [("destination_account_id", plain t.accountId)]

end OwnershipTransfer

namespace ReplicationFeatures

def shape : Shape :=
  .recordOf [("metrics", .optional .boolean), ("replication_time_control", .optional .boolean),
    ("replica_modification_sync", .optional .boolean),
    ("delete_marker_replication", .optional .boolean)]

def ofValue (value : Value) : ReplicationFeatures where
  metrics := (value.get "metrics").bool?
  timeControl := (value.get "replication_time_control").bool?
  modificationSync := (value.get "replica_modification_sync").bool?
  deleteMarkers := (value.get "delete_marker_replication").bool?

instance : Plain ReplicationFeatures where
  plain f := .record [("metrics", plain f.metrics),
    ("replication_time_control", plain f.timeControl),
    ("replica_modification_sync", plain f.modificationSync),
    ("delete_marker_replication", plain f.deleteMarkers)]

/-- Metrics follow time control, which reports through them. -/
def resolve (features : Option ReplicationFeatures) : ReplicationFeatures :=
  let given := features.getD {}
  let timeControl := given.timeControl.getD false
  { metrics := some (given.metrics.getD timeControl)
    timeControl := some timeControl
    modificationSync := some (given.modificationSync.getD false)
    deleteMarkers := some (given.deleteMarkers.getD false) }

end ReplicationFeatures

namespace ReplicationRule

def shape : Shape :=
  .recordOf [("destination_bucket", .optional .text), ("priority", .optional .integer),
    ("enabled", .optional .boolean), ("filter", .optional ObjectFilter.shape),
    ("storage_class", .optional .text),
    ("replicate_kms_encrypted_objects", .optional EncryptedReplicas.shape),
    ("change_object_ownership_to_destination_bucket_owner", .optional OwnershipTransfer.shape),
    ("features", .optional ReplicationFeatures.shape)]

def ofValue (value : Value) : ReplicationRule where
  destination := (value.get "destination_bucket").text?
  priority := (value.get "priority").int?
  enabled := (value.get "enabled").bool?.getD true
  filter := (value.get "filter").record? ObjectFilter.ofValue
  storageClass := (value.get "storage_class").text?
  encrypted := (value.get "replicate_kms_encrypted_objects").record? EncryptedReplicas.ofValue
  transfer := (value.get "change_object_ownership_to_destination_bucket_owner").record?
    OwnershipTransfer.ofValue
  features := (value.get "features").record? ReplicationFeatures.ofValue

instance : Plain ReplicationRule where
  plain rule := .record [("destination_bucket", plain rule.destination),
    ("priority", plain rule.priority), ("enabled", plain rule.enabled),
    ("filter", plain rule.filter), ("storage_class", plain rule.storageClass),
    ("replicate_kms_encrypted_objects", plain rule.encrypted),
    ("change_object_ownership_to_destination_bucket_owner", plain rule.transfer),
    ("features", plain rule.features)]

def resolve (rule : ReplicationRule) : ReplicationRule :=
  { rule with features := some (.resolve rule.features) }

end ReplicationRule

namespace Replication

def shape : Shape :=
  .recordOf [("role", .optional .text), ("rules", .optional (.entries ReplicationRule.shape))]

def ofValue (value : Value) : Replication where
  role := (value.get "role").text?
  rules := (value.get "rules").keyed (·.record? ReplicationRule.ofValue)

instance : Plain Replication where
  plain replication := .record [("role", plain replication.role), ("rules", plain replication.rules)]

def resolve (replication : Replication) : Replication :=
  { replication with rules := replication.rules.mapValues fun _ rule => rule.resolve }

end Replication

end BucketPlan
