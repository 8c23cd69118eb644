import BucketPlan.Lifecycle.Request
import BucketPlan.Replication.Plan

namespace BucketPlan

def enabledStatus : Value :=
  .record [("Status", .str "Enabled")]

namespace ReplicationRulePlan

def thresholdMinutes : Int := 15

def destinationRequest (rule : ReplicationRulePlan) (minutes : Int) : Value :=
  let time : Value := .record [("Minutes", .int minutes)]
  .record ([("Bucket", plain rule.destination)] ++
    fieldsIf (isFilled rule.storageClass) [("StorageClass", plain rule.storageClass)] ++
    fieldsIf (isFilled rule.accountId) [("Account", plain rule.accountId),
      ("AccessControlTranslation", .record [("Owner", .str "Destination")])] ++
    fieldsIf (isFilled rule.replicaKey)
      [("EncryptionConfiguration", .record [("ReplicaKmsKeyID", plain rule.replicaKey)])] ++
    fieldsIf rule.timeControl
      [("ReplicationTime", .record [("Status", .str "Enabled"), ("Time", time)])] ++
    fieldsIf rule.metrics
      [("Metrics", .record [("Status", .str "Enabled"), ("EventThreshold", time)])])

def selectionFields (rule : ReplicationRulePlan) : List (String × Value) :=
  fieldsIf (isFilled rule.replicaKey) [("SseKmsEncryptedObjects", enabledStatus)] ++
  fieldsIf rule.modificationSync [("ReplicaModifications", enabledStatus)]

def request (rule : ReplicationRulePlan) (minutes : Int := thresholdMinutes) : Value :=
  .record ([("ID", plain rule.name), ("Priority", plain rule.priority),
    ("Status", statusText rule.enabled), ("Filter", rule.filter.request),
    ("Destination", rule.destinationRequest minutes),
    ("DeleteMarkerReplication", .record [("Status", statusText rule.deleteMarkers)])] ++
    fieldsIf (!rule.selectionFields.isEmpty)
      [("SourceSelectionCriteria", .record rule.selectionFields)])

end ReplicationRulePlan

end BucketPlan
