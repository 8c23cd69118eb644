import BucketPlan.Fault
import BucketPlan.Notification.Plan

namespace BucketPlan

namespace DestinationPlan

def filterRules (s : Subscription) : List Value :=
  (if isFilled s.keyPrefix then
    [.record [("Name", .str "prefix"), ("Value", plain s.keyPrefix)]] else []) ++
  if isFilled s.keySuffix then
    [.record [("Name", .str "suffix"), ("Value", plain s.keySuffix)]] else []

def entry (address addressKey : String) (s : Subscription) : Value :=
  .record ([(addressKey, plain address), ("Events", plain s.events)] ++
    fieldsIf (!(filterRules s).isEmpty)
      [("Filter", .record [("Key", .record [("FilterRules", .list (filterRules s))])])])

/-- One entry per subscription. -/
def entries (addressKey : String) (destination : DestinationPlan) : List Value :=
  destination.subscriptions.map (entry destination.address addressKey)

/-- A kind that no request has a place for. -/
def unknownKind? (destination : DestinationPlan) : Option String :=
  match destination.kind with
  | .unknown name => some name
  | _ => none

end DestinationPlan

namespace NotificationPlan

def listOf (notifications : NotificationPlan) (kind : DestinationKind) (listKey addressKey : String) :
    List (String × Value) :=
  let entries := (notifications.ofKind kind).flatMap (DestinationPlan.entries addressKey)
  fieldsIf (!entries.isEmpty) [(listKey, .list entries)]

/-- The entries of each kind, in the order of destinations and subscriptions. -/
def request (notifications : NotificationPlan) : Except Fault Value :=
  match notifications.destinations.findSome? DestinationPlan.unknownKind? with
  | some name => .error (.unknownDestination name)
  | none => .ok (.record (
      notifications.listOf .topic "TopicConfigurations" "TopicArn" ++
      notifications.listOf .queue "QueueConfigurations" "QueueArn" ++
      notifications.listOf .function "LambdaFunctionConfigurations" "LambdaFunctionArn" ++
      fieldsIf notifications.eventBridge [("EventBridgeConfiguration", .record [])]))

end NotificationPlan

end BucketPlan
