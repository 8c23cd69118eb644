import BucketPlan.Notification.Destination

namespace BucketPlan

structure DestinationPlan where
  address : String
  kind : DestinationKind
  subscriptions : List Subscription
deriving DecidableEq, Repr

instance : Plain DestinationPlan where
  plain d := .record [("address", plain d.address), ("kind", plain d.kind.name),
    ("subscriptions", plain d.subscriptions)]

structure NotificationPlan where
  destinations : List DestinationPlan
  eventBridge : Bool := false
deriving DecidableEq, Repr

instance : Plain NotificationPlan where
  plain n := .record [("destinations", plain n.destinations), ("eventbridge", plain n.eventBridge)]

def NotificationPlan.ofKind (notifications : NotificationPlan) (kind : DestinationKind) :
    List DestinationPlan :=
  notifications.destinations.filter (·.kind = kind)

/-- The events that can be subscribed to: creation, removal, restoration, replication and life
cycle of objects. -/
def notificationEvents : List String :=
  ["s3:ObjectCreated:*", "s3:ObjectCreated:Put", "s3:ObjectCreated:Post", "s3:ObjectCreated:Copy",
    "s3:ObjectCreated:CompleteMultipartUpload", "s3:ObjectRemoved:*", "s3:ObjectRemoved:Delete",
    "s3:ObjectRemoved:DeleteMarkerCreated", "s3:ObjectRestore:*", "s3:ObjectRestore:Post",
    "s3:ObjectRestore:Completed", "s3:ObjectRestore:Delete", "s3:Replication:*",
    "s3:Replication:OperationFailedReplication", "s3:Replication:OperationNotTracked",
    "s3:Replication:OperationMissedThreshold", "s3:Replication:OperationReplicatedAfterThreshold",
    "s3:LifecycleTransition", "s3:LifecycleExpiration:*", "s3:LifecycleExpiration:Delete",
    "s3:LifecycleExpiration:DeleteMarkerCreated"]

namespace Subscription

def plan (s : Subscription) : Subscription :=
  { s with events := s.events.eraseDups }

/-- A subscription needs events, and a filter that some key can pass. -/
def findings (s : Subscription) (scope : Scope) (field : String) (maxKeyLength : Int) :
    List Finding :=
  scope.require (!s.events.isEmpty) (field ++ ".events")
    "subscription requires at least one event type" ++
  (s.events.flatMap fun event => scope.oneOf (some event) notificationEvents (field ++ ".events")) ++
  if maxKeyLength < (s.keyPrefix.getD "").length + (s.keySuffix.getD "").length then
    scope.warning field .outOfRange
      (s!"filter_prefix and filter_suffix together exceed {maxKeyLength} characters; " ++
        "no object key can match this subscription")
  else []

end Subscription

namespace Notifications

/-- The destinations with a known kind; the others are reported and get no plan. -/
def classified (notifications : Notifications) : List DestinationPlan :=
  notifications.destinations.entries.filterMap fun (address, subscriptions) =>
    (DestinationKind.ofAddress? address).map fun kind => ⟨address, kind, subscriptions⟩

def addressesOf (notifications : Notifications) (kind : DestinationKind) : List String :=
  (notifications.classified.filter (·.kind = kind)).map DestinationPlan.address

def limitFindings (notifications : Notifications) : List Finding :=
  DestinationKind.limits.flatMap fun (kind, limit) =>
    match notifications.addressesOf kind with
    | [] => []
    | first :: others =>
      if limit < others.length + 1 then
        Scope.error { area := "notifications.destinations", rule := first } "" .outOfRange
          (s!"at most {limit} {kind.name} destination(s) allowed, got {others.length + 1}: " ++
            ", ".intercalate (first :: others))
      else []

def destinationFindings (destination : DestinationPlan) (maxKeyLength : Int) : List Finding :=
  let scope : Scope := { area := "notifications.destinations", rule := destination.address }
  (if destination.subscriptions.isEmpty then
    scope.error "" .requiresField "destination requires at least one subscription" else []) ++
  destination.subscriptions.zipIdx.flatMap fun (s, i) =>
    s.findings scope (toString i) maxKeyLength

def planFindings (notifications : Notifications) (maxKeyLength : Int) : List Finding :=
  notifications.limitFindings ++
  notifications.classified.flatMap fun destination => destinationFindings destination maxKeyLength

def plan (notifications : Notifications) : NotificationPlan where
  destinations := notifications.classified.map fun d =>
    { d with subscriptions := d.subscriptions.map Subscription.plan }
  eventBridge := notifications.eventBridge.getD false

end Notifications

end BucketPlan
