import BucketPlan.Notification.Rule
import BucketPlan.Text.Occurrence

namespace BucketPlan

inductive DestinationKind where
  | function
  | queue
  | topic
  | unknown (name : String)
deriving DecidableEq, Repr

namespace DestinationKind

def name : DestinationKind → String
  | function => "function"
  | queue => "queue"
  | topic => "topic"
  | unknown name => name

def known : List DestinationKind := [function, queue, topic]

def ofName (name : String) : DestinationKind :=
  (known.find? fun kind => kind.name == name).getD (unknown name)

/-- The part of an address that tells what it leads to. -/
def markers : List (String × DestinationKind) :=
  [(":lambda:", function), (":sqs:", queue), (":sns:", topic)]

/-- The kind of the first marker that occurs in the address. -/
def ofAddress? (address : String) : Option DestinationKind :=
  (markers.find? fun (marker, _) => occursIn marker.toList address.toList).map Prod.snd

/-- How many destinations a bucket may notify; functions are not limited. -/
def limits : List (DestinationKind × Nat) :=
  [(queue, 1), (topic, 1)]

end DestinationKind

def Notifications.findings (notifications : Notifications) : List Finding :=
  notifications.destinations.names.flatMap fun address =>
    if (DestinationKind.ofAddress? address).isSome then []
    else Scope.error { area := "notifications.destinations", rule := address } "" .invalidEnumValue
      (s!"cannot classify destination {quoted address}: expected a function (:lambda:), " ++
        "queue (:sqs:) or topic (:sns:) address")

end BucketPlan
