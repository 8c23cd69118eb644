import BucketPlan.Finding
import BucketPlan.Shape
import BucketPlan.Value.Plain

namespace BucketPlan

/-- Events that a destination is told about, for keys with a certain beginning and end. -/
structure Subscription where
  events : List String := []
  keyPrefix : Option String := none
  keySuffix : Option String := none
deriving DecidableEq, Repr

/-- Subscriptions by the address of their destination. -/
structure Notifications where
  destinations : Keyed (List Subscription) := {}
  eventBridge : Option Bool := none
deriving DecidableEq

instance : Plain Subscription where
  plain s := .record [("events", plain s.events), ("filter_prefix", plain s.keyPrefix),
    ("filter_suffix", plain s.keySuffix)]

namespace Subscription

def shape : Shape :=
  .recordOf [("events", .texts), ("filter_prefix", .optional .text),
    ("filter_suffix", .optional .text)]

def ofValue (value : Value) : Subscription where
  events := (value.get "events").texts
  keyPrefix := (value.get "filter_prefix").text?
  keySuffix := (value.get "filter_suffix").text?

/-- The subscriptions of a destination, of which a single one needs no list around it. -/
def ofValues? (value : Value) : Option (List Subscription) :=
  if value.isMap then some [ofValue value]
  else value.sequence?.map fun items => items.filterMap (Value.record? ofValue)

end Subscription

namespace Notifications

def shape : Shape :=
  .recordOf [("destinations", .unlessUntrue (.entries (.oneOrMore Subscription.shape))),
    ("eventbridge", .optional .boolean)]

def ofValue (value : Value) : Notifications where
  destinations := (value.get "destinations").keyed Subscription.ofValues?
  eventBridge := (value.get "eventbridge").bool?

instance : Plain Notifications where
  plain n := .record [("destinations", plain n.destinations), ("eventbridge", plain n.eventBridge)]

def resolve (notifications : Notifications) : Notifications :=
  { notifications with eventBridge := some (notifications.eventBridge.getD false) }

end Notifications

end BucketPlan
