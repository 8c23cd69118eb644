import BucketPlan.Filter

namespace BucketPlan

/-- The move of current objects to another storage class after some days. -/
structure Transition where
  days : Option Int := none
  storageClass : Option String := none
deriving DecidableEq, Repr

/-- The move of replaced objects, of which some newer versions may be left alone. -/
structure NoncurrentTransition where
  days : Option Int := none
  storageClass : Option String := none
  newerVersions : Option Int := none
deriving DecidableEq, Repr

structure Expiration where
  days : Option Int := none
  date : Option String := none
  deleteMarkers : Option Bool := none
deriving DecidableEq, Repr

structure NoncurrentExpiration where
  days : Option Int := none
  newerVersions : Option Int := none
deriving DecidableEq, Repr

structure LifecycleRule where
  enabled : Bool := true
  filter : Option ObjectFilter := none
  transitions : List Transition := []
  expiration : Option Expiration := none
  noncurrentExpiration : Option NoncurrentExpiration := none
  noncurrentTransitions : List NoncurrentTransition := []
  abortDays : Option Int := none
deriving DecidableEq

namespace Transition

def shape : Shape :=
  .pair "days" "storage_class" (.member "days" (.optional .integer)
    (.member "storage_class" (.optional .text) .noMore))

def ofRecord (value : Value) : Transition where
  days := (value.get "days").int?
  storageClass := (value.get "storage_class").text?

/-- A transition is a record or a pair of days and storage class. -/
def ofValue? (value : Value) : Option Transition :=
  (value.unpair "days" "storage_class").record? ofRecord

instance : Plain Transition where
  plain t := .record [("days", plain t.days), ("storage_class", plain t.storageClass)]

/-- A transition that spares no newer versions. -/
def toNoncurrent (t : Transition) : NoncurrentTransition where
  days := t.days
  storageClass := t.storageClass

end Transition

namespace NoncurrentTransition

def shape : Shape :=
  .recordOf [("days", .optional .integer), ("storage_class", .optional .text),
    ("newer_noncurrent_versions", .optional .integer)]

def ofValue (value : Value) : NoncurrentTransition where
  days := (value.get "days").int?
  storageClass := (value.get "storage_class").text?
  newerVersions := (value.get "newer_noncurrent_versions").int?

instance : Plain NoncurrentTransition where
  plain t := .record [("days", plain t.days), ("storage_class", plain t.storageClass),
    ("newer_noncurrent_versions", plain t.newerVersions)]

end NoncurrentTransition

namespace Expiration

def shape : Shape :=
  .recordOf [("days_after_object_creation", .optional .integer), ("date", .optional .text),
    ("clean_up_expired_object_delete_markers", .optional .boolean)]

def ofValue (value : Value) : Expiration where
  days := (value.get "days_after_object_creation").int?
  date := (value.get "date").text?
  deleteMarkers := (value.get "clean_up_expired_object_delete_markers").bool?

instance : Plain Expiration where
  plain e := .record [("days_after_object_creation", plain e.days), ("date", plain e.date),
    ("clean_up_expired_object_delete_markers", plain e.deleteMarkers)]

end Expiration

namespace NoncurrentExpiration

def shape : Shape :=
  .recordOf [("days", .optional .integer), ("newer_noncurrent_versions", .optional .integer)]

def ofValue (value : Value) : NoncurrentExpiration where
  days := (value.get "days").int?
  newerVersions := (value.get "newer_noncurrent_versions").int?

instance : Plain NoncurrentExpiration where
  plain e := .record [("days", plain e.days), ("newer_noncurrent_versions", plain e.newerVersions)]

end NoncurrentExpiration

namespace LifecycleRule

def shape : Shape :=
  .recordOf [("enabled", .optional .boolean), ("filter", .optional ObjectFilter.shape),
    ("transitions", .optional (.listOf Transition.shape)),
    ("expiration", .optional Expiration.shape),
    ("noncurrent_version_expiration", .optional NoncurrentExpiration.shape),
    ("noncurrent_version_transitions", .optional (.listOf NoncurrentTransition.shape)),
    ("abort_incomplete_multipart_upload_days", .optional .integer)]

/-- A rule is enabled unless it says that it is not. -/
def ofValue (value : Value) : LifecycleRule where
  enabled := (value.get "enabled").bool?.getD true
  filter := (value.get "filter").record? ObjectFilter.ofValue
  transitions := ((value.get "transitions").sequence?.getD []).filterMap Transition.ofValue?
  expiration := (value.get "expiration").record? Expiration.ofValue
  noncurrentExpiration :=
    (value.get "noncurrent_version_expiration").record? NoncurrentExpiration.ofValue
  noncurrentTransitions :=
    (value.get "noncurrent_version_transitions").records NoncurrentTransition.ofValue
  abortDays := (value.get "abort_incomplete_multipart_upload_days").int?

instance : Plain LifecycleRule where
  plain rule := .record [("enabled", plain rule.enabled), ("filter", plain rule.filter),
    ("transitions", plain rule.transitions), ("expiration", plain rule.expiration),
    ("noncurrent_version_expiration", plain rule.noncurrentExpiration),
    ("noncurrent_version_transitions", plain rule.noncurrentTransitions),
    ("abort_incomplete_multipart_upload_days", plain rule.abortDays)]

end LifecycleRule

end BucketPlan
