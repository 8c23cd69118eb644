import BucketPlan.Finding
import BucketPlan.Shape
import BucketPlan.Value.Plain

namespace BucketPlan

/-- How long new objects are kept from deletion. -/
structure Retention where
  days : Option Int := none
  years : Option Int := none
  mode : Option String := none
deriving DecidableEq, Repr

/-- The lock on objects; a token means that an existing lock is amended. -/
structure ObjectLock where
  token : Option String := none
  retention : Option Retention := none
deriving DecidableEq, Repr

structure ObjectLockPlan where
  token : Option String := none
  retention : Retention := {}
deriving DecidableEq, Repr

instance : Plain ObjectLockPlan where
  plain lock := .record [("token", plain lock.token), ("retention_mode", plain lock.retention.mode),
    ("retention_days", plain lock.retention.days), ("retention_years", plain lock.retention.years)]

namespace Retention

def shape : Shape :=
  .recordOf [("retention_days", .optional .integer), ("retention_years", .optional .integer),
    ("retention_mode", .optional .text)]

def ofValue (value : Value) : Retention where
  days := (value.get "retention_days").int?
  years := (value.get "retention_years").int?
  mode := (value.get "retention_mode").text?

instance : Plain Retention where
  plain r := .record [("retention_days", plain r.days), ("retention_years", plain r.years),
    ("retention_mode", plain r.mode)]

def modes : List String := ["GOVERNANCE", "COMPLIANCE"]

/-- A new lock needs a mode and a period; days and years exclude each other in any case. -/
def findings (r : Retention) (amends : Bool) : List Finding :=
  let scope : Scope := { area := "object_lock" }
  scope.oneOf r.mode modes "default_retention.retention_mode" ++
  scope.inRange r.days "default_retention.retention_days" (some 1) ++
  scope.inRange r.years "default_retention.retention_years" (some 1) ++
  (if r.days.isSome && r.years.isSome then
    scope.error "default_retention" .mutuallyExclusive
      "retention_days and retention_years cannot both be set" else []) ++
  if amends then []
  else
    scope.require (isFilled r.mode) "default_retention.retention_mode"
      "default_retention requires retention_mode when no token is given" ++
    if r.days.isNone && r.years.isNone then
      scope.error "default_retention.retention_days" .requiresField
        "default_retention requires retention_days when no token is given"
    else []

end Retention

namespace ObjectLock

def shape : Shape :=
  .recordOf [("token", .optional .text), ("default_retention", .optional Retention.shape)]

def ofValue (value : Value) : ObjectLock where
  token := (value.get "token").text?
  retention := (value.get "default_retention").record? Retention.ofValue

instance : Plain ObjectLock where
  plain lock := .record [("token", plain lock.token), ("default_retention", plain lock.retention)]

/-- A lock is switched on when the bucket is made, and needs versions. -/
def findings (lock : Option ObjectLock) (enabled versioning : Option Bool) : List Finding :=
  (if enabled = some true ∧ versioning = some false then
    Scope.error { area := "versioning_enabled" } "" .requiresField
      "enables_object_lock requires versioning_enabled to be true" else []) ++
  match lock with
  | none => []
  | some lock =>
    (if enabled = some true then []
      else Scope.error { area := "enables_object_lock" } "" .requiresField
        "object_lock settings require enables_object_lock to be true") ++
    match lock.retention with
    | none => []
    | some retention => retention.findings lock.token.isSome

def plan (lock : Option ObjectLock) (enabled : Bool) : Option ObjectLockPlan :=
  if enabled then
    match lock with
    | none => some {}
    | some lock => some ⟨lock.token, lock.retention.getD {}⟩
  else none

end ObjectLock

namespace ObjectLockPlan

def retentionFields (lock : ObjectLockPlan) : List (String × Value) :=
  fieldsIf (isFilled lock.retention.mode) [("Mode", plain lock.retention.mode)] ++
  fieldIfSet "Days" lock.retention.days ++ fieldIfSet "Years" lock.retention.years

/-- Without a mode or a token there is nothing to ask for beyond the lock itself. -/
def isConfigured (lock : ObjectLockPlan) : Bool :=
  isFilled lock.retention.mode || isFilled lock.token

def request (lock : ObjectLockPlan) : Value :=
  .record ([("ObjectLockEnabled", .str "Enabled")] ++
    fieldsIf (!lock.retentionFields.isEmpty)
      [("Rule", .record [("DefaultRetention", .record lock.retentionFields)])])

end ObjectLockPlan

end BucketPlan
