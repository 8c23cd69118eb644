import BucketPlan.Fault
import BucketPlan.Lifecycle.Plan

namespace BucketPlan

def statusText (enabled : Bool) : Value :=
  .str (if enabled then "Enabled" else "Disabled")

/-- The members of a lifecycle request, filled in by one action after the other. -/
structure LifecycleMembers where
  transitions : List Value := []
  expiration : Option Value := none
  noncurrentTransitions : List Value := []
  noncurrentExpiration : Option Value := none
  abort : Option Value := none

namespace LifecycleMembers

def expirationOf (action : LifecycleAction) : Except Fault Value :=
  match action.date with
  | none => .ok (.record [("Days", plain action.days)])
  | some text =>
    match Date.parse text with
    | .ok date => .ok (.record [("Date", .moment date)])
    | .error fault => .error (.date fault)

def add (members : LifecycleMembers) (action : LifecycleAction) : Except Fault LifecycleMembers :=
  match action.kind with
  | .transition =>
    .ok { members with
      transitions := members.transitions ++
        [.record [("Days", plain action.days), ("StorageClass", plain action.storageClass)]] }
  | .expire => do return { members with expiration := some (← expirationOf action) }
  | .expireDeleteMarkers =>
    .ok { members with expiration := some (.record [("ExpiredObjectDeleteMarker", .bool true)]) }
  | .noncurrentTransition =>
    .ok { members with
      noncurrentTransitions := members.noncurrentTransitions ++
        [.record ([("NoncurrentDays", plain action.days), ("StorageClass", plain action.storageClass)]
          ++ fieldIfSet "NewerNoncurrentVersions" action.newerVersions)] }
  | .noncurrentExpire =>
    .ok { members with
      noncurrentExpiration := some (.record ([("NoncurrentDays", plain action.days)] ++
        fieldIfSet "NewerNoncurrentVersions" action.newerVersions)) }
  | .abortUpload =>
    .ok { members with abort := some (.record [("DaysAfterInitiation", plain action.days)]) }
  | .unknown name => .error (.unknownAction name)

def ofActions (actions : List LifecycleAction) : Except Fault LifecycleMembers :=
  actions.foldlM add {}

def fields (members : LifecycleMembers) : List (String × Value) :=
  fieldsIf (!members.transitions.isEmpty) [("Transitions", .list members.transitions)] ++
  fieldIfSet "Expiration" members.expiration ++
  fieldsIf (!members.noncurrentTransitions.isEmpty)
    [("NoncurrentVersionTransitions", .list members.noncurrentTransitions)] ++
  fieldIfSet "NoncurrentVersionExpiration" members.noncurrentExpiration ++
  fieldIfSet "AbortIncompleteMultipartUpload" members.abort

end LifecycleMembers

def LifecyclePlan.request (rule : LifecyclePlan) : Except Fault Value := do
  let members ← LifecycleMembers.ofActions rule.actions
  return .record ([("ID", plain rule.name), ("Status", statusText rule.enabled),
    ("Filter", rule.filter.request)] ++ members.fields)

end BucketPlan
