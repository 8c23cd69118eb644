import BucketPlan.Fault
import BucketPlan.Replication.Rule
import BucketPlan.Text.Arn
import BucketPlan.Text.Blank

namespace BucketPlan

inductive AccountScope where
  | same
  | cross
deriving DecidableEq, Repr

def AccountScope.name : AccountScope → String
  | same => "same-account"
  | cross => "cross-account"

structure ReplicationRulePlan where
  name : String
  priority : Int
  enabled : Bool
  destination : String
  filter : FilterPlan
  storageClass : Option String
  replicaKey : Option String
  accountId : Option String
  accountScope : AccountScope
  /-- Whether the destination has to admit the replication role, which no plan can see to. -/
  needsGrant : Bool
  metrics : Bool
  timeControl : Bool
  modificationSync : Bool
  deleteMarkers : Bool
deriving DecidableEq, Repr

instance : Plain ReplicationRulePlan where
  plain rule := .record [("name", plain rule.name), ("priority", plain rule.priority),
    ("enabled", plain rule.enabled), ("destination_bucket", plain rule.destination),
    ("filter", plain rule.filter), ("storage_class", plain rule.storageClass),
    ("replica_kms_key_id", plain rule.replicaKey), ("destination_account_id", plain rule.accountId),
    ("account_scope", plain rule.accountScope.name),
    ("requires_destination_grant", plain rule.needsGrant), ("metrics", plain rule.metrics),
    ("replication_time_control", plain rule.timeControl),
    ("replica_modification_sync", plain rule.modificationSync),
    ("delete_marker_replication", plain rule.deleteMarkers)]

/-- The rules by descending priority. -/
structure ReplicationPlan where
  role : Option String
  rules : List ReplicationRulePlan
deriving DecidableEq, Repr

instance : Plain ReplicationPlan where
  plain replication := .record [("role", plain replication.role), ("rules", plain replication.rules)]

namespace ReplicationRule

/-- The parts of a rule without which it has no plan; the destination is looked at first. -/
def parts (rule : ReplicationRule) : Except Fault (String × Option String) :=
  match rule.destination, rule.transfer with
  | none, _ => .error (.partUnset "startswith")
  | some destination, none => .ok (destination, none)
  | some destination, some transfer =>
    match transfer.accountId with
    | none => .error (.partUnset "strip")
    | some accountId => .ok (destination, some (strip accountId))

def planWith (rule : ReplicationRule) (name : String) (destination : String)
    (accountId : Option String) (priority : Int) : ReplicationRulePlan :=
  let features := rule.features.getD {}
  { name := name
    priority := priority
    enabled := rule.enabled
    destination := bucketAddress destination
    filter := .ofFilter rule.filter false
    storageClass := rule.storageClass
    replicaKey := rule.encrypted.bind EncryptedReplicas.keyId
    accountId := accountId
    accountScope := if rule.transfer.isSome then .cross else .same
    needsGrant := rule.transfer.isSome
    metrics := features.metrics.getD false
    timeControl := features.timeControl.getD false
    modificationSync := features.modificationSync.getD false
    deleteMarkers := features.deleteMarkers.getD false }

def plan (rule : ReplicationRule) (name : String) : Except Fault ReplicationRulePlan := do
  let (destination, accountId) ← rule.parts
  match rule.priority with
  | none => .error .priorityUnset
  | some priority => return rule.planWith name destination accountId priority

def isComplete (rule : ReplicationRule) : Bool :=
  match rule.parts with
  | .ok _ => true
  | .error _ => false

end ReplicationRule

namespace ReplicationRulePlan

/-- Higher priorities come first, rules of one priority by name. -/
def precedes (a b : ReplicationRulePlan) : Bool :=
  decide (b.priority < a.priority) || (a.priority == b.priority && decide (a.name ≤ b.name))

end ReplicationRulePlan

namespace Replication

/-- The rules up to the first one that is incomplete, which is looked at but gets no plan. -/
def reached : List (String × ReplicationRule) → List (String × ReplicationRule)
  | [] => []
  | (name, rule) :: rest =>
    if rule.isComplete then (name, rule) :: reached rest else [(name, rule)]

/-- A missing part of any rule outweighs a missing priority. -/
def plan (replication : Replication) : Except Fault ReplicationPlan := do
  let _ ← replication.rules.values.mapM ReplicationRule.parts
  let rules ← replication.rules.entries.mapM fun (name, rule) => rule.plan name
  return ⟨replication.role, rules.mergeSort ReplicationRulePlan.precedes⟩

/-- Adds a rule to those of a priority, which comes last when no rule has had it before. -/
def addHolder (priority : Int) (name : String) : List (Int × List String) → List (Int × List String)
  | [] => [(priority, [name])]
  | (other, names) :: rest =>
    if other = priority then (other, names ++ [name]) :: rest
    else (other, names) :: addHolder priority name rest

/-- Adds a rule to those of its priority, if it has set one. -/
def addRule (held : List (Int × List String)) (entry : String × ReplicationRule) :
    List (Int × List String) :=
  match entry.2.priority with
  | some priority => addHolder priority entry.1 held
  | none => held

/-- The priorities with the rules that have them, in the order in which these are listed. -/
def heldPriorities (rules : Keyed ReplicationRule) : List (Int × List String) :=
  rules.entries.foldl addRule []

/-- A priority with several rules is reported once, at the first of them. -/
def sharingFindings : Int × List String → List Finding
  | (priority, first :: second :: others) =>
    Scope.error { area := "replication.rules", rule := first } "priority" .duplicateKey
      (s!"priority {priority} is used by more than one rule: " ++
        ", ".intercalate ((first :: second :: others).map quoted))
  | _ => []

def priorityFindings (rules : Keyed ReplicationRule) : List Finding :=
  (heldPriorities rules).flatMap sharingFindings

def planFindings (replication : Replication) : List Finding :=
  priorityFindings replication.rules ++
  (reached replication.rules.entries).flatMap fun (name, rule) =>
    FilterPlan.findings rule.filter { area := "replication.rules", rule := name } false

def remarks (replication : Replication) : List String :=
  ((reached replication.rules.entries).filter fun (_, rule) => rule.transfer.isSome).map
    fun (name, _) =>
      s!"Replication rule {name} is cross-account; destination must grant the replication role"

end Replication

end BucketPlan
