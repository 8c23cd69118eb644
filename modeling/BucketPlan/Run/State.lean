import BucketPlan.Fault

namespace BucketPlan

/-- How far the compilation of a description has come. -/
inductive State where
  | received
  | validating
  | defaulting
  | compiling
  | bundled
  | rejected
deriving DecidableEq, Repr

namespace State

def all : List State := [received, validating, defaulting, compiling, bundled, rejected]

def name : State → String
  | received => "Received"
  | validating => "Validating"
  | defaulting => "Defaulting"
  | compiling => "Compiling"
  | bundled => "Bundled"
  | rejected => "Rejected"

def ofName (name : String) : Except Fault State :=
  match all.find? fun state => state.name == name with
  | some state => .ok state
  | none => .error (.unknownState name)

/-- The states that may follow. -/
def next : State → List State
  | received => [validating]
  | validating => [defaulting, rejected]
  | defaulting => [compiling]
  | compiling => [bundled, rejected]
  | bundled => []
  | rejected => []

end State

/-- The timed parts of a compilation. -/
inductive Stage where
  | validate
  | defaults
  | lifecycle
  | replication
  | notification
  | inventory
  | tiering
deriving DecidableEq, Repr

def Stage.name : Stage → String
  | validate => "validate"
  | defaults => "default"
  | lifecycle => "lifecycle"
  | replication => "replication"
  | notification => "notification"
  | inventory => "inventory"
  | tiering => "tiering"

end BucketPlan
