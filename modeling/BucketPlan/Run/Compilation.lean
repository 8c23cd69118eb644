import BucketPlan.Plan.Basic
import BucketPlan.Run.Line
import BucketPlan.Run.State
import BucketPlan.Violation.Order

namespace BucketPlan

structure Options where
  /-- Whether a warning is enough to turn a description down. -/
  strict : Bool := false
  maxKeyLength : Int := 1024
deriving DecidableEq, Repr

/-- A description on its way to a plan. -/
structure Compilation where
  descriptor : Descriptor
  options : Options := {}
  log : Log := []
  past : List State := []
  state : State := .received
  /-- How the process at work orders the sensitive fields, when it redacts what it logs. -/
  fieldOrder : FieldOrder := {}

/-- What a compilation came to. -/
structure Result where
  bucketName : Option String
  state : State
  plan : Option Plan
  violations : List Violation
  states : List State

namespace Result

def isOk (result : Result) : Bool :=
  result.state == .bundled

def errors (result : Result) : List Violation :=
  result.violations.filter Violation.isError

def warnings (result : Result) : List Violation :=
  result.violations.filter fun v => !v.isError

end Result

/-- A run with all that could be observed of it. -/
structure Run where
  after : Compilation
  outcome : Except Fault Result
  /-- The stages that were begun. -/
  stages : List Stage
  /-- Whether the last of them was not brought to an end. -/
  interrupted : Bool
  entries : List LogEntry

/-- The stages that came to their end. -/
def Run.completed (run : Run) : List Stage :=
  if run.interrupted then run.stages.dropLast else run.stages

namespace Descriptor

/-- What the planning of the rules has to report. -/
def planFindings (d : Descriptor) (options : Options) : Stage → List Finding
  | .lifecycle => LifecyclePlan.findings d.lifecycleRules (d.versioning.getD false)
  | .replication => d.replication.toList.flatMap Replication.planFindings
  | .notification => d.notifications.toList.flatMap (·.planFindings options.maxKeyLength)
  | .inventory => InventoryPlan.findings d.inventoryRules
  | .tiering => TieringPlan.findings d.tieringRules
  | .validate => []
  | .defaults => []

def replicationPlan (d : Descriptor) : Except Fault (Option ReplicationPlan) :=
  match d.replication with
  | none => .ok none
  | some replication => replication.plan.map some

def rulePlans (d : Descriptor) (replication : Option ReplicationPlan) : RulePlans where
  lifecycle := LifecyclePlan.ofRules d.lifecycleRules
  replication := replication
  notifications := d.notifications.map Notifications.plan
  inventory := InventoryPlan.ofRules d.inventoryRules
  tiering := TieringPlan.ofRules d.tieringRules

def remarks (d : Descriptor) : List LogEntry :=
  (LifecyclePlan.remarks d.lifecycleRules ++ d.replication.toList.flatMap Replication.remarks).map
    fun text => ⟨.debug, .remark text⟩

end Descriptor

namespace Compilation

/-- A compilation that starts with the mismatches of the description it reads. -/
def ofValue (value : Value) (options : Options) (order : FieldOrder := {}) : Compilation where
  descriptor := .ofValue value
  options := options
  log := Descriptor.mismatches value
  fieldOrder := order

def history (c : Compilation) : List State :=
  c.past ++ [c.state]

def bucketName (c : Compilation) : Option String :=
  c.descriptor.name

def bucketText (c : Compilation) : String :=
  c.bucketName.getD "None"

def enter (c : Compilation) (target : State) : Compilation :=
  { c with past := c.history, state := target }

/-- Moves on to a state that may follow the current one. -/
def advance (c : Compilation) (target : State) : Except Fault Compilation :=
  if target ∈ c.state.next then .ok (c.enter target)
  else .error (.illegalMove c.state.name target.name)

def report (c : Compilation) (findings : List Finding) : Compilation :=
  { c with log := c.log.record findings }

def isRejected (c : Compilation) : Bool :=
  c.log.rejects c.options.strict

def event (c : Compilation) (level : Level) (stage event reason message : String)
    (extra : List (String × Value) := []) : LogEntry :=
  ⟨level, .event (eventFields c.fieldOrder.names c.bucketName stage event reason message extra)⟩

def startEntry (c : Compilation) : LogEntry :=
  c.event .info Stage.validate.name "started" "CompileStarted" s!"Compiling bucket {c.bucketText}"

/-- What is logged of a fault that stops a compilation. -/
def failureEntry (c : Compilation) (fault : Fault) : LogEntry :=
  c.event .error c.state.name "error" "CompileFailed" ("Unexpected error while compiling: " ++
    redactFailure c.fieldOrder.names fault.category fault.message)

def result (c : Compilation) (plan : Option Plan) (violations : List Violation) : Result :=
  ⟨c.bucketName, c.state, plan, violations, c.history⟩

/-- The end of a run that a fault has stopped. -/
def fail (c : Compilation) (stages : List Stage) (interrupted : Bool) (entries : List LogEntry)
    (fault : Fault) : Run where
  after := c
  outcome := .error fault
  stages := stages
  interrupted := interrupted
  entries := entries ++ [c.failureEntry fault]

/-- The end of a run whose log turns the description down. -/
def reject (c : Compilation) (stage : Stage) (stages : List Stage) (entries : List LogEntry) : Run :=
  let c := c.enter .rejected
  match c.log.sorted with
  | .error fault => c.fail stages false entries fault
  | .ok violations =>
    { after := c
      outcome := .ok (c.result none violations)
      stages := stages
      interrupted := false
      entries := entries ++ [c.event .warning stage.name "rejected" "CompileRejected"
        s!"Bucket {c.bucketText} rejected with {violations.length} violation(s)"
        [("violations", plain (violations.map Violation.path))]] }

/-- The end of a run that has planned the rules: the rest of the plan, and the verdict. -/
def finish (c : Compilation) (resolved : Descriptor) (rules : RulePlans) (stages : List Stage)
    (entries : List LogEntry) : Run :=
  if c.isRejected then c.reject .tiering stages entries
  else match resolved.plan rules with
    | .error fault => c.fail stages false entries fault
    | .ok plan =>
      let c := c.enter .bundled
      match c.log.sorted with
      | .error fault => c.fail stages false entries fault
      | .ok violations =>
        { after := c
          outcome := .ok (c.result (some plan) violations)
          stages := stages
          interrupted := false
          entries := entries ++ [c.event .info Stage.tiering.name "bundled" "CompileSucceeded"
            s!"Compiled bucket {c.bucketText}" [("warnings", .int violations.length)]] }

/-- Plans the rules one kind after the other. -/
def planRules (c : Compilation) (resolved : Descriptor) (entries : List LogEntry) : Run :=
  let findings := resolved.planFindings c.options
  let c := c.report (findings .lifecycle ++ findings .replication)
  let entries := entries ++ resolved.remarks
  match resolved.replicationPlan with
  | .error fault =>
    c.fail [.validate, .defaults, .lifecycle, .replication] true entries fault
  | .ok replication =>
    let c := c.report (findings .notification ++ findings .inventory ++ findings .tiering)
    c.finish resolved (resolved.rulePlans replication)
      [.validate, .defaults, .lifecycle, .replication, .notification, .inventory, .tiering] entries

/-- Takes a compilation from its start to its end. One that has been moved before cannot run. -/
def run (c : Compilation) : Run :=
  let entries := [c.startEntry]
  match c.advance .validating with
  | .error fault => c.fail [] false entries fault
  | .ok c =>
    let c := c.report c.descriptor.allFindings
    if c.isRejected then c.reject .validate [.validate] entries
    else ((c.enter .defaulting).enter .compiling).planRules c.descriptor.resolve entries

end Compilation

/-- Compiles a description in its untyped form. -/
def compile (value : Value) (options : Options := {}) (order : FieldOrder := {}) : Run :=
  (Compilation.ofValue value options order).run

end BucketPlan
