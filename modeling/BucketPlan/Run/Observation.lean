import BucketPlan.Run.Count
import BucketPlan.Run.Tracer

namespace BucketPlan

/-- A compilation at work, with what could be observed of it so far. -/
structure Observation where
  compilation : Compilation
  tracer : Tracer := {}
  entries : List LogEntry := []
  counts : List Series := []

/-- Something that is done under observation. A fault stops it, and what was done until then stays done. -/
abbrev Work (α : Type) := EStateM Fault Observation α

namespace Work

def compilation : Work Compilation :=
  return (← get).compilation

def trace (tell : Tracer → Tracer) : Work Unit :=
  modify fun s => { s with tracer := tell s.tracer }

def log (entries : List LogEntry) : Work Unit :=
  modify fun s => { s with entries := s.entries ++ entries }

def remark (texts : List String) : Work Unit :=
  log (texts.map fun text => ⟨.debug, .remark text⟩)

def count (counts : List Series) : Work Unit :=
  modify fun s => { s with counts := s.counts ++ counts }

def report (findings : List Finding) : Work Unit :=
  modify fun s => { s with compilation := s.compilation.report findings }

def advance (target : State) : Work Unit := do
  let moved ← MonadExcept.ofExcept ((← compilation).advance target)
  modify fun s => { s with compilation := moved }

/-- Does something within a span of its own. A fault is recorded on the span on its way out. -/
def inSpan {α : Type} (name : String) (stage : Option String) (work : Work α) : Work α := do
  let outer := (← get).tracer.current
  let span := (← get).tracer.size
  let bucket := (← compilation).bucketName.getD ""
  trace (·.start name (Span.ofStage name stage [("bucket.name", .str bucket)]).attributes)
  let result ← tryCatch work fun fault => do
    trace (·.call span (Span.faultCalls fault.category fault.message))
    trace (·.finish span outer)
    throw fault
  trace (·.finish span outer)
  return result

/-- A stage has a span, and counts when it comes to its end. -/
def inStage {α : Type} (stage : Stage) (work : Work α) : Work α := do
  let result ← inSpan ("compile_" ++ stage.name) (some stage.name) work
  count [.stageTimed stage]
  return result

def reject (stage : Stage) : Work Result := do
  advance .rejected
  let c ← compilation
  let violations ← MonadExcept.ofExcept c.log.sorted
  log [c.event .warning stage.name "rejected" "CompileRejected"
    s!"Bucket {c.bucketText} rejected with {violations.length} violation(s)"
    [("violations", plain (violations.map Violation.path))]]
  return c.result none violations

/-- The rest of the plan, and the verdict. -/
def finish (resolved : Descriptor) (rules : RulePlans) : Work Result := do
  if (← compilation).isRejected then reject .tiering
  else
    let plan ← MonadExcept.ofExcept (resolved.plan rules)
    advance .bundled
    let c ← compilation
    let violations ← MonadExcept.ofExcept c.log.sorted
    log [c.event .info Stage.tiering.name "bundled" "CompileSucceeded" s!"Compiled bucket {c.bucketText}"
      [("warnings", .int violations.length)]]
    return c.result (some plan) violations

/-- Plans the rules, each kind of them in a stage of its own. -/
def planRules (resolved : Descriptor) : Work Result := do
  let findings := resolved.planFindings (← compilation).options
  inStage .lifecycle do
    report (findings .lifecycle)
    remark (LifecyclePlan.remarks resolved.lifecycleRules)
  let replication ← inStage .replication do
    report (findings .replication)
    remark (resolved.replication.toList.flatMap Replication.remarks)
    MonadExcept.ofExcept resolved.replicationPlan
  inStage .notification (report (findings .notification))
  inStage .inventory (report (findings .inventory))
  inStage .tiering (report (findings .tiering))
  finish resolved (resolved.rulePlans replication)

/-- Goes through the stages, from the checks to the verdict. -/
def stages : Work Result := do
  advance .validating
  inStage .validate (report (← compilation).descriptor.allFindings)
  if (← compilation).isRejected then reject .validate
  else
    advance .defaulting
    let resolved ← inStage .defaults (return (← compilation).descriptor.resolve)
    advance .compiling
    planRules resolved

/-- Counts and logs the fault that stops a compilation. -/
def reportFault (fault : Fault) : Work Unit := do
  let c ← compilation
  count [.failure fault.category c.state.name]
  log [c.failureEntry fault]

/-- Puts a verdict down on the span that is current. -/
def recordVerdict (result : Result) : Work Unit := do
  trace (·.callCurrent (.attribute "compile.state" (.str result.state.name)))
  trace (·.callCurrent (.attribute "compile.violations" (.int result.violations.length)))
  trace (·.callCurrent (Span.statusCall result.isOk (some s!"{result.errors.length} error(s)")))

/-- What the stages come to: a verdict, which is recorded, or a fault, which is reported. -/
def settle : Work Result := do
  let result ← tryCatch stages fun fault => do
    reportFault fault
    throw fault
  recordVerdict result
  return result

/-- A whole compilation, within a span that its verdict is put down on. -/
def compile : Work Result := do
  log [(← compilation).startEntry]
  let result ← inSpan "compile_bucket" none settle
  count ([.timed, .compiled result.isOk] ++
    result.violations.map fun v => Series.violation v.code v.severity)
  return result

end Work

/-- Runs a compilation under observation. -/
def Compilation.observe (c : Compilation) (recording : Bool := true) : Except Fault Result × Observation :=
  match EStateM.run Work.compile { compilation := c, tracer := { recording } } with
  | .ok result after => (.ok result, after)
  | .error fault after => (.error fault, after)

end BucketPlan
