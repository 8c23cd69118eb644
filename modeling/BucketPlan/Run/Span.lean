import BucketPlan.Run.Compilation

namespace BucketPlan

/-- What is done to a span. -/
inductive SpanCall where
  | attribute (name : String) (value : Value)
  | status (ok : Bool) (description : Option String)
  | exception (category message : String)
  | finished

/-- What happens within a span. -/
inductive SpanStep where
  | attribute (name : String) (value : Value)
  | status (ok : Bool) (description : Option String)
  | raise (category message : String)

/-- A traced period of time within another one. -/
structure Span where
  name : String
  parent : Option String := none
  attributes : List (String × Value) := []
  calls : List SpanCall := []

namespace Span

/-- A span of a stage carries its name. -/
def ofStage (name : String) (stage : Option String) (attributes : List (String × Value)) : Span :=
  let stageFields := fieldsIf (isFilled stage) [("compiler.stage", plain stage)]
  { name := name
    attributes := stageFields.foldl (fun fields (name, value) => putField name value fields) attributes }

def faultCalls (category message : String) : List SpanCall :=
  [.exception category message, .status false (some message)]

/-- Success needs no description. -/
def statusCall (ok : Bool) (description : Option String) : SpanCall :=
  .status ok (if ok then none else description)

/-- What steps do to a span. Nothing happens after one that raises. -/
def callsOf : List SpanStep → List SpanCall
  | [] => []
  | .attribute name value :: rest => .attribute name value :: callsOf rest
  | .status ok description :: rest => statusCall ok description :: callsOf rest
  | .raise category message :: _ => faultCalls category message

/-- The span after its steps. One that does not record only takes its end. -/
def close (span : Span) (recording : Bool) (steps : List SpanStep) : Span :=
  { span with calls := (if recording then callsOf steps else []) ++ [.finished] }

/-- The category and the message of the first step that raises. -/
def raised? : List SpanStep → Option (String × String)
  | [] => none
  | .raise category message :: _ => some (category, message)
  | _ :: rest => raised? rest

end Span

namespace Run

def nameAttribute (run : Run) : List (String × Value) :=
  [("bucket.name", .str (run.after.bucketName.getD ""))]

def verdictSteps (result : Result) : List SpanStep :=
  [.attribute "compile.state" (.str result.state.name),
    .attribute "compile.violations" (.int result.violations.length),
    .status result.isOk (some s!"{result.errors.length} error(s)")]

def rootSteps (run : Run) : List SpanStep :=
  match run.outcome with
  | .ok result => verdictSteps result
  | .error fault => [.raise fault.category fault.message]

def rootSpan (run : Run) (recording : Bool) : Span :=
  (Span.ofStage "compile_bucket" none run.nameAttribute).close recording run.rootSteps

def stageSpan (run : Run) (recording : Bool) (stage : Stage) (steps : List SpanStep) : Span :=
  { (Span.ofStage ("compile_" ++ stage.name) (some stage.name) run.nameAttribute).close
      recording steps with parent := some "compile_bucket" }

/-- The spans in the order of their starts: the whole run, and the stages within it. -/
def spans (run : Run) (recording : Bool := true) : List Span :=
  let interruptedStage := if run.interrupted then run.stages.getLast?.toList else []
  run.rootSpan recording :: (run.completed.map fun stage => run.stageSpan recording stage []) ++
    interruptedStage.map fun stage => run.stageSpan recording stage run.rootSteps

end Run

end BucketPlan
