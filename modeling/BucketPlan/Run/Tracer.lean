import BucketPlan.Run.Span

namespace BucketPlan

/-- What a tracer is told. Spans are numbered in the order of their starts. -/
inductive TraceEvent where
  | started (name : String) (parent : Option Nat) (attributes : List (String × Value))
  | called (span : Nat) (call : SpanCall)

def TraceEvent.isStart : TraceEvent → Bool
  | started .. => true
  | called .. => false

/-- The span with more done to it. -/
def Span.add (calls : List SpanCall) (span : Span) : Span :=
  { span with calls := span.calls ++ calls }

/-- A tracer with all that it was told so far, and the span that is current. -/
structure Tracer where
  recording : Bool := true
  events : List TraceEvent := []
  current : Option Nat := none

namespace Tracer

/-- The number of the spans that were started. -/
def size (tracer : Tracer) : Nat :=
  tracer.events.countP TraceEvent.isStart

/-- Starts a span within the current one and makes it the current one. -/
def start (tracer : Tracer) (name : String) (attributes : List (String × Value)) : Tracer :=
  { tracer with
    events := tracer.events ++ [.started name tracer.current attributes]
    current := some tracer.size }

/-- Does something to a span, if it records. -/
def call (tracer : Tracer) (span : Nat) (calls : List SpanCall) : Tracer :=
  { tracer with
    events := tracer.events ++ if tracer.recording then calls.map (.called span) else [] }

/-- Does something to the span that is current, whichever this is. -/
def callCurrent (tracer : Tracer) (call : SpanCall) : Tracer :=
  match tracer.current with
  | some span => tracer.call span [call]
  | none => tracer

/-- Ends a span, recording or not, and goes back to the span around it. -/
def finish (tracer : Tracer) (span : Nat) (outer : Option Nat) : Tracer :=
  { tracer with
    events := tracer.events ++ [.called span .finished]
    current := outer }

/-- The spans after one more event. -/
def observe (spans : List Span) : TraceEvent → List Span
  | .started name parent attributes =>
    spans ++ [{ name, attributes, parent := parent.bind fun outer => spans[outer]?.map Span.name }]
  | .called span call => spans.modify span (Span.add [call])

/-- The spans in the order of their starts, each with what was done to it. -/
def spans (tracer : Tracer) : List Span :=
  tracer.events.foldl observe []

end Tracer

end BucketPlan
