import BucketPlan.Proofs.Observed.Run

namespace BucketPlan

theorem modify_last {α : Type} (xs : List α) (x : α) (f : α → α) :
    (xs ++ [x]).modify xs.length f = xs ++ [f x] := by
  induction xs with
  | nil => rfl
  | cons y rest ih => simp [ih]

namespace Span

@[simp]
theorem add_nil (span : Span) : span.add [] = span := by
  simp [add]

theorem add_comp (first second : List SpanCall) : add second ∘ add first = add (first ++ second) := by
  funext span
  simp [add]

end Span

namespace Tracer

variable {tracer : Tracer} {c : Compilation} {calls : List SpanCall}

theorem length_foldl_observe (events : List TraceEvent) (spans : List Span) :
    (events.foldl observe spans).length = spans.length + events.countP TraceEvent.isStart := by
  induction events generalizing spans with
  | nil => rfl
  | cons event rest ih =>
    rw [List.foldl_cons, ih, List.countP_cons]
    cases event with
    | started => simp [observe, TraceEvent.isStart]; omega
    | called => simp [observe, TraceEvent.isStart]

theorem length_spans (tracer : Tracer) : tracer.spans.length = tracer.size := by
  rw [spans, length_foldl_observe, List.length_nil, Nat.zero_add, size]

theorem spans_start (tracer : Tracer) (name : String) (attributes : List (String × Value)) :
    (tracer.start name attributes).spans =
      tracer.spans ++ [{ name, attributes,
                         parent := tracer.current.bind fun i => tracer.spans[i]?.map Span.name }] := by
  rw [spans, start, List.foldl_append]
  rfl

theorem foldl_observe_called (span : Nat) (calls : List SpanCall) (spans : List Span) :
    (calls.map (TraceEvent.called span)).foldl observe spans = spans.modify span (Span.add calls) := by
  induction calls generalizing spans with
  | nil =>
    have same : Span.add [] = id := funext Span.add_nil
    rw [same, List.modify_id]
    rfl
  | cons call rest ih =>
    rw [List.map_cons, List.foldl_cons, ih, observe, List.modify_modify_eq, Span.add_comp]
    rfl

theorem spans_call (tracer : Tracer) (span : Nat) (calls : List SpanCall) :
    (tracer.call span calls).spans =
      tracer.spans.modify span (Span.add (if tracer.recording then calls else [])) := by
  rw [spans, call, List.foldl_append, ← foldl_observe_called]
  split <;> rfl

theorem spans_finish (tracer : Tracer) (span : Nat) (outer : Option Nat) :
    (tracer.finish span outer).spans = tracer.spans.modify span (Span.add [.finished]) := by
  rw [spans, finish, List.foldl_append]
  rfl

/-- The span of a stage, once it is ended. -/
def stageSpan (recording : Bool) (c : Compilation) (calls : List SpanCall) (stage : Stage) : Span where
  name := "compile_" ++ stage.name
  parent := some "compile_bucket"
  attributes := c.spanAttributes ("compile_" ++ stage.name) (some stage.name)
  calls := (if recording then calls else []) ++ [.finished]

/-- The span that is current is the one of the whole. -/
def IsInRoot (tracer : Tracer) : Prop :=
  tracer.current = some 0 ∧ tracer.spans.head?.map Span.name = some "compile_bucket"

theorem spans_attempt (inRoot : tracer.IsInRoot) (stage : Stage) :
    (tracer.attempt c calls stage).spans =
      tracer.spans ++ [stageSpan tracer.recording c calls stage] := by
  obtain ⟨current, root⟩ := inRoot
  have parent : (tracer.current.bind fun i => tracer.spans[i]?.map Span.name) = some "compile_bucket" := by
    rw [current, Option.bind_some, ← List.head?_eq_getElem?, root]
  rw [attempt, spans_finish, spans_call, spans_start, parent, ← length_spans, modify_last, modify_last]
  rfl

theorem IsInRoot.attempt (inRoot : tracer.IsInRoot) (stage : Stage) :
    (tracer.attempt c calls stage).IsInRoot := by
  obtain ⟨root, first, name⟩ := Option.map_eq_some_iff.mp inRoot.2
  refine ⟨inRoot.1, ?_⟩
  rw [spans_attempt inRoot stage, List.head?_append, first]
  exact congrArg some name

/-- Stages one after the other have spans one after the other, none of them within another. -/
theorem spans_foldl_attempt (stages : List Stage) (inRoot : tracer.IsInRoot) :
    (stages.foldl (attempt c calls) tracer).spans =
      tracer.spans ++ stages.map (stageSpan tracer.recording c calls) := by
  induction stages generalizing tracer with
  | nil => simp
  | cons stage rest ih =>
    rw [List.foldl_cons, ih (inRoot.attempt stage), spans_attempt inRoot stage, List.append_assoc]
    rfl

theorem IsInRoot.foldl_attempt (c : Compilation) (calls : List SpanCall) (stages : List Stage)
    (inRoot : tracer.IsInRoot) :
    (stages.foldl (Tracer.attempt c calls) tracer).IsInRoot := by
  induction stages generalizing tracer with
  | nil => exact inRoot
  | cons stage rest ih => exact ih (inRoot.attempt stage)

theorem recording_foldl_attempt (stages : List Stage) :
    (stages.foldl (attempt c calls) tracer).recording = tracer.recording := by
  induction stages generalizing tracer with
  | nil => rfl
  | cons stage rest ih => exact ih

theorem isInRoot_rooted (recording : Bool) (c : Compilation) : (rooted recording c).IsInRoot :=
  ⟨rfl, rfl⟩

end Tracer

namespace Run

variable {run : Run} {recording : Bool}

theorem recording_innerTracer : (run.innerTracer recording).recording = recording := by
  rw [innerTracer, Tracer.recording_foldl_attempt, Tracer.recording_foldl_attempt]
  rfl

/-- The spans that the tracer of a run shows are those of its closed form. -/
theorem spans_tracer (run : Run) (recording : Bool) :
    (run.tracer recording).spans = run.spans recording := by
  have inRoot := (Tracer.isInRoot_rooted recording run.after).foldl_attempt run.after []
    run.completed
  rw [tracer, Tracer.spans_finish, Tracer.spans_call, recording_innerTracer, innerTracer,
    Tracer.spans_foldl_attempt _ inRoot, Tracer.recording_foldl_attempt,
    Tracer.spans_foldl_attempt _ (Tracer.isInRoot_rooted recording run.after)]
  rfl

end Run

/-- A span that is started and not ended yet. -/
def TraceEvent.IsOpenAfter (events : List TraceEvent) (span : Nat) : Prop :=
  span < events.countP isStart ∧ .called span .finished ∉ events

namespace Tracer

open TraceEvent

/-- Exactly the spans that were open when a fault struck have it on record. It is recorded on its way
out, before any of them is ended, so these are the spans that are open when it is recorded first. -/
def Blames (tracer : Tracer) (fault : Fault) : Prop :=
  ∃ before innermost after,
    tracer.events = before ++ .called innermost (.exception fault.category fault.message) :: after ∧
    (∀ span category message, .called span (.exception category message) ∉ before) ∧
    ∀ span category message, .called span (.exception category message) ∈ tracer.events ↔
      IsOpenAfter before span ∧ category = fault.category ∧ message = fault.message

/-- No span is open but the one of the whole, and no fault is on record. -/
structure IsBetweenStages (tracer : Tracer) : Prop where
  alone : ∀ span, IsOpenAfter tracer.events span ↔ span = 0
  unharmed : ∀ span category message,
    .called span (.exception category message) ∉ tracer.events

variable {tracer : Tracer} {c : Compilation}

theorem isBetweenStages_rooted (recording : Bool) (c : Compilation) :
    (rooted recording c).IsBetweenStages where
  alone span := by simp [rooted, start, IsOpenAfter, isStart]
  unharmed span category message := by simp [rooted, start]

theorem events_attempt (tracer : Tracer) (stage : Stage) :
    (tracer.attempt c [] stage).events = tracer.events ++
      [.started ("compile_" ++ stage.name) tracer.current
        (c.spanAttributes ("compile_" ++ stage.name) (some stage.name)),
      .called tracer.size .finished] := by
  simp [attempt, finish, start]

theorem IsBetweenStages.attempt (between : tracer.IsBetweenStages) (stage : Stage) :
    (tracer.attempt c [] stage).IsBetweenStages := by
  have events := events_attempt (c := c) tracer stage
  refine ⟨fun span => ?_, fun span category message => ?_⟩
  · -- the span of the stage is the newest, and is ended at once
    have newest : tracer.events.countP isStart = tracer.size := rfl
    have started : IsOpenAfter (tracer.attempt c [] stage).events span ↔
        IsOpenAfter tracer.events span := by
      simp only [IsOpenAfter, events, List.countP_append, List.countP_cons, List.countP_nil, isStart,
        List.mem_append, List.mem_cons, List.not_mem_nil, newest]
      grind
    exact started.trans (between.alone span)
  · rw [events]
    simp [between.unharmed]

theorem IsBetweenStages.foldl_attempt (stages : List Stage) (between : tracer.IsBetweenStages) :
    (stages.foldl (Tracer.attempt c []) tracer).IsBetweenStages := by
  induction stages generalizing tracer with
  | nil => exact between
  | cons stage rest ih => exact ih (between.attempt stage)

end Tracer

/-- A fault that strikes when the stages are over is recorded on the span of the whole only. -/
theorem Run.tracer_blames {run : Run} {fault : Fault} (failed : run.outcome = .error fault)
    (finished : run.interrupted = false) : (run.tracer true).Blames fault := by
  have inner : run.innerTracer true =
      run.completed.foldl (.attempt run.after []) (.rooted true run.after) := by
    simp [innerTracer, finished]
  have between : (run.innerTracer true).IsBetweenStages := by
    rw [inner]
    exact (Tracer.isBetweenStages_rooted true run.after).foldl_attempt run.completed
  have events : (run.tracer true).events = (run.innerTracer true).events ++
      .called 0 (.exception fault.category fault.message) ::
        [.called 0 (.status false (some fault.message)), .called 0 .finished] := by
    rw [tracer, Tracer.finish, Tracer.call, if_pos recording_innerTracer, rootSteps, failed,
      List.append_assoc]
    rfl
  refine ⟨_, _, _, events, between.unharmed, fun span category message => ?_⟩
  rw [events, between.alone span]
  simp [between.unharmed]

end BucketPlan
