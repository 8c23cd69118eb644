import BucketPlan.Proofs.Report
import BucketPlan.Run.Observation

namespace BucketPlan

namespace Compilation

/-- The attributes that a span of a compilation starts with. -/
def spanAttributes (c : Compilation) (name : String) (stage : Option String) : List (String × Value) :=
  (Span.ofStage name stage [("bucket.name", .str (c.bucketName.getD ""))]).attributes

theorem advance_eq {c : Compilation} {target : State} (allowed : target ∈ c.state.next) :
    c.advance target = .ok (c.enter target) :=
  if_pos allowed

end Compilation

namespace Tracer

/-- The tracer when nothing but the span of a whole compilation is started. -/
def rooted (recording : Bool) (c : Compilation) : Tracer :=
  start { recording } "compile_bucket" (c.spanAttributes "compile_bucket" none)

/-- Starts the span of a stage within the current one, does something to it, and ends it. -/
def attempt (c : Compilation) (calls : List SpanCall) (tracer : Tracer) (stage : Stage) : Tracer :=
  let name := "compile_" ++ stage.name
  ((tracer.start name (c.spanAttributes name (some stage.name))).call tracer.size calls).finish
    tracer.size tracer.current

@[simp]
theorem call_nil (tracer : Tracer) (span : Nat) : tracer.call span [] = tracer := by
  simp [call]

end Tracer

namespace Work

variable {α : Type} {o p : Observation} {work : Work α} {fault : Fault} {a : α}

@[simp]
theorem run_compilation : compilation.run o = .ok o.compilation o := rfl

@[simp]
theorem run_trace (tell : Tracer → Tracer) :
    (trace tell).run o = .ok () { o with tracer := tell o.tracer } := rfl

@[simp]
theorem run_log (entries : List LogEntry) :
    (log entries).run o = .ok () { o with entries := o.entries ++ entries } := rfl

@[simp]
theorem run_count (counts : List Series) :
    (count counts).run o = .ok () { o with counts := o.counts ++ counts } := rfl

@[simp]
theorem run_report (findings : List Finding) :
    (report findings).run o = .ok () { o with compilation := o.compilation.report findings } := rfl

@[simp]
theorem run_throw : (throw fault : Work α).run o = .error fault o := rfl

theorem run_advance {target : State} (allowed : target ∈ o.compilation.state.next) :
    (advance target).run o = .ok () { o with compilation := o.compilation.enter target } := by
  have moved : o.compilation.advance target = .ok (o.compilation.enter target) :=
    Compilation.advance_eq allowed
  rw [advance, EStateM.run_bind, run_compilation]
  dsimp only
  rw [moved]
  rfl

theorem run_tryCatch_ok {handle : Fault → Work α} (done : work.run o = .ok a p) :
    (tryCatch work handle).run o = .ok a p := by
  rw [EStateM.run] at done
  simp [EStateM.run, tryCatch, tryCatchThe, MonadExceptOf.tryCatch, EStateM.tryCatch, done]

/-- What was done before a fault stays done when the fault is handled. -/
theorem run_tryCatch_error {handle : Fault → Work α} (failed : work.run o = .error fault p) :
    (tryCatch work handle).run o = (handle fault).run p := by
  rw [EStateM.run] at failed
  simp [EStateM.run, tryCatch, tryCatchThe, MonadExceptOf.tryCatch, EStateM.tryCatch,
    EStateM.Backtrackable.restore, EStateM.dummyRestore, failed]

section Span

variable (name : String) (stage : Option String)

/-- A span around work that comes to its end is ended, with nothing done to it. -/
theorem run_inSpan_ok
    (done : work.run { o with
      tracer := o.tracer.start name (o.compilation.spanAttributes name stage) } = .ok a p) :
    (inSpan name stage work).run o =
      .ok a { p with tracer := p.tracer.finish o.tracer.size o.tracer.current } := by
  rw [Compilation.spanAttributes] at done
  simp [inSpan, run_tryCatch_ok done, -bind_pure_comp]

/-- A fault that stops work within a span is recorded on the span, and goes on after its end. -/
theorem run_inSpan_error
    (failed : work.run { o with
      tracer := o.tracer.start name (o.compilation.spanAttributes name stage) } = .error fault p) :
    (inSpan name stage work).run o = .error fault
      { p with
        tracer := (p.tracer.call o.tracer.size (Span.faultCalls fault.category fault.message)).finish
          o.tracer.size o.tracer.current } := by
  rw [Compilation.spanAttributes] at failed
  simp [inSpan, run_tryCatch_error failed]

end Span

/-- Work that leaves the tracer and the counters alone: all it does is to take the compilation further
and to log entries, until it comes to its outcome. -/
def Yields (work : Work α) (c next : Compilation) (logged : List LogEntry) (outcome : Except Fault α) :
    Prop :=
  ∀ o : Observation, o.compilation = c →
    work.run o =
      match outcome with
      | .ok a => .ok a { o with compilation := next, entries := o.entries ++ logged }
      | .error fault => .error fault { o with compilation := next, entries := o.entries ++ logged }

variable {c next : Compilation} {logged : List LogEntry} {stage : Stage}

theorem run_inStage_ok (yields : work.Yields c next logged (.ok a)) (at_c : o.compilation = c) :
    (inStage stage work).run o = .ok a
      { compilation := next
        tracer := o.tracer.attempt c [] stage
        entries := o.entries ++ logged
        counts := o.counts ++ [.stageTimed stage] } := by
  subst at_c
  have done := run_inSpan_ok ("compile_" ++ stage.name) (some stage.name)
    (yields { o with tracer := _ } rfl)
  rw [inStage, EStateM.run_bind, done]
  simp [Tracer.attempt, -bind_pure_comp]

theorem run_inStage_error (yields : work.Yields c next logged (.error fault))
    (at_c : o.compilation = c) :
    (inStage stage work).run o = .error fault
      { compilation := next
        tracer := o.tracer.attempt c (Span.faultCalls fault.category fault.message) stage
        entries := o.entries ++ logged
        counts := o.counts } := by
  subst at_c
  have failed := run_inSpan_error ("compile_" ++ stage.name) (some stage.name)
    (yields { o with tracer := _ } rfl)
  rw [inStage, EStateM.run_bind, failed]
  rfl

end Work

end BucketPlan
