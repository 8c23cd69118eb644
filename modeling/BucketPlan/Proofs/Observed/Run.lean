import BucketPlan.Proofs.Observed.Work
import BucketPlan.Proofs.Record

namespace BucketPlan

/-- The tracer when the stages of a run are over, the span of the whole being the only open one. -/
def Run.innerTracer (run : Run) (recording : Bool) : Tracer :=
  (if run.interrupted then run.stages.getLast?.toList else []).foldl
    (.attempt run.after (Span.callsOf run.rootSteps))
    (run.completed.foldl (.attempt run.after []) (.rooted recording run.after))

/-- The tracer when a run is over. -/
def Run.tracer (run : Run) (recording : Bool) : Tracer :=
  ((run.innerTracer recording).call 0 (Span.callsOf run.rootSteps)).finish 0 none

/-- What the stages of a run leave. A fault that has stopped them is not reported yet. -/
def Run.inside (run : Run) (recording : Bool) : EStateM.Result Fault Observation Result :=
  match run.outcome with
  | .ok result => .ok result
    { compilation := run.after
      tracer := run.innerTracer recording
      entries := run.entries
      counts := run.completed.map .stageTimed }
  | .error fault => .error fault
    { compilation := run.after
      tracer := run.innerTracer recording
      entries := run.entries.dropLast
      counts := run.completed.map .stageTimed }

namespace Tracer

variable {c : Compilation} {calls : List SpanCall}

/-- A span that is ended leaves the span current that was so at its start. -/
theorem current_foldl_attempt (tracer : Tracer) (stages : List Stage) :
    (stages.foldl (attempt c calls) tracer).current = tracer.current := by
  induction stages generalizing tracer with
  | nil => rfl
  | cons stage rest ih => rw [List.foldl_cons, ih]; rfl

theorem call_call (tracer : Tracer) (span : Nat) (first second : List SpanCall) :
    (tracer.call span first).call span second = tracer.call span (first ++ second) := by
  cases recording : tracer.recording <;> simp [call, recording]

theorem callCurrent_eq {tracer : Tracer} {span : Nat} (current : tracer.current = some span)
    (call : SpanCall) : tracer.callCurrent call = tracer.call span [call] := by
  rw [callCurrent, current]

end Tracer

theorem Run.current_innerTracer (run : Run) (recording : Bool) :
    (run.innerTracer recording).current = some 0 := by
  rw [innerTracer, Tracer.current_foldl_attempt, Tracer.current_foldl_attempt]
  rfl

/-- A fault that has stopped the run is the last thing that is logged of it. -/
def Run.IsReported (run : Run) : Prop :=
  ∀ fault, run.outcome = .error fault →
    run.entries = run.entries.dropLast ++ [run.after.failureEntry fault]

namespace Compilation

variable {c : Compilation}

theorem isReported_fail {stages : List Stage} {interrupted : Bool} {entries : List LogEntry}
    {fault : Fault} : (c.fail stages interrupted entries fault).IsReported := by
  rintro _ ⟨⟩
  simp [fail]

theorem isReported_reject (c : Compilation) (stage : Stage) (stages : List Stage)
    (entries : List LogEntry) : (c.reject stage stages entries).IsReported := by
  unfold reject
  dsimp only
  split
  · exact isReported_fail
  · exact nofun

theorem isReported_finish (c : Compilation) (resolved : Descriptor) (rules : RulePlans)
    (stages : List Stage) (entries : List LogEntry) :
    (c.finish resolved rules stages entries).IsReported := by
  unfold finish
  dsimp only
  split
  · exact isReported_reject _ _ _ _
  · split
    · exact isReported_fail
    · split
      · exact isReported_fail
      · exact nofun

theorem isReported_run (c : Compilation) : c.run.IsReported := by
  unfold run planRules
  dsimp only
  split
  · exact isReported_fail
  · split
    · exact isReported_reject _ _ _ _
    · split
      · exact isReported_fail
      · exact isReported_finish _ _ _ _ _

end Compilation

/-- What can be observed when a run is over. -/
def Run.observation (run : Run) (recording : Bool) : Observation where
  compilation := run.after
  tracer := run.tracer recording
  entries := run.entries
  counts := run.counts

/-- A compilation that has been through certain stages and has logged certain entries. -/
def Observation.through (recording : Bool) (c : Compilation) (stages : List Stage)
    (entries : List LogEntry) : Observation where
  compilation := c
  tracer := stages.foldl (.attempt c []) (.rooted recording c)
  entries := entries
  counts := stages.map .stageTimed

@[simp]
theorem Observation.compilation_through {recording : Bool} {c : Compilation} {stages : List Stage}
    {entries : List LogEntry} : (through recording c stages entries).compilation = c := rfl

namespace Work

open Observation

variable {α β : Type} {work : Work α} {a : α} {fault : Fault} {c next : Compilation} {recording : Bool}
  {stages : List Stage} {entries logged : List LogEntry} {stage : Stage}

theorem run_advance_through {target : State} (allowed : target ∈ c.state.next) :
    (advance target).run (through recording c stages entries) =
      .ok () (through recording (c.enter target) stages entries) :=
  run_advance allowed

theorem attempt_congr (same : next.descriptor = c.descriptor) (calls : List SpanCall) :
    Tracer.attempt next calls = Tracer.attempt c calls := by
  have name : next.bucketName = c.bucketName := congrArg Descriptor.name same
  funext tracer stage
  simp only [Tracer.attempt, Compilation.spanAttributes, name]

theorem rooted_congr (same : next.descriptor = c.descriptor) :
    Tracer.rooted recording next = Tracer.rooted recording c := by
  have name : next.bucketName = c.bucketName := congrArg Descriptor.name same
  simp only [Tracer.rooted, Compilation.spanAttributes, name]

theorem run_inStage_through (yields : work.Yields c next logged (.ok a))
    (same : next.descriptor = c.descriptor) :
    (inStage stage work).run (through recording c stages entries) =
      .ok a (through recording next (stages ++ [stage]) (entries ++ logged)) := by
  rw [run_inStage_ok yields rfl]
  simp only [through, List.foldl_append, List.foldl_cons, List.foldl_nil, List.map_append, List.map_cons,
    List.map_nil, attempt_congr same, rooted_congr same]

theorem yields_report (findings : List Finding) :
    (report findings).Yields c (c.report findings) [] (.ok ()) := by
  rintro o rfl
  simp

@[simp]
theorem run_ofExcept (outcome : Except Fault α) (o : Observation) :
    (MonadExcept.ofExcept outcome : Work α).run o =
      match outcome with
      | .ok a => .ok a o
      | .error fault => .error fault o := by
  cases outcome <;> rfl

theorem inside_of_ok {run : Run} {result : Result} (returned : run.outcome = .ok result)
    (finished : run.interrupted = false) :
    run.inside recording = .ok result (through recording run.after run.stages run.entries) := by
  simp [Run.inside, returned, Run.innerTracer, Run.completed, finished, through]

theorem inside_fail :
    (c.fail stages false entries fault).inside recording =
      .error fault (through recording c stages entries) := by
  simp [Run.inside, Compilation.fail, Run.innerTracer, Run.completed, through]

/-- Turning a compilation down comes to what its closed form says. -/
theorem run_reject (allowed : .rejected ∈ c.state.next) :
    (reject stage).run (through recording c stages entries) =
      (c.reject stage stages entries).inside recording := by
  rw [reject, EStateM.run_bind, run_advance_through allowed]
  simp only [EStateM.run_bind, run_compilation, run_ofExcept, run_log, EStateM.run_pure]
  cases sorted : (c.enter .rejected).log.sorted with
  | error fault =>
    have failed : c.reject stage stages entries = (c.enter .rejected).fail stages false entries fault := by
      simp only [Compilation.reject, sorted]
    rw [failed, inside_fail]
    simp only [through, sorted]
  | ok violations =>
    simp only [Compilation.reject, sorted]
    rw [inside_of_ok rfl rfl]
    simp only [through, sorted]

/-- So does the verdict of a compilation whose rules are planned. -/
theorem run_finish (planned : c.state = .compiling) (resolved : Descriptor) (rules : RulePlans) :
    (finish resolved rules).run (through recording c stages entries) =
      (c.finish resolved rules stages entries).inside recording := by
  have rejectable : .rejected ∈ c.state.next := by rw [planned]; decide
  have bundlable : .bundled ∈ c.state.next := by rw [planned]; decide
  rw [finish, EStateM.run_bind, run_compilation, Compilation.finish]
  by_cases refused : c.isRejected = true
  · have reached : (through recording c stages entries).compilation.isRejected = true := refused
    simp only [if_pos refused, if_pos reached]
    exact run_reject rejectable
  · have reached : ¬(through recording c stages entries).compilation.isRejected = true := refused
    simp only [if_neg refused, if_neg reached]
    rw [EStateM.run_bind, run_ofExcept]
    cases made : resolved.plan rules with
    | error fault => exact inside_fail.symm
    | ok plan =>
      simp only
      rw [EStateM.run_bind, run_advance_through bundlable]
      simp only [EStateM.run_bind, run_compilation, run_ofExcept, run_log, EStateM.run_pure]
      cases sorted : (c.enter .bundled).log.sorted with
      | error fault =>
        simp only [through, sorted]
        exact inside_fail.symm
      | ok violations =>
        simp only
        rw [inside_of_ok rfl rfl]
        simp only [through, sorted]

theorem run_inStage_then {rest : α → Work β} (yields : work.Yields c next logged (.ok a))
    (same : next.descriptor = c.descriptor) :
    (inStage stage work >>= rest).run (through recording c stages entries) =
      (rest a).run (through recording next (stages ++ [stage]) (entries ++ logged)) := by
  rw [EStateM.run_bind, run_inStage_through yields same]

theorem yields_remarked (findings : List Finding) (texts : List String) :
    (report findings >>= fun _ => remark texts).Yields c (c.report findings)
      (texts.map fun text => ⟨.debug, .remark text⟩) (.ok ()) := by
  rintro o rfl
  rfl

theorem yields_planned (findings : List Finding) (texts : List String) (outcome : Except Fault α) :
    (report findings >>= fun _ => remark texts >>= fun _ => MonadExcept.ofExcept outcome).Yields c
      (c.report findings) (texts.map fun text => ⟨.debug, .remark text⟩) outcome := by
  rintro o rfl
  cases outcome <;> rfl

theorem yields_resolved :
    (do return (← compilation).descriptor.resolve : Work Descriptor).Yields c c []
      (.ok c.descriptor.resolve) := by
  rintro o rfl
  simp [-bind_pure_comp]

theorem report_append (c : Compilation) (first second : List Finding) :
    c.report (first ++ second) = (c.report first).report second := by
  simp only [Compilation.report, Log.record_append]

theorem inside_interrupted (earlier : List Stage) :
    (c.fail (earlier ++ [stage]) true entries fault).inside recording = .error fault
      { compilation := c
        tracer := (earlier.foldl (Tracer.attempt c []) (Tracer.rooted recording c)).attempt c
          (Span.faultCalls fault.category fault.message) stage
        entries := entries
        counts := earlier.map .stageTimed } := by
  simp [Run.inside, Compilation.fail, Run.innerTracer, Run.completed, Run.rootSteps, Span.callsOf]

/-- So does the planning of the rules, in whichever stage a fault stops it. -/
theorem run_planRules (planning : c.state = .compiling) (resolved : Descriptor) :
    (planRules resolved).run (through recording c [.validate, .defaults] entries) =
      (c.planRules resolved entries).inside recording := by
  have remarks : resolved.remarks =
      (LifecyclePlan.remarks resolved.lifecycleRules).map (fun text => ⟨.debug, .remark text⟩) ++
      (resolved.replication.toList.flatMap Replication.remarks).map
        fun text => ⟨.debug, .remark text⟩ := by
    simp [Descriptor.remarks]
  have options : (through recording c [.validate, .defaults] entries).compilation.options = c.options :=
    rfl
  rw [planRules, EStateM.run_bind, run_compilation]
  simp only [options, Compilation.planRules, report_append]
  rw [run_inStage_then (yields_remarked _ _) rfl, remarks, ← List.append_assoc]
  cases replicated : resolved.replicationPlan with
  | error fault =>
    have stopped := yields_planned (c := c.report (resolved.planFindings c.options .lifecycle))
      (resolved.planFindings c.options .replication)
      (resolved.replication.toList.flatMap Replication.remarks)
      (.error fault : Except Fault (Option ReplicationPlan))
    rw [EStateM.run_bind, run_inStage_error stopped rfl]
    exact (inside_interrupted [.validate, .defaults, .lifecycle]).symm
  | ok replication =>
    rw [run_inStage_then (yields_planned _ _ (.ok replication)) rfl]
    rw [run_inStage_then (yields_report _) rfl]
    rw [run_inStage_then (yields_report _) rfl]
    rw [run_inStage_then (yields_report _) rfl]
    simp only [List.append_nil]
    exact run_finish (by exact planning) resolved _

/-- The stages of a compilation, from whatever state it is in, come to what its closed form says. -/
theorem run_stages (c : Compilation) (recording : Bool) :
    Work.stages.run (through recording c [] [c.startEntry]) = c.run.inside recording := by
  rw [Work.stages, Compilation.run]
  by_cases allowed : .validating ∈ c.state.next
  · simp only [Compilation.advance_eq allowed]
    let checked := (c.enter .validating).report (c.enter .validating).descriptor.allFindings
    rw [EStateM.run_bind, run_advance_through allowed]
    simp only
    rw [EStateM.run_bind, run_compilation]
    simp only [compilation_through]
    rw [run_inStage_then (yields_report _) rfl, EStateM.run_bind, run_compilation]
    simp only [compilation_through, List.nil_append, List.append_nil]
    change EStateM.run (if checked.isRejected = true then _ else _) (through recording checked _ _) =
      Run.inside (if checked.isRejected = true then _ else _) _
    have rejectable : .rejected ∈ checked.state.next := by
      change State.rejected ∈ State.validating.next
      decide
    have passable : .defaulting ∈ checked.state.next := by
      change State.defaulting ∈ State.validating.next
      decide
    have plannable : .compiling ∈ (checked.enter .defaulting).state.next := by
      change State.compiling ∈ State.defaulting.next
      decide
    by_cases refused : checked.isRejected = true
    · rw [if_pos refused, if_pos refused]
      exact run_reject rejectable
    · rw [if_neg refused, if_neg refused, EStateM.run_bind, run_advance_through passable]
      simp only
      rw [run_inStage_then yields_resolved rfl, EStateM.run_bind, run_advance_through plannable]
      exact run_planRules rfl _
  · have fault : c.advance .validating = .error (.illegalMove c.state.name State.validating.name) :=
      if_neg allowed
    simp only [fault]
    rw [inside_fail, EStateM.run_bind, advance, EStateM.run_bind, run_compilation]
    simp only [through, fault]
    rfl

/-- A verdict is put down on the span of the whole, as this is the current one again when the stages
are over. -/
theorem run_recordVerdict {o : Observation} {span : Nat} (current : o.tracer.current = some span)
    (result : Result) :
    (recordVerdict result).run o = .ok ()
      { o with tracer := o.tracer.call span (Span.callsOf (Run.verdictSteps result)) } := by
  have first (call : SpanCall) : o.tracer.callCurrent call = o.tracer.call span [call] :=
    Tracer.callCurrent_eq current call
  have later (calls : List SpanCall) (call : SpanCall) :
      (o.tracer.call span calls).callCurrent call = o.tracer.call span (calls ++ [call]) := by
    rw [Tracer.callCurrent_eq (by exact current), Tracer.call_call]
  simp [recordVerdict, first, later, Run.verdictSteps, Span.callsOf]

theorem run_settle_ok {result : Result} (returned : c.run.outcome = .ok result) :
    settle.run (through recording c [] [c.startEntry]) = .ok result
      { compilation := c.run.after
        tracer := (c.run.innerTracer recording).call 0 (Span.callsOf c.run.rootSteps)
        entries := c.run.entries
        counts := c.run.completed.map .stageTimed } := by
  have left := run_stages c recording
  rw [Run.inside, returned] at left
  have steps : c.run.rootSteps = Run.verdictSteps result := by rw [Run.rootSteps, returned]
  rw [settle, EStateM.run_bind, run_tryCatch_ok left]
  simp only
  rw [EStateM.run_bind, run_recordVerdict (c.run.current_innerTracer recording), steps]
  rfl

theorem run_settle_error (failed : c.run.outcome = .error fault) :
    settle.run (through recording c [] [c.startEntry]) = .error fault
      { compilation := c.run.after
        tracer := c.run.innerTracer recording
        entries := c.run.entries
        counts := c.run.counts } := by
  have left := run_stages c recording
  rw [Run.inside, failed] at left
  have reported := c.isReported_run fault failed
  have counted : c.run.counts =
      c.run.completed.map .stageTimed ++ [.failure fault.category c.run.after.state.name] := by
    rw [Run.counts, failed]
  rw [settle, EStateM.run_bind, run_tryCatch_error left, reported, counted]
  simp [reportFault]

/-- What a compilation does is what its closed form says that can be observed of it. -/
theorem run_compile (c : Compilation) (recording : Bool) :
    Work.compile.run { compilation := c, tracer := { recording } } =
      match c.run.outcome with
      | .ok result => .ok result (c.run.observation recording)
      | .error fault => .error fault (c.run.observation recording) := by
  rw [Work.compile, EStateM.run_bind, run_compilation]
  simp only
  rw [EStateM.run_bind, run_log]
  simp only
  rw [EStateM.run_bind]
  cases outcome : c.run.outcome with
  | ok result =>
    have counted : c.run.counts = c.run.completed.map .stageTimed ++ ([.timed, .compiled result.isOk] ++
        result.violations.map fun v => Series.violation v.code v.severity) := by
      rw [Run.counts, outcome]
    rw [run_inSpan_ok _ _ (run_settle_ok outcome), Run.observation, counted]
    rfl
  | error fault =>
    have steps : Span.callsOf c.run.rootSteps = Span.faultCalls fault.category fault.message := by
      rw [Run.rootSteps, outcome]
      rfl
    rw [run_inSpan_error _ _ (run_settle_error outcome), Run.observation, Run.tracer, steps]
    rfl

end Work

/-- Observing a compilation shows the run that its closed form describes. -/
theorem Compilation.observe_eq (c : Compilation) (recording : Bool) :
    c.observe recording = (c.run.outcome, c.run.observation recording) := by
  rw [observe, Work.run_compile]
  cases c.run.outcome <;> rfl

end BucketPlan
