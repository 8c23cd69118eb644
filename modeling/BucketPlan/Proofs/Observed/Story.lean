import BucketPlan.Proofs.Disclosure
import BucketPlan.Proofs.Observed.Spans

namespace BucketPlan

namespace Value

theorem lines_texts (texts : List String) :
    ∃ written, lines (texts.map Value.str) = .ok written := by
  induction texts with
  | nil => exact ⟨_, rfl⟩
  | cons text rest ih =>
    obtain ⟨written, done⟩ := ih
    rw [List.map_cons, lines, done]
    exact ⟨_, rfl⟩

/-- A record can be written on a line if its values can be. -/
theorem line_record {fields : List (String × Value)}
    (writable : ∀ field ∈ fields, ∃ written, field.2.line = .ok written) :
    ∃ written, (record fields).line = .ok written := by
  have entries : ∃ written, entryLines (fields.map fun field => (str field.1, field.2)) =
      .ok written := by
    induction fields with
    | nil => exact ⟨_, rfl⟩
    | cons field rest ih =>
      obtain ⟨first, done⟩ := writable field List.mem_cons_self
      obtain ⟨others, rested⟩ := ih fun f member => writable f (List.mem_cons_of_mem _ member)
      rw [List.map_cons, entryLines, keyLine, done, rested]
      exact ⟨_, rfl⟩
  obtain ⟨written, done⟩ := entries
  change ∃ written, (map (fields.map fun field => (str field.1, field.2))).line = .ok written
  rw [line, done]
  exact ⟨_, rfl⟩

end Value

/-- What an event has in one of its fields. -/
def LogEntry.field? (entry : LogEntry) (name : String) : Option Value :=
  match entry.body with
  | .event fields => fields.lookup name
  | .remark _ => none

/-- What is heard by a host that does not listen to remarks. -/
def Observation.heard (o : Observation) : List LogEntry :=
  o.entries.filter fun entry => entry.level.isHeard .info

/-- Spans, log and outcome of a compilation that tell one story. -/
structure Observation.TellsOf (o : Observation) (outcome : Except Fault Result) (root : Span)
    (stages : List Span) (opening closing : LogEntry) : Prop where
  spans : o.tracer.spans = root :: stages
  root_name : root.name = "compile_bucket"
  root_parent : root.parent = none
  stage_names : stages.map Span.name =
    if o.compilation.history = [.received, .validating, .rejected] then ["compile_validate"]
    else ["compile_validate", "compile_default", "compile_lifecycle", "compile_replication",
      "compile_notification", "compile_inventory", "compile_tiering"]
  within_root : ∀ stage ∈ stages, stage.parent = some root.name
  /-- The span of a stage takes nothing but its end. -/
  silent : ∀ stage ∈ stages, stage.calls = [.finished]
  heard : o.heard = [opening, closing]
  written : ∃ first last, LogEntry.texts o.entries .info = .ok [first, last]
  started : opening.field? "event" = some (.str "started")
  returned : ∀ result, outcome = .ok result →
    o.compilation.history = result.states ∧
    root.calls = [.attribute "compile.state" (.str result.state.name),
      .attribute "compile.violations" (.int result.violations.length),
      if result.state = .bundled then .status true none
      else .status false (some s!"{result.errors.length} error(s)"),
      .finished] ∧
    closing.field? "event" = some (.str (if result.state = .bundled then "bundled" else "rejected")) ∧
    (result.state ≠ .bundled →
      closing.field? "violations" = some (.list (result.violations.map fun v => .str v.path)))
  failed : ∀ fault, outcome = .error fault →
    o.tracer.Blames fault ∧
    root.calls = [.exception fault.category fault.message, .status false (some fault.message),
      .finished] ∧
    (∀ span ∈ o.tracer.spans, ∀ value, .attribute "compile.state" value ∉ span.calls) ∧
    closing.field? "event" = some (.str "error")

namespace Compilation

variable {c : Compilation} {stage : Stage}

/-- An event can be written on a line if its further fields can be. -/
theorem text_event {level : Level} {stage event reason message : String} {extra : List (String × Value)}
    (added : eventFields c.fieldOrder.names c.bucketName stage event reason message extra =
      eventFields c.fieldOrder.names c.bucketName stage event reason message [] ++ extra)
    (writable : ∀ field ∈ extra, ∃ written, field.2.line = .ok written) :
    ∃ written, (c.event level stage event reason message extra).text = .ok written := by
  have bucket : ∃ written, (plain c.bucketName : Value).line = .ok written := by
    cases c.bucketName <;> exact ⟨_, rfl⟩
  have standard : ∀ field ∈ eventFields c.fieldOrder.names c.bucketName stage event reason message [],
      ∃ written, field.2.line = .ok written := by
    simp [eventFields, Value.line, bucket]
  change ∃ written, (Value.record (eventFields c.fieldOrder.names c.bucketName stage event reason message extra)).line =
    .ok written
  refine Value.line_record fun field member => ?_
  rw [added] at member
  exact (List.mem_append.mp member).elim (standard field) (writable field)

theorem text_startEntry (c : Compilation) : ∃ written, c.startEntry.text = .ok written :=
  text_event (List.append_nil _).symm nofun

theorem startEntry_event (c : Compilation) : c.startEntry.field? "event" = some (.str "started") := rfl

theorem closingEntry_event (c : Compilation) (stage : Stage) (sorted : Except Fault (List Violation)) :
    (c.closingEntry stage sorted).field? "event" = some (.str (match sorted with
      | .error _ => "error"
      | .ok _ => if c.state = .bundled then "bundled" else "rejected")) := by
  cases sorted with
  | error fault => rfl
  | ok violations =>
    rw [closingEntry]
    split <;> rfl

theorem closingEntry_violations (refused : c.state ≠ .bundled) (violations : List Violation) :
    (c.closingEntry stage (.ok violations)).field? "violations" =
      some (.list (violations.map fun v => .str v.path)) := by
  have paths : (plain (violations.map Violation.path) : Value) =
      .list (violations.map fun v => .str v.path) := congrArg Value.list List.map_map
  rw [closingEntry, if_neg refused, ← paths]
  rfl

theorem text_closingEntry (c : Compilation) (stage : Stage) (sorted : Except Fault (List Violation)) :
    ∃ written, (c.closingEntry stage sorted).text = .ok written := by
  cases sorted with
  | error fault => exact text_event (List.append_nil _).symm nofun
  | ok violations =>
    rw [closingEntry]
    split
    · exact text_event (by simp [eventFields, putField]) (by simp [Value.line])
    · refine text_event (by simp [eventFields, putField]) fun field member => ?_
      rw [List.mem_singleton.mp member]
      obtain ⟨written, done⟩ := Value.lines_texts (violations.map Violation.path)
      have listed : (plain (violations.map Violation.path) : Value) =
          .list ((violations.map Violation.path).map Value.str) := rfl
      rw [listed, Value.line, done]
      exact ⟨_, rfl⟩

theorem isHeard_closingEntry (c : Compilation) (stage : Stage) (sorted : Except Fault (List Violation)) :
    (c.closingEntry stage sorted).level.isHeard .info = true := by
  cases sorted with
  | error fault => rfl
  | ok violations =>
    rw [closingEntry]
    split <;> rfl

/-- Remarks are not heard, so what is heard of a run is that it starts and how it ends. -/
theorem Ends.heard {run : Run} {plan : Option Plan} {states : List State} (ends : c.Ends run plan states) :
    run.entries.filter (fun entry => entry.level.isHeard .info) =
      [c.startEntry, run.after.closingEntry (lastStage states) run.after.log.sorted] := by
  have remarks : (c.remarksOf states).filter (fun entry => entry.level.isHeard .info) = [] := by
    refine List.filter_eq_nil_iff.mpr fun entry member => ?_
    rw [remarksOf] at member
    split at member
    · obtain ⟨text, _, rfl⟩ := List.mem_map.mp member
      exact Bool.false_ne_true
    · cases member
  have closing : [run.after.closingEntry (lastStage states) run.after.log.sorted].filter
      (fun entry => entry.level.isHeard .info) =
        [run.after.closingEntry (lastStage states) run.after.log.sorted] :=
    List.filter_eq_self.mpr fun entry member => by
      rw [List.mem_singleton.mp member]
      exact isHeard_closingEntry _ _ _
  rw [ends.entries, List.cons_append, List.filter_cons_of_pos (by rfl), List.filter_append, remarks,
    closing]
  rfl

/-- The state that a run is left in is the one that its course ends with. -/
theorem Ends.state_eq {run : Run} {plan : Option Plan} {states : List State}
    (course : c.Course run.after.log plan states) (ends : c.Ends run plan states) :
    run.after.state = if plan.isSome then .bundled else .rejected := by
  have last := run.after.getLast?_history
  rw [ends.history, course.getLast?_states] at last
  exact (Option.some.inj last).symm

theorem Ends.stage_names {run : Run} {plan : Option Plan} {states : List State} {log : Log}
    (course : c.Course log plan states) (ends : c.Ends run plan states) :
    run.completed.map (fun stage => "compile_" ++ stage.name) =
      if run.after.history = [.received, .validating, .rejected] then ["compile_validate"]
      else ["compile_validate", "compile_default", "compile_lifecycle", "compile_replication",
        "compile_notification", "compile_inventory", "compile_tiering"] := by
  rw [Run.completed, ends.finished, ends.stages, ends.history]
  cases course <;> decide

theorem Ends.heard_texts {run : Run} {plan : Option Plan} {states : List State}
    (ends : c.Ends run plan states) :
    ∃ first last, LogEntry.texts run.entries .info = .ok [first, last] := by
  obtain ⟨first, opened⟩ := text_startEntry c
  obtain ⟨last, closed⟩ := text_closingEntry run.after (lastStage states) run.after.log.sorted
  refine ⟨first, last, ?_⟩
  rw [LogEntry.texts, ends.heard, List.mapM_cons, List.mapM_cons, opened, closed]
  rfl

end Compilation

namespace Run

variable {run : Run}

theorem spans_of_finished (finished : run.interrupted = false) :
    run.spans true = run.rootSpan true :: run.completed.map fun stage => run.stageSpan true stage [] := by
  rw [spans, finished]
  exact List.append_nil _

theorem rootSpan_calls (run : Run) :
    (run.rootSpan true).calls = Span.callsOf run.rootSteps ++ [.finished] := rfl

theorem rootSpan_calls_returned {result : Result} (returned : run.outcome = .ok result) :
    (run.rootSpan true).calls = [.attribute "compile.state" (.str result.state.name),
      .attribute "compile.violations" (.int result.violations.length),
      if result.state = .bundled then .status true none
      else .status false (some s!"{result.errors.length} error(s)"),
      .finished] := by
  rw [rootSpan_calls, rootSteps, returned]
  by_cases bundled : result.state = .bundled
  · simp [verdictSteps, Span.callsOf, Span.statusCall, Result.isOk, bundled]
  · simp [verdictSteps, Span.callsOf, Span.statusCall, Result.isOk, bundled]

theorem rootSpan_calls_failed {fault : Fault} (failed : run.outcome = .error fault) :
    (run.rootSpan true).calls = [.exception fault.category fault.message,
      .status false (some fault.message), .finished] := by
  rw [rootSpan_calls, rootSteps, failed]
  rfl

end Run

namespace Compilation

variable {c : Compilation}

/-- A compilation that returns has put its result down on the span of the whole, and has logged it. -/
theorem Ends.tells_returned {plan : Option Plan} {states : List State} {result : Result}
    (course : c.Course c.run.after.log plan states) (ends : c.Ends c.run plan states)
    (returned : c.run.outcome = .ok result) :
    c.run.after.history = result.states ∧
      let closing := c.run.after.closingEntry (lastStage states) c.run.after.log.sorted
      closing.field? "event" = some (.str (if result.state = .bundled then "bundled" else "rejected")) ∧
        (result.state ≠ .bundled →
          closing.field? "violations" = some (.list (result.violations.map fun v => .str v.path))) := by
  rw [ends.outcome] at returned
  cases sorted : c.run.after.log.sorted with
  | error fault =>
    rw [sorted] at returned
    cases returned
  | ok violations =>
    rw [sorted] at returned
    cases returned
    have state : c.run.after.state = (c.verdict plan states violations).state := ends.state_eq course
    refine ⟨ends.history, ?_, fun refused => ?_⟩
    · rw [closingEntry_event, state]
    · exact closingEntry_violations (state ▸ refused) violations

/-- A compilation that fails has logged that, whatever its fault is. -/
theorem Ends.tells_failed {plan : Option Plan} {states : List State} {fault : Fault}
    (ends : c.Ends c.run plan states) (failed : c.run.outcome = .error fault) :
    (c.run.after.closingEntry (lastStage states) c.run.after.log.sorted).field? "event" =
      some (.str "error") := by
  rw [ends.outcome] at failed
  cases sorted : c.run.after.log.sorted with
  | error fault => rw [closingEntry_event]
  | ok violations =>
    rw [sorted] at failed
    cases failed

theorem observe_tells (fresh : c.IsFresh) : ∃ root stages opening closing,
    c.observe.2.TellsOf c.observe.1 root stages opening closing := by
  obtain ⟨plan, states, course, ends⟩ := run_ends fresh
  have spans : (c.run.tracer true).spans = _ :=
    (c.run.spans_tracer true).trans (Run.spans_of_finished ends.finished)
  have finished (stage : Stage) : (c.run.stageSpan true stage []).calls = [.finished] := rfl
  rw [observe_eq]
  refine ⟨_, _, _, _,
    { spans
      root_name := rfl
      root_parent := rfl
      stage_names := List.map_map.trans (ends.stage_names course)
      within_root := List.forall_mem_map.mpr fun _ _ => rfl
      silent := List.forall_mem_map.mpr fun _ _ => rfl
      heard := ends.heard
      written := ends.heard_texts
      started := c.startEntry_event
      returned := fun result returned => ?_
      failed := fun fault failed => ?_ }⟩
  · obtain ⟨history, closing⟩ := ends.tells_returned course returned
    exact ⟨history, Run.rootSpan_calls_returned returned, closing⟩
  · have calls := Run.rootSpan_calls_failed failed
    refine ⟨Run.tracer_blames failed ends.finished, calls, fun span member value => ?_,
      ends.tells_failed failed⟩
    replace member : span ∈ (c.run.tracer true).spans := member
    rw [spans] at member
    obtain rfl | stage := List.mem_cons.mp member
    · rw [calls]
      simp
    · obtain ⟨of, _, rfl⟩ := List.mem_map.mp stage
      rw [finished]
      simp

/-- The spans and the log of a compilation tell the story of its outcome. -/
theorem compile_observe_tells (value : Value) (options : Options) (order : FieldOrder) :
    let (outcome, observed) := (ofValue value options order).observe true
    outcome = (compile value options order).outcome ∧
      ∃ root stages opening closing, observed.TellsOf outcome root stages opening closing :=
  ⟨congrArg Prod.fst (observe_eq _ true), observe_tells (isFresh_ofValue value options order)⟩

end Compilation

end BucketPlan
