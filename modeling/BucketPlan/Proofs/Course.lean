import BucketPlan.Proofs.Planning
import BucketPlan.Proofs.Report

namespace BucketPlan

namespace Compilation

variable {c : Compilation}

@[simp]
theorem enter_history (c : Compilation) (target : State) :
    (c.enter target).history = c.history ++ [target] := rfl

@[simp]
theorem report_history (c : Compilation) (findings : List Finding) :
    (c.report findings).history = c.history := rfl

/-- A compilation that has not been moved yet. -/
def IsFresh (c : Compilation) : Prop :=
  c.state = .received ∧ c.past = []

theorem isFresh_ofValue (value : Value) (options : Options) (order : FieldOrder := {}) :
    (ofValue value options order).IsFresh :=
  ⟨rfl, rfl⟩

/-- The log once the description is checked. -/
def checked (c : Compilation) : Log :=
  c.log.record c.descriptor.allFindings

/-- The log once the rules are planned as well. -/
def planned (c : Compilation) : Log :=
  c.checked.record (c.descriptor.resolve.ruleFindings c.options)

/-- The three courses of a compilation: the log that it ends with, its plan, and its states. -/
inductive Course (c : Compilation) : Log → Option Plan → List State → Prop
  | turnedDown (rejected : c.checked.rejects c.options.strict = true) :
      Course c c.checked none [.received, .validating, .rejected]
  | unplannable (passed : c.checked.rejects c.options.strict = false)
      (rejected : c.planned.rejects c.options.strict = true) :
      Course c c.planned none [.received, .validating, .defaulting, .compiling, .rejected]
  | complete {replication : Option ReplicationPlan} {plan : Plan}
      (passed : c.checked.rejects c.options.strict = false)
      (accepted : c.planned.rejects c.options.strict = false)
      (replicated : c.descriptor.resolve.replicationPlan = .ok replication)
      (made : c.descriptor.resolve.plan (c.descriptor.resolve.rulePlans replication) = .ok plan) :
      Course c c.planned (some plan) [.received, .validating, .defaulting, .compiling, .bundled]

/-- What a compilation comes to with a plan, or without one, once its log is in order. -/
def verdict (c : Compilation) (plan : Option Plan) (states : List State)
    (violations : List Violation) : Result where
  bucketName := c.bucketName
  state := if plan.isSome then .bundled else .rejected
  plan := plan
  violations := violations
  states := states

theorem passes_of_not_rejects (passed : c.checked.rejects c.options.strict = false) :
    Passes c.descriptor.allFindings :=
  ((Log.hasErrors_record_eq_false _ _).mp (Log.hasErrors_of_not_rejects passed)).2

/-- A plan is made of a description that passes its checks, after the replication is planned. -/
theorem Course.made {log : Log} {plan : Plan} {states : List State}
    (course : c.Course log (some plan) states) :
    Passes c.descriptor.allFindings ∧ ∃ replication,
      c.descriptor.resolve.replicationPlan = .ok replication ∧
      c.descriptor.resolve.plan (c.descriptor.resolve.rulePlans replication) = .ok plan := by
  cases course with
  | complete passed _ replicated made =>
    exact ⟨passes_of_not_rejects passed, _, replicated, made⟩

/-- What is logged when a run has come to its final state: the verdict, or that its log could not be
put in order. -/
def closingEntry (c : Compilation) (stage : Stage) : Except Fault (List Violation) → LogEntry
  | .error fault => c.failureEntry fault
  | .ok violations =>
    if c.state = .bundled then
      c.event .info stage.name "bundled" "CompileSucceeded" s!"Compiled bucket {c.bucketText}"
        [("warnings", .int violations.length)]
    else
      c.event .warning stage.name "rejected" "CompileRejected"
        s!"Bucket {c.bucketText} rejected with {violations.length} violation(s)"
        [("violations", plain (violations.map Violation.path))]

/-- A run that ends in a final state, where only the order of its log is left to fail. -/
def conclude (c : Compilation) (final : State) (plan : Option Plan) (stage : Stage)
    (stages : List Stage) (entries : List LogEntry) : Run where
  after := c.enter final
  outcome := c.log.sorted.map (c.verdict plan (c.history ++ [final]))
  stages := stages
  interrupted := false
  entries := entries ++ [(c.enter final).closingEntry stage c.log.sorted]

theorem reject_eq (c : Compilation) (stage : Stage) (stages : List Stage)
    (entries : List LogEntry) :
    c.reject stage stages entries = c.conclude .rejected none stage stages entries := by
  unfold reject conclude
  dsimp only
  split
  · rename_i fault unordered
    have failed : c.log.sorted = .error fault := unordered
    rw [failed]
    rfl
  · rename_i violations ordered
    have done : c.log.sorted = .ok violations := ordered
    rw [done]
    rfl

theorem finish_of_rejected (rejected : c.isRejected = true) (resolved : Descriptor) (rules : RulePlans)
    (stages : List Stage) (entries : List LogEntry) :
    c.finish resolved rules stages entries = c.reject .tiering stages entries :=
  if_pos rejected

theorem finish_eq {resolved : Descriptor} {rules : RulePlans} {plan : Plan}
    (accepted : c.isRejected = false) (made : resolved.plan rules = .ok plan) (stages : List Stage)
    (entries : List LogEntry) :
    c.finish resolved rules stages entries =
      c.conclude .bundled (some plan) .tiering stages entries := by
  unfold finish conclude
  rw [if_neg (by simp [accepted]), made]
  dsimp only
  split
  · rename_i fault unordered
    have failed : c.log.sorted = .error fault := unordered
    rw [failed]
    rfl
  · rename_i violations ordered
    have done : c.log.sorted = .ok violations := ordered
    rw [done]
    rfl

/-- A compilation that has been through the checks. -/
def afterChecks (c : Compilation) : Compilation :=
  (c.enter .validating).report c.descriptor.allFindings

/-- A compilation whose rules are planned. -/
def afterRules (c : Compilation) : Compilation :=
  ((c.afterChecks.enter .defaulting).enter .compiling).report
    (c.descriptor.resolve.ruleFindings c.options)

theorem run_eq (fresh : c.IsFresh) :
    c.run = if c.afterChecks.isRejected then c.afterChecks.reject .validate [.validate] [c.startEntry]
      else ((c.afterChecks.enter .defaulting).enter .compiling).planRules c.descriptor.resolve
        [c.startEntry] := by
  have moved : c.advance .validating = .ok (c.enter .validating) := by
    simp [advance, fresh.1, State.next]
  simp only [run, moved]
  rfl

theorem planRules_eq {replication : Option ReplicationPlan}
    (replicated : c.descriptor.resolve.replicationPlan = .ok replication) (entries : List LogEntry) :
    ((c.afterChecks.enter .defaulting).enter .compiling).planRules c.descriptor.resolve entries =
      c.afterRules.finish c.descriptor.resolve (c.descriptor.resolve.rulePlans replication)
        [.validate, .defaults, .lifecycle, .replication, .notification, .inventory, .tiering]
        (entries ++ c.descriptor.resolve.remarks) := by
  simp only [planRules, replicated, afterRules, report, Descriptor.ruleFindings_eq, Log.record_append]
  rfl

/-- The stages of a course: the checks, and all others unless the checks turn the description down. -/
def stagesOf (states : List State) : List Stage :=
  .validate :: if .defaulting ∈ states then .defaults :: Stage.planning else []

/-- The stage that a course ends in. -/
def lastStage (states : List State) : Stage :=
  if .defaulting ∈ states then .tiering else .validate

/-- The remarks made along a course. -/
def remarksOf (c : Compilation) (states : List State) : List LogEntry :=
  if .defaulting ∈ states then c.descriptor.resolve.remarks else []

/-- All that can be observed of a run that goes through certain states and comes to a plan or none. -/
structure Ends (c : Compilation) (run : Run) (plan : Option Plan) (states : List State) : Prop where
  descriptor : run.after.descriptor = c.descriptor
  history : run.after.history = states
  outcome : run.outcome = run.after.log.sorted.map (c.verdict plan states)
  stages : run.stages = stagesOf states
  finished : run.interrupted = false
  entries : run.entries = c.startEntry :: c.remarksOf states ++
    [run.after.closingEntry (lastStage states) run.after.log.sorted]

/-- Every run of a compilation takes one of the courses to its end, and only the order of its log is
left to fail. -/
theorem run_ends (fresh : c.IsFresh) :
    ∃ plan states, c.Course c.run.after.log plan states ∧ c.Ends c.run plan states := by
  have start : c.history = [.received] := by simp [history, fresh.1, fresh.2]
  have checked : c.afterChecks.history = [.received, .validating] := by
    simp [afterChecks, start]
  have planned : c.afterRules.history = [.received, .validating, .defaulting, .compiling] := by
    simp [afterRules, checked]
  rw [run_eq fresh]
  by_cases rejected : c.afterChecks.isRejected = true
  · rw [if_pos rejected, reject_eq]
    refine ⟨none, [.received, .validating, .rejected], .turnedDown rejected, ?_⟩
    exact ⟨rfl, by rw [conclude, enter_history, checked]; rfl, by rw [conclude, checked]; rfl, rfl, rfl,
      rfl⟩
  · rw [if_neg rejected]
    have passed : c.checked.rejects c.options.strict = false := Bool.eq_false_iff.mpr rejected
    have passes := passes_of_not_rejects passed
    obtain ⟨replication, replicated⟩ := Descriptor.replicationPlan_returns passes
    obtain ⟨plan, made⟩ := Descriptor.plan_returns passes (c.descriptor.resolve.rulePlans replication)
    rw [planRules_eq replicated]
    by_cases refused : c.afterRules.isRejected = true
    · rw [finish_of_rejected refused, reject_eq]
      refine ⟨none, [.received, .validating, .defaulting, .compiling, .rejected],
        .unplannable passed refused, ?_⟩
      exact ⟨rfl, by rw [conclude, enter_history, planned]; rfl, by rw [conclude, planned]; rfl, rfl,
        rfl, rfl⟩
    · have accepted : c.afterRules.isRejected = false := Bool.eq_false_iff.mpr refused
      rw [finish_eq accepted made]
      refine ⟨some plan, [.received, .validating, .defaulting, .compiling, .bundled],
        .complete passed accepted replicated made, ?_⟩
      exact ⟨rfl, by rw [conclude, enter_history, planned]; rfl, by rw [conclude, planned]; rfl, rfl,
        rfl, rfl⟩

theorem run_course (fresh : c.IsFresh) :
    ∃ plan states, c.Course c.run.after.log plan states ∧
      c.run.outcome = c.run.after.log.sorted.map (c.verdict plan states) := by
  obtain ⟨plan, states, course, ends⟩ := run_ends fresh
  exact ⟨plan, states, course, ends.outcome⟩

/-- What a run returns is the verdict of its course, on the violations of its log in their order. -/
theorem course_of_returned (fresh : c.IsFresh) {result : Result}
    (returned : c.run.outcome = .ok result) :
    ∃ log plan states, c.Course log plan states ∧ (∀ v ∈ log, v.IsPlaceable) ∧
      result = c.verdict plan states (log.mergeSort Violation.comesBefore) := by
  obtain ⟨plan, states, course, outcome⟩ := run_course fresh
  rw [outcome] at returned
  cases sorted : c.run.after.log.sorted with
  | error fault =>
    rw [sorted] at returned
    cases returned
  | ok violations =>
    rw [sorted] at returned
    cases returned
    exact ⟨_, plan, states, course, Log.sorted_returns_iff.mp ⟨violations, sorted⟩,
      by rw [Log.sorted_eq_mergeSort sorted]⟩

theorem verdict_bundled {plan : Option Plan} {states : List State} {violations : List Violation} :
    (c.verdict plan states violations).state = .bundled ↔ plan.isSome = true := by
  cases plan <;> simp [verdict]

/-- A compilation has one course. -/
theorem Course.unique {log other : Log} {plan plan' : Option Plan} {states states' : List State}
    (course : c.Course log plan states) (course' : c.Course other plan' states') :
    log = other ∧ plan = plan' ∧ states = states' := by
  cases course with
  | turnedDown rejected =>
    cases course' with
    | turnedDown => exact ⟨rfl, rfl, rfl⟩
    | unplannable passed | complete passed => cases rejected.symm.trans passed
  | unplannable passed rejected =>
    cases course' with
    | turnedDown rejected => cases rejected.symm.trans passed
    | unplannable => exact ⟨rfl, rfl, rfl⟩
    | complete _ accepted => cases rejected.symm.trans accepted
  | complete passed accepted replicated made =>
    cases course' with
    | turnedDown rejected => cases rejected.symm.trans passed
    | unplannable _ rejected => cases rejected.symm.trans accepted
    | complete _ _ replicated' made' =>
      cases replicated.symm.trans replicated'
      cases made.symm.trans made'
      exact ⟨rfl, rfl, rfl⟩

/-- The order in which sensitive fields are redacted has no part in the course. -/
theorem Course.reordered {order : FieldOrder} {log : Log} {plan : Option Plan} {states : List State}
    (course : ({ c with fieldOrder := order } : Compilation).Course log plan states) :
    c.Course log plan states := by
  cases course with
  | turnedDown rejected => exact .turnedDown rejected
  | unplannable passed rejected => exact .unplannable passed rejected
  | complete passed accepted replicated made => exact .complete passed accepted replicated made

end Compilation

/-- What is compiled comes to the same in whatever order the sensitive fields are redacted. -/
theorem compile_outcome_eq (value : Value) (options : Options) (order : FieldOrder) :
    (compile value options order).outcome = (compile value options).outcome := by
  obtain ⟨plan, states, course, outcome⟩ :=
    Compilation.run_course (Compilation.isFresh_ofValue value options order)
  obtain ⟨_, _, course', outcome'⟩ :=
    Compilation.run_course (Compilation.isFresh_ofValue value options)
  have reordered : (Compilation.ofValue value options).Course _ _ _ :=
    course.reordered
  obtain ⟨same, rfl, rfl⟩ := reordered.unique course'
  exact outcome.trans ((congrArg (fun log : Log => log.sorted.map _) same).trans outcome'.symm)

end BucketPlan
