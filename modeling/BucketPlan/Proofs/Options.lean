import BucketPlan.Proofs.Course
import BucketPlan.Proofs.Report
import BucketPlan.Proofs.Verdict

namespace BucketPlan

def Finding.isError (finding : Finding) : Bool :=
  finding.reported.isError

namespace Log

def errors (log : Log) : Log :=
  log.filter Violation.isError

theorem isAcceptable_iff_errors {log : Log} : log.IsAcceptable false ↔ log.errors = [] := by
  simp [IsAcceptable, errors]

theorem hasErrorAt_errors (log : Log) (path : String) :
    log.errors.hasErrorAt path = log.hasErrorAt path := by
  simp only [hasErrorAt, errors, List.any_filter, ← Bool.and_assoc, Bool.and_self]

theorem errors_settle (log : Log) (finding : Finding) :
    (log.settle finding).errors =
      if finding.isError then log.errors.settle finding else log.errors := by
  have added (v : Violation) : errors (log ++ [v]) =
      if v.isError then log.errors ++ [v] else log.errors := by
    by_cases error : v.isError = true
    · simp [errors, error]
    · simp [errors, error]
  cases finding with
  | violation v => exact added v
  | absence v =>
    rw [settle, settle, hasErrorAt_errors]
    by_cases known : log.hasErrorAt v.path = true
    · rw [if_pos known, if_pos known, ite_self]
    · rw [if_neg known, if_neg known]
      exact added v

/-- The errors of a log come from errors alone: no warning adds or hides one. -/
theorem errors_record (log : Log) (findings : List Finding) :
    (log.record findings).errors = log.errors.record (findings.filter Finding.isError) := by
  induction findings generalizing log with
  | nil => rfl
  | cons finding rest ih =>
    rw [record_cons, ih, errors_settle]
    by_cases error : finding.isError = true
    · rw [if_pos error, List.filter_cons_of_pos error, record_cons]
    · rw [if_neg error, List.filter_cons_of_neg error]

theorem errors_mergeSort (log : Log) :
    (log.mergeSort Violation.comesBefore).filter Violation.isError =
      log.errors.mergeSort Violation.comesBefore :=
  mergeSort_filter Violation.comesBefore_trans Violation.comesBefore_total log Violation.isError

theorem mergeSort_eq_nil {log : Log} : log.mergeSort Violation.comesBefore = [] ↔ log = [] := by
  rw [← List.length_eq_zero_iff, List.length_mergeSort, List.length_eq_zero_iff]

end Log

/-- Filters that together are longer than any key are a warning, and no error. -/
theorem Subscription.errors_findings (s : Subscription) (scope : Scope) (field : String) (m n : Int) :
    (s.findings scope field m).filter Finding.isError =
      (s.findings scope field n).filter Finding.isError := by
  have warned (long : Prop) [Decidable long] (message : String) :
      (if long then scope.warning field .outOfRange message else []).filter Finding.isError = [] := by
    split <;> rfl
  simp only [findings, List.filter_append, warned]

theorem Notifications.errors_planFindings (notifications : Notifications) (m n : Int) :
    (notifications.planFindings m).filter Finding.isError =
      (notifications.planFindings n).filter Finding.isError := by
  simp only [planFindings, destinationFindings, List.filter_append, List.filter_flatMap,
    Subscription.errors_findings _ _ _ m n]

theorem Descriptor.errors_ruleFindings (d : Descriptor) (options other : Options) :
    (d.ruleFindings options).filter Finding.isError =
      (d.ruleFindings other).filter Finding.isError := by
  simp only [ruleFindings, Stage.planning, List.flatMap_cons, List.flatMap_nil, planFindings,
    List.filter_append, List.filter_flatMap,
    Notifications.errors_planFindings _ options.maxKeyLength other.maxKeyLength]

namespace Compilation

/-- The same compilation with other options. -/
def under (c : Compilation) (options : Options) : Compilation :=
  { c with options := options }

variable {c : Compilation} {options other : Options} {log log' : Log} {plan plan' : Option Plan}
  {states states' : List State}

/-- Options have no say in what a plan looks like, only in whether there is one. -/
theorem Course.plan_eq (course : (c.under options).Course log plan states)
    (course' : (c.under other).Course log' plan' states') (both : plan.isSome = plan'.isSome) :
    plan = plan' := by
  cases plan with
  | none =>
    cases plan' with
    | none => rfl
    | some => cases both
  | some p =>
    cases plan' with
    | none => cases both
    | some q =>
      obtain ⟨_, replication, replicated, made⟩ := course.made
      obtain ⟨_, replication', replicated', made'⟩ := course'.made
      cases replicated.symm.trans replicated'
      cases made.symm.trans made'
      rfl

/-- A course ends with the log of the checks when that turns the description down, and otherwise
with the log of the rules. -/
theorem Course.log_eq_ite (course : c.Course log plan states) :
    log = if c.checked.rejects c.options.strict then c.checked else c.planned := by
  cases course with
  | turnedDown rejected => rw [if_pos rejected]
  | unplannable passed => rw [if_neg (by simp [passed])]
  | complete passed => rw [if_neg (by simp [passed])]

/-- Where warnings are let pass, the longest key there may be has no influence on the errors. -/
theorem Course.errors_eq {m n : Int} (course : (c.under ⟨false, m⟩).Course log plan states)
    (course' : (c.under ⟨false, n⟩).Course log' plan' states') : log.errors = log'.errors := by
  have planned : (c.under ⟨false, m⟩).planned.errors = (c.under ⟨false, n⟩).planned.errors := by
    rw [Compilation.planned, Log.errors_record,
      Descriptor.errors_ruleFindings _ _ (c.under ⟨false, n⟩).options]
    exact (Log.errors_record _ _).symm
  have ended : log' = if c.checked.rejects false then c.checked
      else (c.under ⟨false, n⟩).planned := course'.log_eq_ite
  have begun : log = if c.checked.rejects false then c.checked
      else (c.under ⟨false, m⟩).planned := course.log_eq_ite
  rw [begun, ended]
  split
  · rfl
  · exact planned

/-- A strict run may stop earlier, but what it reports is how the report of a lenient run begins, and
where it has nothing to report, neither has the lenient run. -/
theorem Course.strict_isPrefix {m : Int} (course : (c.under ⟨true, m⟩).Course log plan states)
    (course' : (c.under ⟨false, m⟩).Course log' plan' states') :
    log <+: log' ∧ (log = [] → log' = []) := by
  let planned : Log := (c.under ⟨false, m⟩).planned
  have further : c.checked <+: planned := ⟨_, (Log.record_eq_append c.checked _).symm⟩
  have strict : log = if c.checked.rejects true then c.checked else planned := course.log_eq_ite
  have lenient : log' = if c.checked.rejects false then c.checked else planned :=
    course'.log_eq_ite
  by_cases turnedDown : c.checked.rejects true = true
  · rw [if_pos turnedDown] at strict
    rw [strict, lenient]
    refine ⟨by split; exacts [List.prefix_rfl, further], fun empty => ?_⟩
    rw [empty] at turnedDown
    cases turnedDown
  · -- what the strict run lets pass, the lenient run lets pass as well
    have passed : ¬c.checked.rejects false = true :=
      fun errors => turnedDown (Log.rejects_of_hasErrors true errors)
    rw [if_neg turnedDown] at strict
    rw [if_neg passed] at lenient
    rw [strict, lenient]
    exact ⟨List.prefix_rfl, id⟩

theorem Course.plan_eq_of_lenient {m n : Int} (course : (c.under ⟨false, m⟩).Course log plan states)
    (course' : (c.under ⟨false, n⟩).Course log' plan' states') : plan = plan' := by
  have planned : plan.isSome = true ↔ log.errors = [] :=
    course.isSome_plan.trans Log.isAcceptable_iff_errors
  have planned' : plan'.isSome = true ↔ log'.errors = [] :=
    course'.isSome_plan.trans Log.isAcceptable_iff_errors
  rw [← course.errors_eq course'] at planned'
  exact course.plan_eq course' (Bool.eq_iff_iff.mpr (planned.trans planned'.symm))

/-- A strict run has a plan exactly when a lenient one has it and reports nothing. -/
theorem Course.isSome_strict_iff {m : Int} (course : (c.under ⟨true, m⟩).Course log plan states)
    (course' : (c.under ⟨false, m⟩).Course log' plan' states') :
    plan.isSome = true ↔ plan'.isSome = true ∧ log' = [] := by
  obtain ⟨begins, empty⟩ := course.strict_isPrefix course'
  have planned : plan.isSome = true ↔ log = [] := course.isSome_plan
  have planned' : plan'.isSome = true ↔ log'.errors = [] :=
    course'.isSome_plan.trans Log.isAcceptable_iff_errors
  rw [planned, planned']
  constructor
  · intro silent
    rw [empty silent]
    exact ⟨rfl, rfl⟩
  · intro silent
    rw [silent.2] at begins
    exact List.prefix_nil.mp begins

end Compilation

/-- Options only move the threshold of rejection. Where warnings are let pass, the longest key there
may be changes neither verdict nor plan nor errors; and a strict run has the plan of a lenient one
exactly when the latter reports nothing, and reports nothing that the latter does not. -/
theorem compile_options (value : Value) (m n : Int) :
    (∀ first second, (compile value ⟨false, m⟩).outcome = .ok first →
      (compile value ⟨false, n⟩).outcome = .ok second →
      first.state = second.state ∧ first.plan = second.plan ∧ first.errors = second.errors) ∧
    ∀ strict lenient, (compile value ⟨true, m⟩).outcome = .ok strict →
      (compile value ⟨false, m⟩).outcome = .ok lenient →
      (strict.state = .bundled ↔ lenient.state = .bundled ∧ lenient.violations = []) ∧
      (strict.state = .bundled → strict.plan = lenient.plan) ∧
      strict.violations.Sublist lenient.violations := by
  let c := Compilation.ofValue value {}
  constructor
  · intro first second returned returned'
    obtain ⟨log, plan, states, course, _, rfl⟩ := Compilation.course_of_returned ⟨rfl, rfl⟩ returned
    obtain ⟨log', plan', states', course', _, rfl⟩ := Compilation.course_of_returned ⟨rfl, rfl⟩ returned'
    have same : plan = plan' := Compilation.Course.plan_eq_of_lenient (c := c) course course'
    have errors : log.errors = log'.errors := Compilation.Course.errors_eq (c := c) course course'
    refine ⟨by rw [Compilation.verdict, Compilation.verdict, same], same, ?_⟩
    calc (log.mergeSort Violation.comesBefore).filter Violation.isError
        = log.errors.mergeSort Violation.comesBefore := Log.errors_mergeSort log
      _ = log'.errors.mergeSort Violation.comesBefore := by rw [errors]
      _ = (log'.mergeSort Violation.comesBefore).filter Violation.isError :=
          (Log.errors_mergeSort log').symm
  · intro strict lenient returned returned'
    obtain ⟨log, plan, states, course, _, rfl⟩ := Compilation.course_of_returned ⟨rfl, rfl⟩ returned
    obtain ⟨log', plan', states', course', _, rfl⟩ := Compilation.course_of_returned ⟨rfl, rfl⟩ returned'
    have bundled := Compilation.Course.isSome_strict_iff (c := c) course course'
    have begins := (Compilation.Course.strict_isPrefix (c := c) course course').1
    refine ⟨?_, ?_, mergeSort_sublist Violation.comesBefore_trans Violation.comesBefore_total
      begins.sublist⟩
    · rw [Compilation.verdict_bundled, Compilation.verdict_bundled, bundled]
      exact and_congr_right' Log.mergeSort_eq_nil.symm
    · intro accepted
      have planned := Compilation.verdict_bundled.mp accepted
      exact Compilation.Course.plan_eq (c := c) course course'
        (planned.trans (bundled.mp planned).1.symm)

/-- A bucket that tells a queue about new images, whose keys are longer than five characters. -/
def imageQueue : Value :=
  .record [("name", .str "site-images"), ("notifications", .record [("destinations", .record
    [("arn:aws:sqs:::images", .record [("events", .str "s3:ObjectCreated:*"),
      ("filter_prefix", .str "images/")])])])]

theorem compile_imageQueue_options :
    ∃ lenient longer strict, (compile imageQueue ⟨false, 5⟩).outcome = .ok lenient ∧
      (compile imageQueue ⟨false, 1024⟩).outcome = .ok longer ∧
      (compile imageQueue ⟨true, 5⟩).outcome = .ok strict ∧
      (lenient.state = longer.state ∧ lenient.plan = longer.plan ∧ lenient.errors = longer.errors) ∧
      (strict.state = .bundled ↔ lenient.state = .bundled ∧ lenient.violations = []) ∧
      (strict.state = .bundled → strict.plan = lenient.plan) ∧
      strict.violations.Sublist lenient.violations := by
  obtain ⟨lenient, returned⟩ := returns_of_isOk
    (show (compile imageQueue ⟨false, 5⟩).outcome.isOk = true by decide +kernel)
  obtain ⟨longer, returned'⟩ := returns_of_isOk
    (show (compile imageQueue ⟨false, 1024⟩).outcome.isOk = true by decide +kernel)
  obtain ⟨strict, refused⟩ := returns_of_isOk
    (show (compile imageQueue ⟨true, 5⟩).outcome.isOk = true by decide +kernel)
  obtain ⟨moved, compared⟩ := compile_options imageQueue 5 1024
  exact ⟨lenient, longer, strict, returned, returned', refused,
    moved lenient longer returned returned', compared strict lenient refused returned⟩

end BucketPlan
