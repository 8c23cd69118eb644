import BucketPlan.Proofs.Course
import BucketPlan.Proofs.Mismatches

namespace BucketPlan

namespace Log

/-- A log that speaks for a description: it holds no error, and strictly no violation at all. -/
def IsAcceptable (log : Log) (strict : Bool) : Prop :=
  if strict then log = [] else ∀ v ∈ log, v.isError = false

theorem rejects_eq_false_iff {log : Log} {strict : Bool} :
    log.rejects strict = false ↔ log.IsAcceptable strict := by
  cases strict with
  | false => simp [rejects, hasErrors, IsAcceptable]
  | true => simp [rejects, IsAcceptable]

theorem rejects_eq_true_iff {log : Log} {strict : Bool} :
    log.rejects strict = true ↔ ¬log.IsAcceptable strict := by
  rw [← rejects_eq_false_iff, Bool.not_eq_false]

theorem isAcceptable_perm {log other : Log} (perm : log.Perm other) {strict : Bool} :
    log.IsAcceptable strict ↔ other.IsAcceptable strict := by
  cases strict with
  | false =>
    simp only [IsAcceptable, Bool.false_eq_true, if_false]
    exact ⟨fun all v member => all v (perm.mem_iff.mpr member),
      fun all v member => all v (perm.mem_iff.mp member)⟩
  | true =>
    simp only [IsAcceptable, if_true]
    exact ⟨fun empty => (empty ▸ perm).nil_eq.symm, fun empty => (empty ▸ perm).eq_nil⟩

end Log

/-- Whatever of a value has not the form of a description turns it down, strictly or not. -/
theorem Descriptor.rejects_mismatches {value : Value} (mismatched : mismatches value ≠ [])
    (strict : Bool) : (mismatches value).rejects strict = true := by
  obtain ⟨v, member⟩ := List.exists_mem_of_ne_nil _ mismatched
  exact Log.rejects_of_hasErrors strict
    (List.any_eq_true.mpr ⟨v, member, (isMismatch_of_mem member).isError⟩)

/-- A result that agrees with its compilation: all that was reported is in it, and the verdict is the
one that its own violations give. -/
structure Result.AgreesWith (result : Result) (c : Compilation) : Prop where
  complete : result.violations.Perm (c.log ++ c.log.reports c.descriptor.allFindings ++
    if .compiling ∈ result.states then c.checked.reports (c.descriptor.resolve.ruleFindings c.options)
    else [])
  planned : result.state = .bundled ↔ result.plan.isSome = true
  accepted : result.state = .bundled ↔ Log.IsAcceptable result.violations c.options.strict
  states : result.states ∈ [[.received, .validating, .rejected],
    [.received, .validating, .defaulting, .compiling, .rejected],
    [.received, .validating, .defaulting, .compiling, .bundled]]
  final : result.states.getLast? = some result.state
  stopped : result.states = [.received, .validating, .rejected] ↔
    ¬Log.IsAcceptable (c.log ++ c.log.reports c.descriptor.allFindings) c.options.strict

namespace Compilation

variable {c : Compilation} {log : Log} {plan : Option Plan} {states : List State}

theorem checked_eq (c : Compilation) :
    c.checked = c.log ++ c.log.reports c.descriptor.allFindings :=
  c.log.record_eq_append _

theorem planned_eq (c : Compilation) :
    c.planned = c.log ++ c.log.reports c.descriptor.allFindings ++
      c.checked.reports (c.descriptor.resolve.ruleFindings c.options) := by
  rw [planned, Log.record_eq_append, checked_eq]

/-- The log that a compilation ends with decides over its plan, whichever of the two verdicts along
the way was the last. -/
theorem Course.isSome_plan (course : c.Course log plan states) :
    plan.isSome = true ↔ log.IsAcceptable c.options.strict := by
  rw [← Log.rejects_eq_false_iff]
  cases course with
  | turnedDown rejected => simp [rejected]
  | unplannable passed rejected => simp [rejected]
  | complete passed accepted => simp [accepted]

theorem Course.stopped_iff (course : c.Course log plan states) :
    states = [.received, .validating, .rejected] ↔ ¬c.checked.IsAcceptable c.options.strict := by
  rw [← Log.rejects_eq_true_iff]
  cases course with
  | turnedDown rejected => simp [rejected]
  | unplannable passed rejected => simp [passed]
  | complete passed accepted => simp [passed]

theorem Course.log_eq (course : c.Course log plan states) :
    log = c.log ++ c.log.reports c.descriptor.allFindings ++
      if .compiling ∈ states then c.checked.reports (c.descriptor.resolve.ruleFindings c.options)
      else [] := by
  cases course with
  | turnedDown rejected => simp [checked_eq]
  | unplannable passed rejected => simp [planned_eq]
  | complete passed accepted => simp [planned_eq]

theorem Course.agrees (course : c.Course log plan states) {violations : List Violation}
    (perm : violations.Perm log) : (c.verdict plan states violations).AgreesWith c := by
  refine ⟨course.log_eq ▸ perm, verdict_bundled, ?_, ?_, ?_, ?_⟩
  · rw [verdict_bundled, course.isSome_plan]
    exact (Log.isAcceptable_perm perm).symm
  · cases course <;> simp [verdict]
  · cases course <;> rfl
  · rw [← checked_eq]
    exact course.stopped_iff

/-- Verdict and report agree in every result that a run returns. -/
theorem run_agrees (fresh : c.IsFresh) {result : Result} (returned : c.run.outcome = .ok result) :
    result.AgreesWith c := by
  obtain ⟨log, plan, states, course, _, rfl⟩ := course_of_returned fresh returned
  exact course.agrees (List.mergeSort_perm _ _)

end Compilation

/-- Whatever is compiled, the result agrees with its compilation, and a value that has not the form
of a description never gets as far as the defaults. -/
theorem compile_agrees {value : Value} {options : Options} {result : Result}
    (returned : (compile value options).outcome = .ok result) :
    result.AgreesWith (.ofValue value options) ∧
      (Descriptor.mismatches value ≠ [] → result.states = [.received, .validating, .rejected]) := by
  have agrees := Compilation.run_agrees ⟨rfl, rfl⟩ returned
  refine ⟨agrees, fun mismatched => agrees.stopped.mpr ?_⟩
  have rejected := Descriptor.rejects_mismatches mismatched options.strict
  rw [← Log.record_eq_append, ← Log.rejects_eq_true_iff, Log.rejects_record]
  exact Bool.or_eq_true_iff.mpr (Or.inl rejected)

/-- A bucket with an unusual name, which is a warning, and a number for a truth value, which is an
error. -/
def mistypedSite : Value :=
  .record [("name", .str "Site"), ("versioning_enabled", .int 1)]

theorem compile_mistypedSite_agrees :
    ∃ result, (compile mistypedSite).outcome = .ok result ∧
      result.AgreesWith (.ofValue mistypedSite {}) ∧
      result.states = [.received, .validating, .rejected] := by
  have returns : (compile mistypedSite).outcome.isOk = true := by decide +kernel
  have mismatched : Descriptor.mismatches mistypedSite ≠ [] := by decide +kernel
  cases outcome : (compile mistypedSite).outcome with
  | error fault =>
    rw [outcome] at returns
    cases returns
  | ok result =>
    obtain ⟨agrees, stopped⟩ := compile_agrees outcome
    exact ⟨result, rfl, agrees, stopped mismatched⟩

end BucketPlan
