import BucketPlan.Proofs.Course
import BucketPlan.Proofs.Mismatches

namespace BucketPlan

theorem Violation.IsTraced.name {names : String → Prop} {v : Violation} (traced : v.IsTraced names)
    {part : String} (inPath : part ∈ v.parts) (odd : IsOddNumber part) :
    ∃ name, names name ∧ part ∈ segments name := by
  simp only [parts, List.mem_append] at inPath
  rcases inPath with (inArea | inRule) | inField
  · exact traced.area part inArea odd
  · exact traced.rule part inRule odd
  · exact traced.field part inField odd

namespace Compilation

variable {c : Compilation}

/-- The log at the end of a run holds what it started with and what the checks and the planning of
the rules have to say. -/
theorem Course.forall_log {log : Log} {plan : Option Plan} {states : List State}
    (course : c.Course log plan states) {property : Violation → Prop} (start : ∀ v ∈ c.log, property v)
    (checks : ReportsOnly property c.descriptor.allFindings)
    (rules : ReportsOnly property (c.descriptor.resolve.ruleFindings c.options)) :
    ∀ v ∈ log, property v := by
  have checked := checks.record start
  have planned := rules.record checked
  cases course with
  | turnedDown => exact checked
  | unplannable => exact planned
  | complete => exact planned

/-- A run returns when its log can be sorted; there is nothing else that could stop it. -/
theorem run_returns_iff (fresh : c.IsFresh) :
    (∃ result, c.run.outcome = .ok result) ↔ ∀ v ∈ c.run.after.log, v.IsPlaceable := by
  obtain ⟨plan, states, _, outcome⟩ := run_course fresh
  rw [outcome, ← Log.sorted_returns_iff]
  cases c.run.after.log.sorted with
  | error fault => simp [Except.map]
  | ok violations => simp [Except.map]

theorem sorted_of_run_error (fresh : c.IsFresh) {fault : Fault}
    (failed : c.run.outcome = .error fault) : c.run.after.log.sorted = .error fault := by
  obtain ⟨plan, states, _, outcome⟩ := run_course fresh
  rw [outcome] at failed
  cases sorted : c.run.after.log.sorted with
  | error other =>
    rw [sorted] at failed
    cases failed
    rfl
  | ok violations =>
    rw [sorted] at failed
    cases failed

end Compilation

/-- The odd numbers in the log of a value all come from its own names. -/
theorem compile_traced (value : Value) (options : Options) :
    ∀ v ∈ (compile value options).after.log, v.IsTraced value.HasName := by
  obtain ⟨plan, states, course, _⟩ := Compilation.run_course (c := .ofValue value options) ⟨rfl, rfl⟩
  have named := Descriptor.isNamedBy_ofValue value
  exact course.forall_log (fun v member => (Descriptor.isMismatch_of_mem member).isTraced)
    named.traced_allFindings (named.resolve.traced_ruleFindings options)

/-- What is compiled gives a result exactly when every violation in its log has a position, as sorting
a log asks for in any case. Otherwise a name in the value itself has an odd number for a part. -/
theorem compile_returns_iff (value : Value) (options : Options) :
    (∀ log : Log, (∃ violations, log.sorted = .ok violations) ↔ ∀ v ∈ log, v.IsPlaceable) ∧
    ((∃ result, (compile value options).outcome = .ok result) ↔
      ∀ v ∈ (compile value options).after.log, v.IsPlaceable) ∧
    ∀ fault, (compile value options).outcome = .error fault →
      ∃ name part, value.HasName name ∧ part ∈ segments name ∧ IsOddNumber part ∧
        fault = .notDecimal part := by
  refine ⟨fun log => Log.sorted_returns_iff, Compilation.run_returns_iff ⟨rfl, rfl⟩, ?_⟩
  intro fault failed
  obtain ⟨v, inLog, part, inPath, same, odd⟩ :=
    Log.fault_of_sorted (Compilation.sorted_of_run_error ⟨rfl, rfl⟩ failed)
  obtain ⟨name, has, inName⟩ := (compile_traced value options v inLog).name inPath odd
  exact ⟨name, part, has, inName, odd, same⟩

/-- A tag with a superscript for its key, which is a digit but not a decimal one, and a number for its
value, which is reported. -/
def squareTag : Value :=
  .record [("name", .str "bucket-x"), ("tags", .record [("²", .int 5)])]

theorem compile_squareTag_fails :
    (compile squareTag).outcome = .error (.notDecimal "²") ∧
      ¬∃ result, (compile squareTag).outcome = .ok result := by
  have failed : (compile squareTag).outcome = .error (.notDecimal "²") := by rfl
  refine ⟨failed, ?_⟩
  intro returns
  obtain ⟨result, returned⟩ := returns
  cases failed.symm.trans returned

end BucketPlan
