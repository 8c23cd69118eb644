import BucketPlan.Finding

namespace BucketPlan

namespace Log

/-- The violations that findings add to a log: every violation, and an absence unless an error
stands at its path by then. -/
def reports (log : Log) : List Finding → List Violation
  | [] => []
  | .violation v :: rest => v :: reports (log ++ [v]) rest
  | .absence v :: rest =>
    if log.hasErrorAt v.path then reports log rest else v :: reports (log ++ [v]) rest

@[simp]
theorem record_nil (log : Log) : log.record [] = log := rfl

@[simp]
theorem record_cons (log : Log) (finding : Finding) (rest : List Finding) :
    log.record (finding :: rest) = (log.settle finding).record rest := rfl

theorem record_append (log : Log) (first second : List Finding) :
    log.record (first ++ second) = (log.record first).record second :=
  List.foldl_append

/-- A log only grows: recording leaves what stands in it in its place. -/
theorem record_eq_append (log : Log) (findings : List Finding) :
    log.record findings = log ++ log.reports findings := by
  induction findings generalizing log with
  | nil => simp [reports]
  | cons finding rest ih =>
    rw [record_cons, ih]
    cases finding with
    | violation v => simp [settle, reports]
    | absence v =>
      by_cases known : log.hasErrorAt v.path
      · simp [settle, reports, known]
      · simp [settle, reports, known]

variable {log : Log} {findings : List Finding} {v : Violation}

theorem mem_record_of_mem (known : v ∈ log) : v ∈ log.record findings := by
  rw [record_eq_append]
  exact List.mem_append_left _ known

/-- A violation is reported, whatever is known at its path. -/
theorem mem_record_of_violation (found : .violation v ∈ findings) : v ∈ log.record findings := by
  induction findings generalizing log with
  | nil => cases found
  | cons finding rest ih =>
    rw [record_cons]
    rcases List.mem_cons.mp found with rfl | later
    · exact mem_record_of_mem (List.mem_append_right log (List.mem_singleton_self v))
    · exact ih later

/-- What is reported at the path of a known error is no absence. -/
theorem violation_of_mem_record (reported : v ∈ log.record findings)
    (known : log.hasErrorAt v.path = true) : v ∈ log ∨ .violation v ∈ findings := by
  induction findings generalizing log with
  | nil => exact Or.inl reported
  | cons finding rest ih =>
    have extended (w : Violation) : Log.hasErrorAt (log ++ [w]) v.path = true := by
      rw [hasErrorAt, List.any_append]
      exact Bool.or_eq_true_iff.mpr (Or.inl known)
    rw [record_cons] at reported
    cases finding with
    | violation w =>
      rcases ih reported (extended w) with early | later
      · rcases List.mem_append.mp early with old | new
        · exact Or.inl old
        · exact Or.inr (List.mem_singleton.mp new ▸ List.mem_cons_self)
      · exact Or.inr (List.mem_cons_of_mem _ later)
    | absence w =>
      by_cases hidden : log.hasErrorAt w.path
      · rw [settle, if_pos hidden] at reported
        exact (ih reported known).imp_right (List.mem_cons_of_mem _)
      · rw [settle, if_neg hidden] at reported
        rcases ih reported (extended w) with early | later
        · rcases List.mem_append.mp early with old | new
          · exact Or.inl old
          · -- An absence at the path of a known error would have been hidden.
            cases List.mem_singleton.mp new
            exact absurd known hidden
        · exact Or.inr (List.mem_cons_of_mem _ later)

theorem hasErrors_of_hasErrorAt {log : Log} {path : String} (found : log.hasErrorAt path = true) :
    log.hasErrors = true := by
  obtain ⟨v, member, holds⟩ := List.any_eq_true.mp found
  exact List.any_eq_true.mpr ⟨v, member, (Bool.and_eq_true_iff.mp holds).1⟩

theorem rejects_of_hasErrors {log : Log} (strict : Bool) (errors : log.hasErrors = true) :
    log.rejects strict = true := by
  obtain ⟨v, member, _⟩ := List.any_eq_true.mp errors
  cases strict with
  | false => exact errors
  | true => simpa [rejects] using List.ne_nil_of_mem member

theorem hasErrors_of_not_rejects {log : Log} {strict : Bool} (accepted : log.rejects strict = false) :
    log.hasErrors = false := by
  refine Bool.eq_false_iff.mpr fun errors => ?_
  rw [rejects_of_hasErrors strict errors] at accepted
  cases accepted

theorem rejects_append (log more : Log) (strict : Bool) :
    Log.rejects (log ++ more) strict = (log.rejects strict || more.rejects strict) := by
  cases strict with
  | false => simp [rejects, hasErrors]
  | true => cases log <;> simp [rejects]

/-- A dropped absence changes no verdict, since the error that hides it decides the verdict. -/
theorem rejects_settle (log : Log) (finding : Finding) (strict : Bool) :
    (log.settle finding).rejects strict =
      (log.rejects strict || Log.rejects [finding.reported] strict) := by
  cases finding with
  | violation v => exact rejects_append log [v] strict
  | absence v =>
    by_cases known : log.hasErrorAt v.path
    · have rejected := rejects_of_hasErrors strict (hasErrors_of_hasErrorAt known)
      simp [settle, known, rejected]
    · simpa [settle, known, Finding.reported] using rejects_append log [v] strict

theorem rejects_record (log : Log) (findings : List Finding) (strict : Bool) :
    (log.record findings).rejects strict =
      (log.rejects strict || Log.rejects (findings.map Finding.reported) strict) := by
  induction findings generalizing log with
  | nil => cases strict <;> simp [rejects, hasErrors]
  | cons finding rest ih =>
    rw [record_cons, ih, rejects_settle, Bool.or_assoc, ← rejects_append]
    rfl

end Log

end BucketPlan
