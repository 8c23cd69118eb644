import BucketPlan.Proofs.Record

namespace BucketPlan

/-- Whatever findings would report has a property. -/
def ReportsOnly (property : Violation → Prop) (findings : List Finding) : Prop :=
  ∀ finding ∈ findings, property finding.reported

section

variable {property : Violation → Prop} {first second : List Finding}

@[simp]
theorem reportsOnly_nil : ReportsOnly property [] := by
  simp [ReportsOnly]

@[simp]
theorem reportsOnly_append :
    ReportsOnly property (first ++ second) ↔
      ReportsOnly property first ∧ ReportsOnly property second := by
  simp only [ReportsOnly, List.mem_append, or_imp, forall_and]

@[simp]
theorem reportsOnly_flatMap {α : Type} {items : List α} {check : α → List Finding} :
    ReportsOnly property (items.flatMap check) ↔ ∀ item ∈ items, ReportsOnly property (check item) := by
  simp only [ReportsOnly, List.mem_flatMap, forall_exists_index, and_imp]
  exact ⟨fun all item member finding found => all finding item member found,
    fun all finding item member found => all item member finding found⟩

/-- What holds of items wherever they stand. -/
theorem forall_mem_zipIdx {α : Type} (items : List α) (good : α → Prop) :
    (∀ entry ∈ items.zipIdx, good entry.1) ↔ ∀ item ∈ items, good item := by
  rw [← List.forall_mem_map (f := Prod.fst) (P := good), List.zipIdx_map_fst]

@[simp]
theorem reportsOnly_ite {condition : Prop} [Decidable condition] :
    ReportsOnly property (if condition then first else second) ↔
      (condition → ReportsOnly property first) ∧ (¬condition → ReportsOnly property second) := by
  split <;> simp_all

theorem ReportsOnly.ite {condition : Prop} [Decidable condition] (holding : ReportsOnly property first)
    (failing : ReportsOnly property second) :
    ReportsOnly property (if condition then first else second) :=
  reportsOnly_ite.mpr ⟨fun _ => holding, fun _ => failing⟩

theorem ReportsOnly.ifTrue {condition : Prop} [Decidable condition]
    (holding : ReportsOnly property first) :
    ReportsOnly property (if condition then first else []) :=
  holding.ite reportsOnly_nil

theorem ReportsOnly.ifFalse {condition : Prop} [Decidable condition]
    (failing : ReportsOnly property first) :
    ReportsOnly property (if condition then [] else first) :=
  reportsOnly_nil.ite failing

/-- What holds of a log and of all that findings would report still holds once they are recorded. -/
theorem ReportsOnly.record {findings : List Finding} (reports : ReportsOnly property findings)
    {log : Log} (all : ∀ v ∈ log, property v) : ∀ v ∈ log.record findings, property v := by
  induction findings generalizing log with
  | nil => exact all
  | cons finding rest ih =>
    obtain ⟨own, others⟩ := List.forall_mem_cons.mp reports
    have extended : ∀ v ∈ log ++ [finding.reported], property v :=
      List.forall_mem_append.mpr ⟨all, List.forall_mem_singleton.mpr own⟩
    rw [Log.record_cons]
    cases finding with
    | violation v => exact ih others extended
    | absence v =>
      by_cases known : log.hasErrorAt v.path
      · rw [Log.settle, if_pos known]
        exact ih others all
      · rw [Log.settle, if_neg known]
        exact ih others extended

/-- What is in a log once findings are recorded was there before, or is what a finding reports. -/
theorem Log.mem_or_reported {log : Log} {findings : List Finding} {v : Violation}
    (logged : v ∈ log.record findings) : v ∈ log ∨ ∃ finding ∈ findings, finding.reported = v := by
  have reports : ReportsOnly (fun w => w ∈ log ∨ ∃ finding ∈ findings, finding.reported = w) findings :=
    fun finding found => Or.inr ⟨finding, found, rfl⟩
  exact reports.record (fun _ => Or.inl) v logged

end

/-- A check passes when nothing it has to say is an error; warnings may be among its findings. -/
abbrev Passes (findings : List Finding) : Prop :=
  ReportsOnly (fun v => v.isError = false) findings

/-- A log stays free of errors exactly when it was and the check passes. -/
theorem Log.hasErrors_record_eq_false (log : Log) (findings : List Finding) :
    (log.record findings).hasErrors = false ↔ log.hasErrors = false ∧ Passes findings := by
  have verdict := log.rejects_record findings false
  simp only [Log.rejects, Bool.false_eq_true, if_false] at verdict
  rw [verdict, Bool.or_eq_false_iff]
  simp [Log.hasErrors, ReportsOnly]

theorem isFilled_iff {text : Option String} : isFilled text = true ↔ ∃ given ∈ text, given ≠ "" := by
  cases text <;> simp [isFilled]

namespace Scope

variable {scope : Scope} {field message : String}

@[simp]
theorem passes_error {code : Code} : ¬Passes (scope.error field code message) := by
  simp [ReportsOnly, error, violation, Finding.reported, Violation.isError]

@[simp]
theorem passes_warning {code : Code} : Passes (scope.warning field code message) := by
  simp [ReportsOnly, warning, violation, Finding.reported, Violation.isError]

@[simp]
theorem passes_require {given : Bool} : Passes (scope.require given field message) ↔ given = true := by
  cases given <;> simp [ReportsOnly, require, violation, Finding.reported, Violation.isError]

@[simp]
theorem passes_oneOf {value : Option String} {allowed : List String} :
    Passes (scope.oneOf value allowed field) ↔ ∀ text ∈ value, text ∈ allowed := by
  cases value with
  | none => simp [oneOf]
  | some text => simp [oneOf, unlisted]

@[simp]
theorem passes_inRange_from {value : Option Int} {least : Int} :
    Passes (scope.inRange value field (some least)) ↔ ∀ number ∈ value, least ≤ number := by
  cases value <;> simp [inRange, within]

@[simp]
theorem passes_inRange_between {value : Option Int} {least most : Int} :
    Passes (scope.inRange value field (some least) (some most)) ↔
      ∀ number ∈ value, least ≤ number ∧ number ≤ most := by
  cases value <;> simp [inRange, within]

end Scope

end BucketPlan
