import BucketPlan.Filter
import BucketPlan.Proofs.Passes

namespace BucketPlan

/-- A finding that is reported whatever the log holds. -/
def Finding.IsDirect (finding : Finding) : Prop :=
  finding = .violation finding.reported

/-- Findings that do not look at the log are reported as they come. -/
theorem Log.reports_of_direct {findings : List Finding} (direct : ∀ finding ∈ findings, finding.IsDirect)
    (log : Log) : log.reports findings = findings.map Finding.reported := by
  induction findings generalizing log with
  | nil => rfl
  | cons finding rest ih =>
    obtain ⟨own, others⟩ := List.forall_mem_cons.mp direct
    rw [own, reports, ih others]
    rfl

theorem Scope.direct_error {scope : Scope} {field message : String} {code : Code} :
    ∀ finding ∈ scope.error field code message, finding.IsDirect := by
  simp [error, Finding.IsDirect, Finding.reported]

theorem Scope.direct_inRange {scope : Scope} {value : Option Int} {field : String}
    {least most : Option Int} : ∀ finding ∈ scope.inRange value field least most, finding.IsDirect := by
  unfold inRange
  cases value with
  | none => simp
  | some number =>
    dsimp only
    split
    · simp
    · exact direct_error

theorem ObjectFilter.direct_findings {filter : ObjectFilter} {scope : Scope} {field : String}
    {sizes : Bool} : ∀ finding ∈ filter.findings scope field sizes, finding.IsDirect := by
  have bounds : ∀ finding ∈ filter.boundFindings scope field, finding.IsDirect := by
    refine List.forall_mem_append.mpr
      ⟨List.forall_mem_append.mpr ⟨Scope.direct_inRange, Scope.direct_inRange⟩, ?_⟩
    split
    · split
      · exact Scope.direct_error
      · simp
    · simp
  refine List.forall_mem_append.mpr ⟨?_, fun finding member => ?_⟩
  · split
    · exact Scope.direct_error
    · exact bounds
  · obtain ⟨_, _, own⟩ := List.mem_flatMap.mp member
    exact Scope.direct_error finding own

namespace ObjectFilter

/-- Sizes from zero upwards, the lower bound below the upper one, and no tag without a key. -/
structure IsLegal (filter : ObjectFilter) : Prop where
  above : ∀ size ∈ filter.sizeAbove, 0 ≤ size
  below : ∀ size ∈ filter.sizeBelow, 1 ≤ size
  apart : ∀ low ∈ filter.sizeAbove, ∀ high ∈ filter.sizeBelow, low < high
  keys : ∀ key ∈ filter.tags.names, key ≠ ""

theorem passes_boundFindings {filter : ObjectFilter} {scope : Scope} {field : String} :
    Passes (filter.boundFindings scope field) ↔
      (∀ size ∈ filter.sizeAbove, 0 ≤ size) ∧ (∀ size ∈ filter.sizeBelow, 1 ≤ size) ∧
      ∀ low ∈ filter.sizeAbove, ∀ high ∈ filter.sizeBelow, low < high := by
  unfold boundFindings
  cases filter.sizeAbove <;> cases filter.sizeBelow <;> simp

theorem passes_findings {filter : ObjectFilter} {scope : Scope} {field : String} {sizes : Bool} :
    Passes (filter.findings scope field sizes) ↔
      (sizes = true ∨ filter.hasBounds = false) ∧ filter.IsLegal := by
  simp only [findings, reportsOnly_append, reportsOnly_ite, reportsOnly_flatMap, passes_boundFindings]
  constructor
  · intro passes
    obtain ⟨⟨unsupported, bounds⟩, keys⟩ := passes
    have allowed : ¬(!sizes && filter.hasBounds) = true := fun refused =>
      Scope.passes_error (unsupported refused)
    obtain ⟨above, below, apart⟩ := bounds allowed
    refine ⟨by cases sizes <;> simp_all, above, below, apart, fun key member empty => ?_⟩
    exact Scope.passes_error (keys key (List.mem_filter.mpr ⟨member, decide_eq_true empty⟩))
  · intro fit
    obtain ⟨allowed, legal⟩ := fit
    refine ⟨⟨fun refused => ?_, fun _ => ⟨legal.above, legal.below, legal.apart⟩⟩, fun key member => ?_⟩
    · rcases allowed with supported | unbounded
      · simp [supported] at refused
      · simp [unbounded] at refused
    · obtain ⟨inNames, empty⟩ := List.mem_filter.mp member
      exact absurd (of_decide_eq_true empty) (legal.keys key inNames)

end ObjectFilter

theorem FilterPlan.passes_findings {filter : Option ObjectFilter} {scope : Scope} {sizes : Bool}
    {field : String} :
    Passes (FilterPlan.findings filter scope sizes field) ↔
      ∀ given ∈ filter, (sizes = true ∨ given.hasBounds = false) ∧ given.IsLegal := by
  cases filter with
  | none => simp [FilterPlan.findings]
  | some given => simp [FilterPlan.findings, ObjectFilter.passes_findings]

/-- Whatever the log holds, a filter is reported without an error exactly when it passes. -/
theorem FilterPlan.reports_findings {filter : Option ObjectFilter} {scope : Scope} {sizes : Bool}
    {field : String} (log : Log) :
    (∀ v ∈ log.reports (FilterPlan.findings filter scope sizes field), v.isError = false) ↔
      Passes (FilterPlan.findings filter scope sizes field) := by
  have direct : ∀ finding ∈ FilterPlan.findings filter scope sizes field, finding.IsDirect := by
    cases filter with
    | none => simp [FilterPlan.findings]
    | some given => exact ObjectFilter.direct_findings
  rw [log.reports_of_direct direct, List.forall_mem_map]
  rfl

end BucketPlan
