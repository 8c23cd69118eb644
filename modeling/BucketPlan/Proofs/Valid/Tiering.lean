import BucketPlan.Proofs.Arranged.Keyed
import BucketPlan.Proofs.Filter
import BucketPlan.Tiering.Plan

namespace BucketPlan

namespace TieringRule

/-- A tier that there is, after days that it may be entered after. -/
def IsLegalTier (tier : String × Int) : Prop :=
  tier.1 = "ARCHIVE_ACCESS" ∧ 90 ≤ tier.2 ∧ tier.2 ≤ 730 ∨
    tier.1 = "DEEP_ARCHIVE_ACCESS" ∧ 180 ≤ tier.2 ∧ tier.2 ≤ 730

/-- At least one of the two archive tiers, the deep one after the other, for objects that are not picked
by their size. -/
structure IsLegal (rule : TieringRule) : Prop where
  tiered : rule.tierings.entries ≠ []
  tiers : ∀ entry ∈ rule.tierings.entries, IsLegalTier entry
  order : ∀ archive deep, ("ARCHIVE_ACCESS", archive) ∈ rule.tierings.entries →
    ("DEEP_ARCHIVE_ACCESS", deep) ∈ rule.tierings.entries → archive < deep
  filter : ∀ filter ∈ rule.filter,
    filter.sizeAbove = none ∧ filter.sizeBelow = none ∧ "" ∉ filter.tags.names

variable {rule : TieringRule} {scope : Scope}

theorem passes_tierFindings {tier : String} {days : Int} :
    Passes (tierFindings scope tier days) ↔ IsLegalTier (tier, days) := by
  by_cases archive : tier = "ARCHIVE_ACCESS"
  · have found : tiers.lookup tier = some (90, 730) := by rw [archive]; rfl
    simp only [tierFindings, found, Scope.passes_inRange_between]
    simp [IsLegalTier, archive]
  · by_cases deep : tier = "DEEP_ARCHIVE_ACCESS"
    · have found : tiers.lookup tier = some (180, 730) := by rw [deep]; rfl
      simp only [tierFindings, found, Scope.passes_inRange_between]
      simp [IsLegalTier, deep]
    · have found : tiers.lookup tier = none := by
        simp [tiers, List.lookup_cons, beq_false_of_ne archive, beq_false_of_ne deep]
      simp only [tierFindings, found, Scope.passes_oneOf]
      simp [IsLegalTier, tiers, archive, deep]

theorem passes_orderFindings : Passes (rule.orderFindings scope) ↔
    ∀ archive deep, ("ARCHIVE_ACCESS", archive) ∈ rule.tierings.entries →
      ("DEEP_ARCHIVE_ACCESS", deep) ∈ rule.tierings.entries → archive < deep := by
  simp only [orderFindings, ← Keyed.get?_eq_some_iff]
  cases rule.tierings.get? "ARCHIVE_ACCESS" with
  | none => simp
  | some archive => cases rule.tierings.get? "DEEP_ARCHIVE_ACCESS" <;> simp

theorem passes_filterFindings : Passes (FilterPlan.findings rule.filter scope false) ↔
    ∀ filter ∈ rule.filter,
      filter.sizeAbove = none ∧ filter.sizeBelow = none ∧ "" ∉ filter.tags.names := by
  rw [FilterPlan.passes_findings]
  refine forall₂_congr fun filter _ => ?_
  have unbounded : filter.hasBounds = false ↔ filter.sizeAbove = none ∧ filter.sizeBelow = none := by
    simp [ObjectFilter.hasBounds]
  constructor
  · intro fit
    obtain ⟨allowed, legal⟩ := fit
    obtain ⟨above, below⟩ := unbounded.mp (allowed.resolve_left Bool.false_ne_true)
    exact ⟨above, below, fun empty => legal.keys "" empty rfl⟩
  · intro fit
    obtain ⟨above, below, keys⟩ := fit
    refine ⟨Or.inr (unbounded.mpr ⟨above, below⟩), ?_⟩
    exact ⟨by simp [above], by simp [below], by simp [above],
      fun key member empty => keys (empty ▸ member)⟩

theorem passes_findings : Passes (rule.findings scope) ↔ rule.IsLegal := by
  have tiered : (!rule.tierings.isEmpty) = true ↔ rule.tierings.entries ≠ [] := by simp [Keyed.isEmpty]
  simp only [findings, reportsOnly_append, passes_filterFindings, Scope.passes_require, tiered,
    reportsOnly_flatMap, passes_tierFindings, passes_orderFindings]
  constructor
  · intro passes
    obtain ⟨⟨⟨filter, given⟩, tiers⟩, order⟩ := passes
    exact ⟨given, tiers, order, filter⟩
  · intro legal
    exact ⟨⟨⟨legal.filter, legal.tiered⟩, legal.tiers⟩, legal.order⟩

end TieringRule

theorem TieringPlan.passes_findings {rules : Keyed TieringRule} :
    Passes (findings rules) ↔ ∀ entry ∈ rules.entries, entry.2.IsLegal := by
  simp only [findings, reportsOnly_flatMap, TieringRule.passes_findings]

end BucketPlan
