import BucketPlan.Lifecycle.Plan
import BucketPlan.Proofs.Lifecycle.Waterfall

namespace BucketPlan

namespace Expiration

/-- Exactly one of days, date and clean-up of markers; days come after all transitions, a date is
one of the calendar, and the clean-up does not go by tags. -/
structure IsLegal (e : Expiration) (transitions : List NoncurrentTransition) (hasTags : Bool) :
    Prop where
  choice : [e.days.isSome, e.date.isSome, e.cleansUp].count true = 1
  days : ∀ days ∈ e.days, 1 ≤ days ∧ ∀ t ∈ transitions, ∀ n ∈ t.days, n < days
  date : ∀ text ∈ e.date, ∃ date, Date.parse text = .ok date
  tags : e.cleansUp = true → hasTags = false

theorem passes_choiceFindings {e : Expiration} {scope : Scope} {hasTags : Bool} :
    Passes (e.choiceFindings scope hasTags) ↔
      [e.days.isSome, e.date.isSome, e.cleansUp].count true = 1 ∧
      (e.cleansUp = true → hasTags = false) := by
  unfold choiceFindings
  cases e.days <;> cases e.date <;> cases e.cleansUp <;> cases hasTags <;> simp

theorem passes_dayFindings {transitions : List NoncurrentTransition} {days : Int} {scope : Scope}
    (legal : ∀ t ∈ transitions, t.IsLegal) :
    Passes (dayFindings days (Step.ordered transitions) scope) ↔
      1 ≤ days ∧ ∀ t ∈ transitions, ∀ n ∈ t.days, n < days :=
  Step.passes_comesLast legal (fun _ => Scope.passes_error) fun early => by simp [early]

theorem passes_dateFindings {text : String} {scope : Scope} :
    Passes (dateFindings text scope) ↔ ∃ date, Date.parse text = .ok date := by
  unfold dateFindings
  cases Date.parse text <;> simp

theorem passes_findings {e : Expiration} {transitions : List NoncurrentTransition} {scope : Scope}
    {hasTags : Bool} (legal : ∀ t ∈ transitions, t.IsLegal) :
    Passes (e.findings (Step.ordered transitions) scope hasTags) ↔ e.IsLegal transitions hasTags := by
  simp only [findings, reportsOnly_append, reportsOnly_flatMap, Option.mem_toList,
    passes_choiceFindings, passes_dayFindings legal, passes_dateFindings]
  constructor
  · intro passes
    obtain ⟨⟨⟨choice, tags⟩, days⟩, date⟩ := passes
    exact ⟨choice, days, date, tags⟩
  · intro legal
    obtain ⟨choice, days, date, tags⟩ := legal
    exact ⟨⟨⟨choice, tags⟩, days⟩, date⟩

end Expiration

namespace NoncurrentExpiration

structure IsLegal (e : NoncurrentExpiration) (transitions : List NoncurrentTransition) : Prop where
  days : ∃ days ∈ e.days, 1 ≤ days ∧ ∀ t ∈ transitions, ∀ n ∈ t.days, n < days
  versions : ∀ count ∈ e.newerVersions, 1 ≤ count ∧ count ≤ 100

theorem passes_dayFindings {transitions : List NoncurrentTransition} {days : Int} {scope : Scope}
    (legal : ∀ t ∈ transitions, t.IsLegal) :
    Passes (dayFindings days (Step.ordered transitions) scope) ↔
      1 ≤ days ∧ ∀ t ∈ transitions, ∀ n ∈ t.days, n < days :=
  Step.passes_comesLast legal (fun _ => Scope.passes_error) fun early => by simp [early]

theorem passes_findings {e : NoncurrentExpiration} {transitions : List NoncurrentTransition}
    {scope : Scope} (legal : ∀ t ∈ transitions, t.IsLegal) :
    Passes (e.findings (Step.ordered transitions) scope) ↔ e.IsLegal transitions := by
  unfold findings
  cases daysEq : e.days with
  | none =>
    have unset : ¬e.IsLegal transitions := by
      intro legal
      obtain ⟨⟨_, set, _⟩, _⟩ := legal
      cases daysEq.symm.trans set
    simp [unset]
  | some days =>
    simp only [reportsOnly_append, Scope.passes_inRange_between, passes_dayFindings legal]
    constructor
    · intro passes
      obtain ⟨versions, after⟩ := passes
      exact ⟨⟨days, daysEq, after⟩, versions⟩
    · intro legal
      obtain ⟨⟨other, set, after⟩, versions⟩ := legal
      cases daysEq.symm.trans set
      exact ⟨versions, after⟩

end NoncurrentExpiration

namespace LifecycleRule

/-- The transitions of current objects in the common form of transitions. -/
def moves (rule : LifecycleRule) : List NoncurrentTransition :=
  rule.transitions.map Transition.toNoncurrent

/-- What a lifecycle rule may ask for. -/
structure IsLegal (rule : LifecycleRule) : Prop where
  filter : ∀ filter ∈ rule.filter, filter.IsLegal
  moves : ∀ t ∈ rule.moves, t.IsLegal
  noncurrentMoves : ∀ t ∈ rule.noncurrentTransitions, t.IsLegal
  descent : rule.moves.Pairwise NoncurrentTransition.Descends
  noncurrentDescent : rule.noncurrentTransitions.Pairwise NoncurrentTransition.Descends
  expiration : ∀ e ∈ rule.expiration, e.IsLegal rule.moves rule.hasTags
  noncurrentExpiration : ∀ e ∈ rule.noncurrentExpiration, e.IsLegal rule.noncurrentTransitions
  abort : ∀ days ∈ rule.abortDays, 1 ≤ days ∧ rule.hasTags = false
  declares : rule.moves ≠ [] ∨ rule.expiration ≠ none ∨ rule.noncurrentTransitions ≠ [] ∨
    rule.noncurrentExpiration ≠ none ∨ rule.abortDays ≠ none

theorem passes_abortFindings {rule : LifecycleRule} {scope : Scope} :
    Passes (rule.abortFindings scope) ↔
      ∀ days ∈ rule.abortDays, 1 ≤ days ∧ rule.hasTags = false := by
  unfold abortFindings
  cases rule.abortDays <;> cases rule.hasTags <;> simp

theorem passes_versioningFindings {rule : LifecycleRule} {scope : Scope} {versioned : Bool} :
    Passes (rule.versioningFindings scope versioned) := by
  simp [versioningFindings]

theorem declaresActions_eq_true {rule : LifecycleRule} :
    rule.declaresActions = true ↔ rule.moves ≠ [] ∨ rule.expiration ≠ none ∨
      rule.noncurrentTransitions ≠ [] ∨ rule.noncurrentExpiration ≠ none ∨ rule.abortDays ≠ none := by
  simp [declaresActions, moves, Option.isSome_iff_ne_none, or_assoc]

theorem passes_findings {rule : LifecycleRule} {name : String} {scope : Scope} {versioned : Bool} :
    Passes (rule.findings name scope versioned) ↔ rule.IsLegal := by
  simp only [findings, reportsOnly_append, reportsOnly_flatMap, Option.mem_toList,
    FilterPlan.passes_findings, true_or, true_and, Step.passes_findings, passes_abortFindings,
    passes_versioningFindings, and_true, reportsOnly_ite, reportsOnly_nil, Scope.passes_error,
    implies_true, imp_false, Classical.not_not, declaresActions_eq_true]
  constructor
  · intro passes
    obtain ⟨⟨⟨⟨⟨⟨filter, moves, descent⟩, noncurrentMoves, noncurrentDescent⟩, expiration⟩,
      noncurrentExpiration⟩, abort⟩, declares⟩ := passes
    refine ⟨filter, moves, noncurrentMoves, descent, noncurrentDescent, ?_, ?_, abort, declares⟩
    · intro e set
      exact (Expiration.passes_findings moves).mp (expiration e set)
    · intro e set
      exact (NoncurrentExpiration.passes_findings noncurrentMoves).mp (noncurrentExpiration e set)
  · intro legal
    have expiration : ∀ e ∈ rule.expiration,
        Passes (e.findings (Step.ordered rule.moves) scope rule.hasTags) := by
      intro e set
      exact (Expiration.passes_findings legal.moves).mpr (legal.expiration e set)
    have noncurrentExpiration : ∀ e ∈ rule.noncurrentExpiration,
        Passes (e.findings (Step.ordered rule.noncurrentTransitions) scope) := by
      intro e set
      exact (NoncurrentExpiration.passes_findings legal.noncurrentMoves).mpr
        (legal.noncurrentExpiration e set)
    exact ⟨⟨⟨⟨⟨⟨legal.filter, legal.moves, legal.descent⟩, legal.noncurrentMoves,
      legal.noncurrentDescent⟩, expiration⟩, noncurrentExpiration⟩, legal.abort⟩, legal.declares⟩

/-- Whatever the log holds, checking a lifecycle rule leaves it free of errors exactly when it was
and the rule is legal. -/
theorem record_hasErrors_iff_isLegal (log : Log) (rule : LifecycleRule) (name : String)
    (scope : Scope) (versioned : Bool) :
    (log.record (rule.findings name scope versioned)).hasErrors = false ↔
      log.hasErrors = false ∧ rule.IsLegal := by
  rw [Log.hasErrors_record_eq_false, passes_findings]

end LifecycleRule

end BucketPlan
