import BucketPlan.Lifecycle.Waterfall
import BucketPlan.Proofs.Filter

namespace BucketPlan

namespace NoncurrentTransition

/-- A day from zero upwards, from the thirtieth on where access is infrequent, a class of the
waterfall, and a number of versions within its limits. -/
structure IsLegal (t : NoncurrentTransition) : Prop where
  day : ∃ days ∈ t.days, 0 ≤ days ∧ ∀ storageClass ∈ t.storageClass,
    storageClass ∈ infrequentAccess → 30 ≤ days
  target : ∃ storageClass ∈ t.storageClass, storageClass ∈ waterfall
  versions : ∀ count ∈ t.newerVersions, 1 ≤ count ∧ count ≤ 100

/-- Two transitions in either order: their days differ, and the later one leads further down. -/
def Descends (a b : NoncurrentTransition) : Prop :=
  ∀ m ∈ a.days, ∀ n ∈ b.days, m ≠ n ∧
    ∀ warm ∈ a.storageClass, ∀ cold ∈ b.storageClass,
      (m < n → rank warm < rank cold) ∧ (n < m → rank cold < rank warm)

theorem isFilled_of_mem_waterfall {storageClass : String} (member : storageClass ∈ waterfall) :
    isFilled (some storageClass) = true := by
  have filled : ∀ name ∈ waterfall, isFilled (some name) = true := by decide
  exact filled storageClass member

theorem step?_eq_some {t : NoncurrentTransition} {step : Step} :
    t.step? = some step ↔ t.days = some step.days ∧ t.storageClass = some step.storageClass ∧
      t.newerVersions = step.newerVersions ∧ 0 ≤ step.days ∧ step.storageClass ∈ waterfall := by
  obtain ⟨days, storageClass, newerVersions⟩ := t
  obtain ⟨stepDays, stepClass, stepVersions⟩ := step
  cases days with
  | none => simp [step?]
  | some m =>
    cases storageClass with
    | none => simp [step?]
    | some name =>
      simp only [step?, Option.ite_none_right_eq_some, Option.some.injEq, Step.mk.injEq]
      constructor
      · intro usable
        obtain ⟨⟨lower, known⟩, rfl, rfl, rfl⟩ := usable
        exact ⟨rfl, rfl, rfl, lower, known⟩
      · intro usable
        obtain ⟨rfl, rfl, rfl, lower, known⟩ := usable
        exact ⟨⟨lower, known⟩, rfl, rfl, rfl⟩

instance (t : NoncurrentTransition) : Decidable t.IsLegal :=
  decidable_of_iff ((∃ days ∈ t.days, 0 ≤ days ∧ ∀ storageClass ∈ t.storageClass,
      storageClass ∈ infrequentAccess → 30 ≤ days) ∧
      (∃ storageClass ∈ t.storageClass, storageClass ∈ waterfall) ∧
      ∀ count ∈ t.newerVersions, 1 ≤ count ∧ count ≤ 100)
    ⟨fun ⟨day, target, versions⟩ => ⟨day, target, versions⟩,
      fun ⟨day, target, versions⟩ => ⟨day, target, versions⟩⟩

instance (a b : NoncurrentTransition) : Decidable (a.Descends b) :=
  inferInstanceAs (Decidable (∀ m ∈ a.days, ∀ n ∈ b.days, _))

/-- A legal transition is usable. -/
theorem IsLegal.step {t : NoncurrentTransition} (legal : t.IsLegal) : ∃ step, t.step? = some step := by
  obtain ⟨days, daysSet, lower, _⟩ := legal.day
  obtain ⟨name, classSet, known⟩ := legal.target
  exact ⟨⟨days, name, t.newerVersions⟩, step?_eq_some.mpr ⟨daysSet, classSet, rfl, lower, known⟩⟩

theorem passes_findings {t : NoncurrentTransition} {scope : Scope} {item : String} :
    Passes (t.findings scope item) ↔ t.IsLegal := by
  simp only [findings, reportsOnly_append, Scope.passes_require, Scope.passes_inRange_from,
    Scope.passes_inRange_between, reportsOnly_ite, Scope.passes_oneOf, reportsOnly_nil, implies_true,
    and_true]
  constructor
  · intro passes
    obtain ⟨⟨⟨⟨⟨daysSet, classSet⟩, lower⟩, known⟩, late⟩, versions⟩ := passes
    obtain ⟨days, daysEq⟩ := Option.isSome_iff_exists.mp daysSet
    cases classEq : t.storageClass with
    | none => simp [classEq, isFilled] at classSet
    | some name =>
      have usable : t.step? = some ⟨days, name, t.newerVersions⟩ :=
        step?_eq_some.mpr ⟨daysEq, classEq, rfl, lower days daysEq, known classSet name classEq⟩
      refine ⟨⟨days, daysEq, lower days daysEq, ?_⟩, ⟨name, classEq, known classSet name classEq⟩, ?_⟩
      · intro other same infrequent
        cases classEq.symm.trans same
        simpa [usable, infrequent] using late
      · exact versions
  · intro legal
    obtain ⟨days, daysEq, lower, late⟩ := legal.day
    obtain ⟨name, classEq, known⟩ := legal.target
    have usable : t.step? = some ⟨days, name, t.newerVersions⟩ :=
      step?_eq_some.mpr ⟨daysEq, classEq, rfl, lower, known⟩
    refine ⟨⟨⟨⟨⟨Option.isSome_of_mem daysEq, ?_⟩, ?_⟩, ?_⟩, ?_⟩, legal.versions⟩
    · rw [classEq]
      exact isFilled_of_mem_waterfall known
    · intro other same
      cases daysEq.symm.trans same
      exact lower
    · intro _ other same
      cases classEq.symm.trans same
      exact known
    · rw [usable]
      simpa using late name classEq

end NoncurrentTransition

namespace Step

/-- The earlier of two steps comes on an earlier day and from a warmer class. -/
def Precedes (earlier later : Step) : Prop :=
  earlier.days < later.days ∧ rank earlier.storageClass < rank later.storageClass

theorem Precedes.trans {a b c : Step} (first : a.Precedes b) (second : b.Precedes c) :
    a.Precedes c :=
  ⟨Int.lt_trans first.1 second.1, Nat.lt_trans first.2 second.2⟩

theorem passes_orderFindings {earlier later : Step} {scope : Scope} {field : String}
    (inOrder : earlier.days ≤ later.days) :
    Passes (orderFindings earlier later scope field) ↔ earlier.Precedes later := by
  simp only [orderFindings, reportsOnly_ite, Scope.passes_error, imp_false, reportsOnly_nil,
    implies_true, and_true, Precedes]
  omega

/-- The check of neighbours reaches all pairs, since both orders are transitive. -/
theorem passes_sequenceFindings {steps : List Step} {scope : Scope} {field : String}
    (inOrder : steps.Pairwise fun a b => a.days ≤ b.days) :
    Passes (sequenceFindings scope field steps) ↔ steps.Pairwise Precedes := by
  induction steps with
  | nil => simp [sequenceFindings]
  | cons earlier rest ih =>
    cases rest with
    | nil => simp [sequenceFindings]
    | cons later rest =>
      obtain ⟨first, others⟩ := List.pairwise_cons.mp inOrder
      simp only [sequenceFindings, reportsOnly_append, ih others,
        passes_orderFindings (first later List.mem_cons_self), List.pairwise_cons (a := earlier)]
      constructor
      · intro neighbours
        obtain ⟨next, descent⟩ := neighbours
        refine ⟨List.forall_mem_cons.mpr ⟨next, fun step member => ?_⟩, descent⟩
        exact next.trans ((List.pairwise_cons.mp descent).1 step member)
      · intro pairs
        obtain ⟨all, descent⟩ := pairs
        exact ⟨all later List.mem_cons_self, descent⟩

theorem ordered_perm (transitions : List NoncurrentTransition) :
    (ordered transitions).Perm (transitions.filterMap NoncurrentTransition.step?) :=
  List.mergeSort_perm _ _

theorem ordered_inOrder (transitions : List NoncurrentTransition) :
    (ordered transitions).Pairwise fun a b => a.days ≤ b.days := by
  have sorted : (ordered transitions).Pairwise fun a b => decide (a.days ≤ b.days) = true :=
    List.pairwise_mergeSort (by intro a b c; simp only [decide_eq_true_eq]; omega)
      (by intro a b; simp only [Bool.or_eq_true, decide_eq_true_eq]; omega) _
  exact sorted.imp of_decide_eq_true

/-- Whether steps go down the waterfall does not depend on the order in which they were given. -/
theorem ordered_pairwise_precedes {transitions : List NoncurrentTransition} :
    (ordered transitions).Pairwise Precedes ↔
      (transitions.filterMap NoncurrentTransition.step?).Pairwise
        fun a b => a.Precedes b ∨ b.Precedes a := by
  rw [← (ordered_perm transitions).pairwise_iff fun either => either.symm]
  refine ⟨fun descent => descent.imp Or.inl, fun apart => ?_⟩
  refine ((ordered_inOrder transitions).and apart).imp ?_
  intro a b related
  obtain ⟨inOrder, either⟩ := related
  rcases either with down | up
  · exact down
  · have later := up.1
    omega

end Step

namespace NoncurrentTransition

theorem descends_iff {a b : NoncurrentTransition} {first second : Step}
    (atFirst : a.step? = some first) (atSecond : b.step? = some second) :
    a.Descends b ↔ first.Precedes second ∨ second.Precedes first := by
  obtain ⟨firstDays, firstClass, _⟩ := step?_eq_some.mp atFirst
  obtain ⟨secondDays, secondClass, _⟩ := step?_eq_some.mp atSecond
  simp only [Descends, firstDays, firstClass, secondDays, secondClass, Option.mem_def,
    Option.some.injEq, forall_eq', Step.Precedes]
  omega

end NoncurrentTransition

namespace Step

/-- Of legal transitions, which are all usable, every two go down the waterfall exactly when their
steps do. -/
theorem pairwise_descends {transitions : List NoncurrentTransition}
    (legal : ∀ t ∈ transitions, t.IsLegal) :
    (transitions.filterMap NoncurrentTransition.step?).Pairwise
        (fun a b => a.Precedes b ∨ b.Precedes a) ↔
      transitions.Pairwise NoncurrentTransition.Descends := by
  rw [List.pairwise_filterMap]
  refine List.Pairwise.iff_of_mem fun {a b} inA inB => ?_
  obtain ⟨first, atFirst⟩ := (legal a inA).step
  obtain ⟨second, atSecond⟩ := (legal b inB).step
  rw [NoncurrentTransition.descends_iff atFirst atSecond]
  simp [atFirst, atSecond]

theorem passes_findings {transitions : List NoncurrentTransition} {scope : Scope} {field : String} :
    Passes (findings transitions scope field) ↔
      (∀ t ∈ transitions, t.IsLegal) ∧ transitions.Pairwise NoncurrentTransition.Descends := by
  simp only [findings, reportsOnly_append, reportsOnly_flatMap, NoncurrentTransition.passes_findings,
    forall_mem_zipIdx transitions NoncurrentTransition.IsLegal]
  refine and_congr_right fun legal => ?_
  simp only [passes_sequenceFindings (ordered_inOrder transitions), ordered_pairwise_precedes,
    pairwise_descends legal]

theorem mem_ordered {transitions : List NoncurrentTransition} {step : Step} :
    step ∈ ordered transitions ↔ ∃ t ∈ transitions, t.step? = some step := by
  rw [(ordered_perm transitions).mem_iff, List.mem_filterMap]

theorem days_le_getLast {transitions : List NoncurrentTransition} {step last : Step}
    (atEnd : (ordered transitions).getLast? = some last) (member : step ∈ ordered transitions) :
    step.days ≤ last.days := by
  obtain ⟨earlier, split⟩ := List.getLast?_eq_some_iff.mp atEnd
  have inOrder := ordered_inOrder transitions
  rw [split, List.pairwise_append] at inOrder
  rw [split, List.mem_append, List.mem_singleton] at member
  rcases member with before | same
  · exact inOrder.2.2 step before last (List.mem_singleton.mpr rfl)
  · exact Int.le_of_eq (congrArg Step.days same)

/-- Days that come after the last step come after all transitions, where these are legal. -/
theorem passes_afterLast {transitions : List NoncurrentTransition} {days : Int}
    {complain : Int → List Finding} (legal : ∀ t ∈ transitions, t.IsLegal)
    (complains : ∀ last, ¬Passes (complain last)) :
    Passes (afterLast (ordered transitions) days complain) ↔
      ∀ t ∈ transitions, ∀ n ∈ t.days, n < days := by
  have usable {t : NoncurrentTransition} (member : t ∈ transitions) {n : Int} (set : n ∈ t.days) :
      ∃ step ∈ ordered transitions, step.days = n := by
    obtain ⟨step, atStep⟩ := (legal t member).step
    have same := (NoncurrentTransition.step?_eq_some.mp atStep).1.symm.trans set
    exact ⟨step, mem_ordered.mpr ⟨t, member, atStep⟩, Option.some.inj same⟩
  unfold afterLast
  cases atEnd : (ordered transitions).getLast? with
  | none =>
    refine iff_of_true reportsOnly_nil fun t member n set => ?_
    obtain ⟨step, found, _⟩ := usable member set
    rw [List.getLast?_eq_none_iff.mp atEnd] at found
    cases found
  | some last =>
    simp only [reportsOnly_ite, complains, imp_false, reportsOnly_nil, implies_true, and_true]
    constructor
    · intro after t member n set
      obtain ⟨step, found, daysEq⟩ := usable member set
      have bound := days_le_getLast atEnd found
      omega
    · intro all
      obtain ⟨t, member, atStep⟩ := mem_ordered.mp (List.mem_of_getLast? atEnd)
      have bound := all t member last.days (NoncurrentTransition.step?_eq_some.mp atStep).1
      omega

/-- The day of an expiration, which has to be one and to come after all transitions. -/
theorem passes_comesLast {transitions : List NoncurrentTransition} {days : Int}
    {complain : Int → List Finding} {refusal : List Finding} (legal : ∀ t ∈ transitions, t.IsLegal)
    (complains : ∀ last, ¬Passes (complain last)) (refuses : ¬1 ≤ days → ¬Passes refusal) :
    Passes (if 1 ≤ days then afterLast (ordered transitions) days complain else refusal) ↔
      1 ≤ days ∧ ∀ t ∈ transitions, ∀ n ∈ t.days, n < days := by
  by_cases positive : 1 ≤ days
  · simp only [positive, if_true, true_and, passes_afterLast legal complains]
  · simp only [positive, if_false, false_and, refuses positive]

end Step

end BucketPlan
