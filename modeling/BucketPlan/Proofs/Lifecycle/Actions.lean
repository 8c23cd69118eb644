import BucketPlan.Proofs.Arranged.Destinations
import BucketPlan.Proofs.Lifecycle.Legal

namespace BucketPlan

/-- A transition as the action that it asks for. -/
def Transition.action (t : Transition) : LifecycleAction where
  kind := .transition
  days := t.days
  storageClass := t.storageClass

def NoncurrentTransition.action (t : NoncurrentTransition) : LifecycleAction where
  kind := .noncurrentTransition
  days := t.days
  storageClass := t.storageClass
  newerVersions := t.newerVersions

/-- An expiration as one action. Of its days, its date and its clean-up a legal one sets a single one. -/
def Expiration.action (e : Expiration) : LifecycleAction where
  kind := if e.cleansUp then .expireDeleteMarkers else .expire
  days := e.days
  date := e.date

def NoncurrentExpiration.action (e : NoncurrentExpiration) : LifecycleAction where
  kind := .noncurrentExpire
  days := e.days
  newerVersions := e.newerVersions

def LifecycleRule.abortAction (days : Int) : LifecycleAction where
  kind := .abortUpload
  days := some days

/-- Of two moves the earlier one comes on an earlier day and from a class further up the waterfall. -/
structure LifecycleAction.Precedes (earlier later : LifecycleAction) : Prop where
  days : ∃ m ∈ earlier.days, ∃ n ∈ later.days, m < n
  storageClass : ∃ warm ∈ earlier.storageClass, ∃ cold ∈ later.storageClass,
    cold ∈ waterfall ∧ rank warm < rank cold

namespace NoncurrentTransition

theorem Descends.symm {a b : NoncurrentTransition} (descends : a.Descends b) : b.Descends a := by
  intro n setN m setM
  obtain ⟨apart, classes⟩ := descends m setM n setN
  refine ⟨apart.symm, fun cold setCold warm setWarm => ?_⟩
  exact (classes warm setWarm cold setCold).symm

end NoncurrentTransition

namespace Step

/-- The move of current objects that a step stands for. -/
def move (step : Step) : LifecycleAction where
  kind := .transition
  days := some step.days
  storageClass := some step.storageClass

def noncurrentMove (step : Step) : LifecycleAction where
  kind := .noncurrentTransition
  days := some step.days
  storageClass := some step.storageClass
  newerVersions := step.newerVersions

variable {transitions moved : List NoncurrentTransition}

theorem pairwise_precedes_of_legal (legal : ∀ t ∈ transitions, t.IsLegal)
    (descent : transitions.Pairwise NoncurrentTransition.Descends) :
    (ordered transitions).Pairwise Precedes :=
  ordered_pairwise_precedes.mpr ((pairwise_descends legal).mpr descent)

/-- Legal transitions are all usable, so that none is left out before they are put in order. -/
theorem map_ordered_perm {β : Type} {ofStep : Step → β} {ofTransition : NoncurrentTransition → β}
    (legal : ∀ t ∈ transitions, t.IsLegal)
    (same : ∀ t step, t.step? = some step → ofStep step = ofTransition t) :
    ((ordered transitions).map ofStep).Perm (transitions.map ofTransition) := by
  have kept : (transitions.filterMap NoncurrentTransition.step?).map ofStep =
      transitions.map ofTransition := by
    refine map_filterMap_of_some fun t member => ?_
    obtain ⟨step, usable⟩ := (legal t member).step
    rw [usable, Option.map_some, same t step usable]
  rw [← kept]
  exact (ordered_perm transitions).map ofStep

/-- Steps that go down the waterfall can be put in no other order. -/
theorem ordered_eq_of_perm (perm : moved.Perm transitions)
    (descent : (ordered transitions).Pairwise Precedes)
    (descent' : (ordered moved).Pairwise Precedes) : ordered moved = ordered transitions := by
  have steps : (ordered moved).Perm (ordered transitions) :=
    (ordered_perm moved).trans ((perm.filterMap _).trans (ordered_perm transitions).symm)
  refine steps.eq_of_pairwise ?_ descent' descent
  intro a b _ _ before after
  have earlier := before.1
  have later := after.1
  omega

/-- Moves made of steps that go down the waterfall go down the waterfall. -/
theorem pairwise_map_ordered {ofStep : Step → LifecycleAction}
    (days : ∀ step, (ofStep step).days = some step.days)
    (storageClass : ∀ step, (ofStep step).storageClass = some step.storageClass)
    (descent : (ordered transitions).Pairwise Precedes) :
    ((ordered transitions).map ofStep).Pairwise LifecycleAction.Precedes := by
  rw [List.pairwise_map]
  refine descent.imp_of_mem fun {earlier later} _ inSteps precedes => ⟨?_, ?_⟩
  · exact ⟨_, days earlier, _, days later, precedes.1⟩
  · obtain ⟨t, _, usable⟩ := mem_ordered.mp inSteps
    have known : later.storageClass ∈ waterfall :=
      (NoncurrentTransition.step?_eq_some.mp usable).2.2.2.2
    exact ⟨_, storageClass earlier, _, storageClass later, known, precedes.2⟩

end Step

theorem Expiration.IsLegal.sets_one {e : Expiration} {transitions : List NoncurrentTransition}
    {hasTags : Bool} (legal : e.IsLegal transitions hasTags) :
    (∃ days, e.days = some days ∧ e.date = none ∧ e.cleansUp = false) ∨
    (∃ text, e.days = none ∧ e.date = some text ∧ e.cleansUp = false) ∨
    (e.days = none ∧ e.date = none ∧ e.cleansUp = true) := by
  have choice := legal.choice
  cases days : e.days <;> cases date : e.date <;> cases cleans : e.cleansUp <;>
    simp [days, date, cleans] at choice ⊢

/-- A legal expiration comes to one action. -/
theorem Expiration.IsLegal.actions_eq {e : Expiration} {transitions : List NoncurrentTransition}
    {hasTags : Bool} (legal : e.IsLegal transitions hasTags) : e.actions = [e.action] := by
  rcases legal.sets_one with ⟨_, days, date, cleans⟩ | ⟨_, days, date, cleans⟩ | ⟨days, date, cleans⟩
  · simp [actions, action, days, date, cleans]
  · simp [actions, action, days, date, cleans]
  · simp [actions, action, days, date, cleans]

theorem NoncurrentExpiration.IsLegal.actions_eq {e : NoncurrentExpiration}
    {transitions : List NoncurrentTransition} (legal : e.IsLegal transitions) :
    e.actions = [e.action] := by
  obtain ⟨days, set, _⟩ := legal.days
  have known : e.days = some days := set
  rw [actions, action, known]
  rfl

theorem flatMap_toList_eq_map {α β : Type} {given : Option α} {several : α → List β} {single : α → β}
    (alone : ∀ item ∈ given, several item = [single item]) :
    given.toList.flatMap several = given.toList.map single := by
  cases given with
  | none => rfl
  | some item => simpa using alone item rfl

namespace LifecycleRule

/-- A list of actions made of the items of a rule, each once, with the moves of current and of replaced
objects by ascending days and down the waterfall. -/
structure IsSortedInto (rule : LifecycleRule) (moves noncurrentMoves : List LifecycleAction)
    (actions : List LifecycleAction) : Prop where
  eq_append : actions = moves ++ rule.expiration.toList.map Expiration.action ++ noncurrentMoves ++
    rule.noncurrentExpiration.toList.map NoncurrentExpiration.action ++
    rule.abortDays.toList.map abortAction
  moves_perm : moves.Perm (rule.transitions.map Transition.action)
  moves_descend : moves.Pairwise LifecycleAction.Precedes
  noncurrentMoves_perm :
    noncurrentMoves.Perm (rule.noncurrentTransitions.map NoncurrentTransition.action)
  noncurrentMoves_descend : noncurrentMoves.Pairwise LifecycleAction.Precedes

variable {rule : LifecycleRule}

theorem IsLegal.steps_descend (legal : rule.IsLegal) : rule.steps.Pairwise Step.Precedes :=
  Step.pairwise_precedes_of_legal legal.moves legal.descent

theorem IsLegal.noncurrentSteps_descend (legal : rule.IsLegal) :
    rule.noncurrentSteps.Pairwise Step.Precedes :=
  Step.pairwise_precedes_of_legal legal.noncurrentMoves legal.noncurrentDescent

theorem IsLegal.moves_perm (legal : rule.IsLegal) :
    (rule.steps.map Step.move).Perm (rule.transitions.map Transition.action) := by
  have same : ∀ t step, NoncurrentTransition.step? t = some step →
      Step.move step =
        ({ kind := .transition, days := t.days, storageClass := t.storageClass } : LifecycleAction) := by
    intro t step usable
    obtain ⟨days, storageClass, _⟩ := NoncurrentTransition.step?_eq_some.mp usable
    rw [Step.move, days, storageClass]
  have perm := Step.map_ordered_perm legal.moves same
  rwa [LifecycleRule.moves, List.map_map] at perm

theorem IsLegal.noncurrentMoves_perm (legal : rule.IsLegal) :
    (rule.noncurrentSteps.map Step.noncurrentMove).Perm
      (rule.noncurrentTransitions.map NoncurrentTransition.action) :=
  Step.map_ordered_perm legal.noncurrentMoves fun t step usable => by
    obtain ⟨days, storageClass, newerVersions, _⟩ := NoncurrentTransition.step?_eq_some.mp usable
    rw [Step.noncurrentMove, NoncurrentTransition.action, days, storageClass, newerVersions]

/-- The actions of a legal rule, part by part. -/
theorem IsLegal.actions_eq (legal : rule.IsLegal) :
    rule.actions = rule.steps.map Step.move ++ rule.expiration.toList.map Expiration.action ++
      rule.noncurrentSteps.map Step.noncurrentMove ++
      rule.noncurrentExpiration.toList.map NoncurrentExpiration.action ++
      rule.abortDays.toList.map abortAction := by
  have ends : rule.expiration.toList.flatMap Expiration.actions =
      rule.expiration.toList.map Expiration.action :=
    flatMap_toList_eq_map fun e set => (legal.expiration e set).actions_eq
  have noncurrentEnds : rule.noncurrentExpiration.toList.flatMap NoncurrentExpiration.actions =
      rule.noncurrentExpiration.toList.map NoncurrentExpiration.action :=
    flatMap_toList_eq_map fun e set => (legal.noncurrentExpiration e set).actions_eq
  rw [actions, ends, noncurrentEnds]
  rfl

theorem IsLegal.isSortedInto (legal : rule.IsLegal) :
    rule.IsSortedInto (rule.steps.map Step.move) (rule.noncurrentSteps.map Step.noncurrentMove)
      rule.actions where
  eq_append := legal.actions_eq
  moves_perm := legal.moves_perm
  moves_descend := Step.pairwise_map_ordered (fun _ => rfl) (fun _ => rfl) legal.steps_descend
  noncurrentMoves_perm := legal.noncurrentMoves_perm
  noncurrentMoves_descend :=
    Step.pairwise_map_ordered (fun _ => rfl) (fun _ => rfl) legal.noncurrentSteps_descend

/-- The same rule with its moves listed in another order. -/
def withMoves (rule : LifecycleRule) (transitions : List Transition)
    (noncurrentTransitions : List NoncurrentTransition) : LifecycleRule :=
  { rule with transitions, noncurrentTransitions }

section

variable {transitions : List Transition} {noncurrentTransitions : List NoncurrentTransition}
  (perm : transitions.Perm rule.transitions)
  (noncurrentPerm : noncurrentTransitions.Perm rule.noncurrentTransitions)

include perm noncurrentPerm

/-- Whether a rule is legal does not depend on the order in which its moves are listed. -/
theorem IsLegal.withMoves (legal : rule.IsLegal) :
    (rule.withMoves transitions noncurrentTransitions).IsLegal := by
  have moves : (rule.withMoves transitions noncurrentTransitions).moves.Perm rule.moves :=
    perm.map Transition.toNoncurrent
  have apart {a b : NoncurrentTransition} (descends : a.Descends b) : b.Descends a := descends.symm
  refine ⟨legal.filter, ?_, ?_, ?_, ?_, ?_, ?_, legal.abort, ?_⟩
  · exact fun t member => legal.moves t (moves.mem_iff.mp member)
  · exact fun t member => legal.noncurrentMoves t (noncurrentPerm.mem_iff.mp member)
  · exact (moves.pairwise_iff apart).mpr legal.descent
  · exact (noncurrentPerm.pairwise_iff apart).mpr legal.noncurrentDescent
  · intro e set
    obtain ⟨choice, days, date, tags⟩ := legal.expiration e set
    refine ⟨choice, fun n given => ⟨(days n given).1, fun t member => ?_⟩, date, tags⟩
    exact (days n given).2 t (moves.mem_iff.mp member)
  · intro e set
    obtain ⟨⟨n, given, positive, last⟩, versions⟩ := legal.noncurrentExpiration e set
    refine ⟨⟨n, given, positive, fun t member => ?_⟩, versions⟩
    exact last t (noncurrentPerm.mem_iff.mp member)
  · have emptied {α : Type} {first second : List α} (same : first.Perm second) :
        first = [] ↔ second = [] := by
      rw [← List.perm_nil, ← List.perm_nil]
      exact ⟨same.symm.trans, same.trans⟩
    have declares : rule.moves ≠ [] ∨ rule.expiration ≠ none ∨ rule.noncurrentTransitions ≠ [] ∨
      rule.noncurrentExpiration ≠ none ∨ rule.abortDays ≠ none := legal.declares
    rwa [Ne, ← emptied moves, Ne.eq_def rule.noncurrentTransitions, ← emptied noncurrentPerm] at declares

/-- Nor does the plan of a legal rule. -/
theorem IsLegal.plan_withMoves (legal : rule.IsLegal) (name : String) :
    (rule.withMoves transitions noncurrentTransitions).plan name = rule.plan name := by
  have moved := legal.withMoves perm noncurrentPerm
  have steps : (rule.withMoves transitions noncurrentTransitions).steps = rule.steps :=
    Step.ordered_eq_of_perm (perm.map Transition.toNoncurrent) legal.steps_descend moved.steps_descend
  have noncurrentSteps : (rule.withMoves transitions noncurrentTransitions).noncurrentSteps =
      rule.noncurrentSteps :=
    Step.ordered_eq_of_perm noncurrentPerm legal.noncurrentSteps_descend moved.noncurrentSteps_descend
  rw [plan, plan, moved.actions_eq, legal.actions_eq, steps, noncurrentSteps]
  rfl

end

/-- A rule that is planned without an error has its items as its actions, each once: the moves by
ascending days and down the waterfall, and the end of the objects after them, first for current and then
for replaced objects. In which order the moves are listed makes no difference. -/
theorem plan_isSortedInto {log : Log} {name : String} {scope : Scope} {versioned : Bool}
    (accepted : (log.record (rule.findings name scope versioned)).hasErrors = false) :
    (∃ moves noncurrentMoves, rule.IsSortedInto moves noncurrentMoves (rule.plan name).actions) ∧
    ∀ transitions noncurrentTransitions, transitions.Perm rule.transitions →
      noncurrentTransitions.Perm rule.noncurrentTransitions →
      (log.record ((rule.withMoves transitions noncurrentTransitions).findings name scope
        versioned)).hasErrors = false ∧
      (rule.withMoves transitions noncurrentTransitions).plan name = rule.plan name := by
  obtain ⟨clean, passes⟩ := (log.hasErrors_record_eq_false _).mp accepted
  have legal := passes_findings.mp passes
  refine ⟨⟨_, _, legal.isSortedInto⟩, fun transitions noncurrentTransitions perm noncurrentPerm => ?_⟩
  have moved := legal.withMoves perm noncurrentPerm
  refine ⟨?_, legal.plan_withMoves perm noncurrentPerm name⟩
  exact (log.hasErrors_record_eq_false _).mpr ⟨clean, passes_findings.mpr moved⟩

/-- Reports that move on twice before they are deleted, with older versions that move on as well; all
moves are listed in the wrong order. -/
def agingReports : LifecycleRule where
  transitions := [{ days := some 180, storageClass := some "GLACIER" },
    { days := some 30, storageClass := some "STANDARD_IA" }]
  expiration := some { days := some 365 }
  noncurrentTransitions :=
    [{ days := some 60, storageClass := some "DEEP_ARCHIVE", newerVersions := some 2 },
      { days := some 7, storageClass := some "GLACIER_IR" }]
  noncurrentExpiration := some { days := some 90, newerVersions := some 5 }
  abortDays := some 3

theorem agingReports_isLegal : agingReports.IsLegal where
  filter := nofun
  moves := by decide
  noncurrentMoves := by decide
  descent := by decide
  noncurrentDescent := by decide
  expiration := by
    rintro _ ⟨⟩
    exact ⟨rfl, by decide, nofun, nofun⟩
  noncurrentExpiration := by
    rintro _ ⟨⟩
    exact ⟨by decide, by decide⟩
  abort := by decide
  declares := by decide

theorem agingReports_isSortedInto :
    (∃ moves noncurrentMoves,
      agingReports.IsSortedInto moves noncurrentMoves (agingReports.plan "aging").actions) ∧
    agingReports.transitions.reverse.Perm agingReports.transitions ∧
    (agingReports.withMoves agingReports.transitions.reverse
      agingReports.noncurrentTransitions.reverse).plan "aging" = agingReports.plan "aging" := by
  have accepted : (Log.record [] (agingReports.findings "aging" { area := "lifecycle_rules" }
      true)).hasErrors = false :=
    (Log.hasErrors_record_eq_false _ _).mpr ⟨rfl, passes_findings.mpr agingReports_isLegal⟩
  obtain ⟨sorted, reordered⟩ := plan_isSortedInto accepted
  have reversed := agingReports.transitions.reverse_perm
  have noncurrentReversed := agingReports.noncurrentTransitions.reverse_perm
  exact ⟨sorted, reversed, (reordered _ _ reversed noncurrentReversed).2⟩

end LifecycleRule

end BucketPlan
