import BucketPlan.Proofs.Lifecycle.Actions
import BucketPlan.Proofs.Rendered.Actions
import BucketPlan.Proofs.Shape.Reported

namespace BucketPlan

section

variable {plan : LifecyclePlan} {members : LifecycleMembers}

theorem LifecyclePlan.request_eq (made : LifecycleMembers.ofActions plan.actions = .ok members) :
    plan.request = .ok (.record ([("ID", .str plan.name), ("Status", statusText plan.enabled),
      ("Filter", plan.filter.request)] ++ members.fields)) := by
  rw [request, bind_of_ok made]
  rfl

/-- A request has under each member what it has been filled in with. -/
theorem LifecycleMember.itemsIn_request {request : Value}
    (made : LifecycleMembers.ofActions plan.actions = .ok members)
    (rendered : plan.request = .ok request) (member : LifecycleMember) :
    member.itemsIn request = members.items member := by
  cases (LifecyclePlan.request_eq made).symm.trans rendered
  have set (item : Option Value) : (item.map plain).toList = item.toList := by cases item <;> rfl
  cases member with
  | transitions =>
    exact Value.itemsAt_record (by simp [LifecycleMembers.fields, LifecycleMembers.items, name])
  | noncurrentTransitions =>
    exact Value.itemsAt_record (by simp [LifecycleMembers.fields, LifecycleMembers.items, name])
  | expiration =>
    simp [itemsIn, isList, name, LifecycleMembers.fields, LifecycleMembers.items, set]
  | noncurrentExpiration =>
    simp [itemsIn, isList, name, LifecycleMembers.fields, LifecycleMembers.items, set]
  | abort => simp [itemsIn, isList, name, LifecycleMembers.fields, LifecycleMembers.items, set]

end

/-- Parts of which each fits its member are what the members state of all of them together. -/
theorem LifecycleMember.actionsOf_flatMap {part : LifecycleMember → List LifecycleAction}
    (fits : ∀ member, ∀ action ∈ part member, action.Fits member) (member : LifecycleMember) :
    member.actionsOf (all.flatMap part) = part member := by
  have own : member.actionsOf (part member) = part member :=
    List.filter_eq_self.mpr fun action inPart => decide_eq_true (fits member action inPart).ofKind?
  have none (other : LifecycleMember) (apart : other ≠ member) : member.actionsOf (part other) = [] := by
    refine List.filter_eq_nil_iff.mpr fun action inPart same => ?_
    have found := (fits other action inPart).ofKind?.symm.trans (of_decide_eq_true same)
    exact apart (Option.some.inj found)
  simp only [all, List.flatMap_cons, List.flatMap_nil, List.append_nil, actionsOf_append]
  cases member <;> simp [own, none]

theorem Expiration.IsLegal.fits {e : Expiration} {transitions : List NoncurrentTransition}
    {hasTags : Bool} (legal : e.IsLegal transitions hasTags) : e.action.Fits .expiration := by
  unfold action
  rcases legal.sets_one with ⟨n, days, date, cleans⟩ | ⟨text, days, date, cleans⟩ |
    ⟨days, date, cleans⟩
  · rw [days, date, cleans]
    exact .expireAfter n
  · obtain ⟨_, parsed⟩ := legal.date text date
    rw [days, date, cleans]
    exact .expireOn parsed
  · rw [days, date, cleans]
    exact .expireDeleteMarkers

namespace LifecycleRule

/-- The actions of a rule that one member of its request states. -/
def part (rule : LifecycleRule) : LifecycleMember → List LifecycleAction
  | .transitions => rule.steps.map Step.move
  | .expiration => rule.expiration.toList.map Expiration.action
  | .noncurrentTransitions => rule.noncurrentSteps.map Step.noncurrentMove
  | .noncurrentExpiration => rule.noncurrentExpiration.toList.map NoncurrentExpiration.action
  | .abort => rule.abortDays.toList.map abortAction

variable {rule : LifecycleRule} {member : LifecycleMember}

theorem IsLegal.actions_eq_flatMap (legal : rule.IsLegal) :
    rule.actions = LifecycleMember.all.flatMap rule.part := by
  rw [legal.actions_eq]
  simp only [LifecycleMember.all, List.flatMap_cons, List.flatMap_nil, List.append_nil,
    List.append_assoc]
  rfl

theorem IsLegal.fits_part (legal : rule.IsLegal) : ∀ action ∈ rule.part member, action.Fits member := by
  intro action inPart
  cases member with
  | transitions =>
    obtain ⟨step, _, rfl⟩ := List.mem_map.mp inPart
    exact .transition _ _
  | expiration =>
    obtain ⟨e, set, rfl⟩ := List.mem_map.mp inPart
    exact (legal.expiration e (Option.mem_toList.mp set)).fits
  | noncurrentTransitions =>
    obtain ⟨step, _, rfl⟩ := List.mem_map.mp inPart
    exact .noncurrentTransition _ _ _
  | noncurrentExpiration =>
    obtain ⟨e, _, rfl⟩ := List.mem_map.mp inPart
    exact .noncurrentExpire _ _
  | abort =>
    obtain ⟨days, _, rfl⟩ := List.mem_map.mp inPart
    exact .abortUpload _

theorem length_part_le (single : member.isList = false) : (rule.part member).length ≤ 1 := by
  cases member with
  | transitions => cases single
  | noncurrentTransitions => cases single
  | expiration => cases given : rule.expiration <;> simp [part, given]
  | noncurrentExpiration => cases given : rule.noncurrentExpiration <;> simp [part, given]
  | abort => cases given : rule.abortDays <;> simp [part, given]

theorem IsLegal.actionsOf_actions (legal : rule.IsLegal) :
    (member.actionsOf rule.actions) = rule.part member := by
  rw [legal.actions_eq_flatMap]
  exact LifecycleMember.actionsOf_flatMap (fun _ => legal.fits_part) member

theorem IsLegal.fits_actions (legal : rule.IsLegal) :
    ∀ action ∈ rule.actions, ∃ member, action.Fits member := by
  intro action inRule
  rw [legal.actions_eq_flatMap] at inRule
  obtain ⟨member, _, inPart⟩ := List.mem_flatMap.mp inRule
  exact ⟨member, legal.fits_part action inPart⟩

/-- A legal rule never asks twice for what a request can state once. -/
theorem IsLegal.length_actionsOf_le (legal : rule.IsLegal) (single : member.isList = false) :
    (member.actionsOf rule.actions).length ≤ 1 := by
  rw [legal.actionsOf_actions]
  exact length_part_le single

end LifecycleRule

namespace LifecycleMembers

variable {members : LifecycleMembers} {actions : List LifecycleAction}

/-- What is read from members that hold some actions are these actions, member by member. -/
theorem Holds.forall₂_read (holds : members.Holds actions) {itemsIn : LifecycleMember → List Value}
    (same : ∀ member, itemsIn member = members.items member) :
    List.Forall₂ LifecycleAction.IsStatedAs (LifecycleMember.all.flatMap (·.actionsOf actions))
      (LifecycleMember.all.flatMap fun member => (itemsIn member).map member.read) := by
  refine forall₂_flatMap fun member _ => ?_
  rw [same, List.forall₂_map_right_iff]
  exact holds member

end LifecycleMembers

namespace LifecycleRule

variable {rule : LifecycleRule}

/-- The request for a rule that is planned without an error states the actions of the plan, in their
order, and on the way there no action overwrites what another one has stated. -/
theorem request_states_actions {log : Log} {name : String} {scope : Scope} {versioned : Bool}
    (accepted : (log.record (rule.findings name scope versioned)).hasErrors = false) :
    ∃ request, (rule.plan name).request = .ok request ∧
      List.Forall₂ LifecycleAction.IsStatedAs (rule.plan name).actions
        (StatedAction.ofRequest request) ∧
      ∀ earlier action later, (rule.plan name).actions = earlier ++ action :: later →
        ∃ before after member, LifecycleMembers.ofActions earlier = .ok before ∧
          before.add action = .ok after ∧ before.Gains after action member := by
  have legal := passes_findings.mp ((log.hasErrors_record_eq_false _).mp accepted).2
  have few (member : LifecycleMember) (single : member.isList = false) :
      (member.actionsOf rule.actions).length ≤ 1 := legal.length_actionsOf_le single
  obtain ⟨members, made, holds⟩ := LifecycleMembers.ofActions_holds legal.fits_actions few
  have rendered : (rule.plan name).request = .ok _ := LifecyclePlan.request_eq made
  refine ⟨_, rendered, ?_, fun earlier action later split => ?_⟩
  · have read := holds.forall₂_read (LifecycleMember.itemsIn_request made rendered)
    have parts : (LifecycleMember.all.flatMap fun member => member.actionsOf rule.actions) =
        rule.actions := by
      rw [funext fun _ => legal.actionsOf_actions, ← legal.actions_eq_flatMap]
    rw [parts] at read
    exact read
  · exact LifecycleMembers.ofActions_gains legal.fits_actions few split

/-- Reports that age until they are dropped on a date. -/
def retiredReports : LifecycleRule :=
  { agingReports with expiration := some { date := some "2030-01-31" } }

theorem retiredReports_isLegal : retiredReports.IsLegal :=
  { agingReports_isLegal with
    expiration := by
      rintro _ ⟨⟩
      refine ⟨rfl, nofun, ?_, nofun⟩
      rintro _ ⟨⟩
      exact ⟨⟨2030, 1, 31⟩, by decide +kernel⟩
    declares := by decide }

theorem retiredReports_request_states_actions :
    ∃ request, (retiredReports.plan "retired").request = .ok request ∧
      List.Forall₂ LifecycleAction.IsStatedAs (retiredReports.plan "retired").actions
        (StatedAction.ofRequest request) ∧
      (retiredReports.plan "retired").actions.length = 7 := by
  have accepted : (Log.record [] (retiredReports.findings "retired" { area := "lifecycle_rules" }
      true)).hasErrors = false :=
    (Log.hasErrors_record_eq_false _ _).mpr ⟨rfl, passes_findings.mpr retiredReports_isLegal⟩
  obtain ⟨request, rendered, stated, _⟩ := request_states_actions accepted
  refine ⟨request, rendered, stated, ?_⟩
  simp only [plan, actions, List.length_append, List.length_map, steps, noncurrentSteps, Step.ordered,
    List.length_mergeSort]
  decide

end LifecycleRule

end BucketPlan
