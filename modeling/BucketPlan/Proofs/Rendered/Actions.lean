import Mathlib.Data.List.Induction
import BucketPlan.Lifecycle.Request
import BucketPlan.Proofs.Recovery.Plain
import BucketPlan.Proofs.Rendered.Announcements

namespace BucketPlan

def Value.moment? : Value → Option Date
  | .moment date => some date
  | _ => none

/-- An action as it is read from a request, where a date has become the midnight it stands for. -/
structure StatedAction where
  kind : LifecycleAction.Kind
  days : Option Int := none
  storageClass : Option String := none
  date : Option Date := none
  newerVersions : Option Int := none
deriving DecidableEq

structure LifecycleAction.IsStatedAs (action : LifecycleAction) (stated : StatedAction) : Prop where
  kind : stated.kind = action.kind
  days : stated.days = action.days
  storageClass : stated.storageClass = action.storageClass
  date : stated.date.map Except.ok = action.date.map Date.parse
  newerVersions : stated.newerVersions = action.newerVersions

/-- The members of a lifecycle request that state actions. -/
inductive LifecycleMember where
  | transitions
  | expiration
  | noncurrentTransitions
  | noncurrentExpiration
  | abort
deriving DecidableEq

namespace LifecycleMember

/-- The members in the order in which a request is read. -/
def all : List LifecycleMember :=
  [transitions, expiration, noncurrentTransitions, noncurrentExpiration, abort]

def name : LifecycleMember → String
  | transitions => "Transitions"
  | expiration => "Expiration"
  | noncurrentTransitions => "NoncurrentVersionTransitions"
  | noncurrentExpiration => "NoncurrentVersionExpiration"
  | abort => "AbortIncompleteMultipartUpload"

/-- Whether a member states any number of actions. The others are set by one, and set anew by the next. -/
def isList : LifecycleMember → Bool
  | transitions => true
  | noncurrentTransitions => true
  | _ => false

def ofKind? : LifecycleAction.Kind → Option LifecycleMember
  | .transition => some transitions
  | .expire => some expiration
  | .expireDeleteMarkers => some expiration
  | .noncurrentTransition => some noncurrentTransitions
  | .noncurrentExpire => some noncurrentExpiration
  | .abortUpload => some abort
  | .unknown _ => none

/-- Those of some actions that a member states. -/
def actionsOf (member : LifecycleMember) (actions : List LifecycleAction) : List LifecycleAction :=
  actions.filter fun action => ofKind? action.kind = some member

def itemsIn (member : LifecycleMember) (request : Value) : List Value :=
  if member.isList then request.itemsAt [member.name] else (request.member? member.name).toList

/-- The action that an item states under a member. -/
def read (member : LifecycleMember) (item : Value) : StatedAction :=
  let number (name : String) := (item.member? name).bind Value.int?
  let storageClass := (item.member? "StorageClass").bind Value.text?
  match member with
  | transitions => { kind := .transition, days := number "Days", storageClass }
  | expiration =>
    { kind := if (item.member? "ExpiredObjectDeleteMarker").bind Value.bool? = some true
        then .expireDeleteMarkers else .expire
      days := number "Days"
      date := (item.member? "Date").bind Value.moment? }
  | noncurrentTransitions =>
    { kind := .noncurrentTransition, days := number "NoncurrentDays", storageClass
      newerVersions := number "NewerNoncurrentVersions" }
  | noncurrentExpiration =>
    { kind := .noncurrentExpire, days := number "NoncurrentDays"
      newerVersions := number "NewerNoncurrentVersions" }
  | abort => { kind := .abortUpload, days := number "DaysAfterInitiation" }

end LifecycleMember

/-- The actions that a lifecycle request states, member by member. -/
def StatedAction.ofRequest (request : Value) : List StatedAction :=
  LifecycleMember.all.flatMap fun member => (member.itemsIn request).map member.read

/-- The actions that a member can state, in the forms in which rules ask for them. -/
inductive LifecycleAction.Fits : LifecycleAction → LifecycleMember → Prop
  | transition (days : Option Int) (storageClass : Option String) :
      Fits { kind := .transition, days, storageClass } .transitions
  | expireAfter (days : Int) : Fits { kind := .expire, days := some days } .expiration
  | expireOn {text : String} {date : Date} (parsed : Date.parse text = .ok date) :
      Fits { kind := .expire, date := some text } .expiration
  | expireDeleteMarkers : Fits { kind := .expireDeleteMarkers } .expiration
  | noncurrentTransition (days : Option Int) (storageClass : Option String)
      (newerVersions : Option Int) :
      Fits { kind := .noncurrentTransition, days, storageClass, newerVersions } .noncurrentTransitions
  | noncurrentExpire (days newerVersions : Option Int) :
      Fits { kind := .noncurrentExpire, days, newerVersions } .noncurrentExpiration
  | abortUpload (days : Option Int) : Fits { kind := .abortUpload, days } .abort

theorem LifecycleAction.Fits.ofKind? {action : LifecycleAction} {member : LifecycleMember}
    (fits : action.Fits member) : LifecycleMember.ofKind? action.kind = some member := by
  cases fits <;> rfl

namespace LifecycleMember

variable {action : LifecycleAction} {actions : List LifecycleAction} {member other : LifecycleMember}

theorem actionsOf_append (first second : List LifecycleAction) :
    member.actionsOf (first ++ second) = member.actionsOf first ++ member.actionsOf second :=
  List.filter_append first second

theorem actionsOf_concat (fits : action.Fits member) :
    member.actionsOf (actions ++ [action]) = member.actionsOf actions ++ [action] := by
  have own : member.actionsOf [action] = [action] :=
    List.filter_cons_of_pos (decide_eq_true fits.ofKind?)
  rw [actionsOf_append, own]

theorem actionsOf_concat_of_ne (fits : action.Fits member) (apart : other ≠ member) :
    other.actionsOf (actions ++ [action]) = other.actionsOf actions := by
  have elsewhere : ¬ofKind? action.kind = some other := by
    rw [fits.ofKind?, Option.some.injEq]
    exact apart.symm
  have none : other.actionsOf [action] = [] :=
    List.filter_cons_of_neg (mt of_decide_eq_true elsewhere)
  rw [actionsOf_append, none, List.append_nil]

theorem length_actionsOf_le (earlier later : List LifecycleAction) :
    (member.actionsOf earlier).length ≤ (member.actionsOf (earlier ++ later)).length := by
  rw [actionsOf_append, List.length_append]
  exact Nat.le_add_right _ _

end LifecycleMember

namespace LifecycleMembers

/-- What has been filled in under a member so far. -/
def items (members : LifecycleMembers) : LifecycleMember → List Value
  | .transitions => members.transitions
  | .expiration => members.expiration.toList
  | .noncurrentTransitions => members.noncurrentTransitions
  | .noncurrentExpiration => members.noncurrentExpiration.toList
  | .abort => members.abort.toList

/-- What filling in an item does to the members: lists grow, and everything else is set. -/
def put (members : LifecycleMembers) (item : Value) : LifecycleMember → LifecycleMembers
  | .transitions => { members with transitions := members.transitions ++ [item] }
  | .expiration => { members with expiration := some item }
  | .noncurrentTransitions =>
    { members with noncurrentTransitions := members.noncurrentTransitions ++ [item] }
  | .noncurrentExpiration => { members with noncurrentExpiration := some item }
  | .abort => { members with abort := some item }

/-- One action more: its member has a further item, which states it, and the rest is as it was. -/
structure Gains (before after : LifecycleMembers) (action : LifecycleAction)
    (member : LifecycleMember) : Prop where
  own : ∃ item, after.items member = before.items member ++ [item] ∧
    action.IsStatedAs (member.read item)
  others : ∀ other, other ≠ member → after.items other = before.items other

/-- Members that hold some actions and nothing else, in their order. -/
def Holds (members : LifecycleMembers) (actions : List LifecycleAction) : Prop :=
  ∀ member, List.Forall₂ (fun action item => action.IsStatedAs (LifecycleMember.read member item))
    (member.actionsOf actions) (members.items member)

variable {before after members : LifecycleMembers} {action : LifecycleAction}
  {member other : LifecycleMember} {actions : List LifecycleAction} {item : Value}

theorem items_put_self (room : member.isList = false → before.items member = []) :
    (before.put item member).items member = before.items member ++ [item] := by
  cases member with
  | transitions => rfl
  | noncurrentTransitions => rfl
  | expiration => rw [room rfl]; rfl
  | noncurrentExpiration => rw [room rfl]; rfl
  | abort => rw [room rfl]; rfl

theorem items_put_of_ne (apart : other ≠ member) :
    (before.put item member).items other = before.items other := by
  cases member <;> cases other <;> first | rfl | exact absurd rfl apart

/-- An action that has a place in a request fills in an item that states it. -/
theorem add_eq_put (fits : action.Fits member) :
    ∃ item, before.add action = .ok (before.put item member) ∧
      action.IsStatedAs (member.read item) := by
  cases fits with
  | transition days storageClass =>
    refine ⟨_, rfl, ?_⟩
    constructor <;> simp [LifecycleMember.read]
  | expireAfter days =>
    refine ⟨_, rfl, ?_⟩
    constructor <;> simp [LifecycleMember.read, Value.int?]
  | @expireOn text date parsed =>
    have rendered : expirationOf { kind := .expire, date := some text } =
        .ok (.record [("Date", .moment date)]) := by
      simp only [expirationOf, parsed]
    refine ⟨.record [("Date", .moment date)], ?_, ?_⟩
    · simp only [add, rendered]
      rfl
    · constructor <;> simp [LifecycleMember.read, Value.moment?, parsed]
  | expireDeleteMarkers =>
    refine ⟨_, rfl, ?_⟩
    constructor <;> simp [LifecycleMember.read, Value.bool?]
  | noncurrentTransition days storageClass newerVersions =>
    have read : (newerVersions.map Value.int).bind Value.int? = newerVersions := by
      cases newerVersions <;> rfl
    refine ⟨_, rfl, ?_⟩
    constructor <;> simp [LifecycleMember.read, read]
  | noncurrentExpire days newerVersions =>
    have read : (newerVersions.map Value.int).bind Value.int? = newerVersions := by
      cases newerVersions <;> rfl
    refine ⟨_, rfl, ?_⟩
    constructor <;> simp [LifecycleMember.read, read]
  | abortUpload days =>
    refine ⟨_, rfl, ?_⟩
    constructor <;> simp [LifecycleMember.read]

/-- Nothing is overwritten by an action whose member is a list or has not been set yet. -/
theorem add_gains (fits : action.Fits member) (room : member.isList = false → before.items member = []) :
    ∃ after, before.add action = .ok after ∧ before.Gains after action member := by
  obtain ⟨item, added, stated⟩ := before.add_eq_put fits
  exact ⟨_, added, ⟨item, items_put_self room, stated⟩, fun _ apart => items_put_of_ne apart⟩

theorem Holds.gain (holds : before.Holds actions) (gains : before.Gains after action member)
    (fits : action.Fits member) : after.Holds (actions ++ [action]) := by
  intro other
  obtain ⟨⟨item, own, stated⟩, others⟩ := gains
  by_cases same : other = member
  · subst same
    rw [LifecycleMember.actionsOf_concat fits, own]
    exact List.rel_append (holds other) (.cons stated .nil)
  · rw [LifecycleMember.actionsOf_concat_of_ne fits same, others other same]
    exact holds other

/-- There is room for one action more, unless another one has set its member already. -/
theorem Holds.room (holds : before.Holds actions) (fits : action.Fits member)
    (few : member.isList = false → (member.actionsOf (actions ++ [action])).length ≤ 1) :
    member.isList = false → before.items member = [] := by
  intro single
  have atMost := few single
  rw [LifecycleMember.actionsOf_concat fits, List.length_append, List.length_singleton] at atMost
  have held := (holds member).length_eq
  have none : (before.items member).length = 0 := by omega
  exact List.length_eq_zero_iff.mp none

section

variable (fits : ∀ action ∈ actions, ∃ member, action.Fits member)
  (few : ∀ member : LifecycleMember, member.isList = false → (member.actionsOf actions).length ≤ 1)

include fits few

/-- Actions that have a place in a request and do not compete for it are all held in the end. -/
theorem ofActions_holds : ∃ members, ofActions actions = .ok members ∧ members.Holds actions := by
  induction actions using List.reverseRecOn with
  | nil => exact ⟨{}, rfl, fun member => by cases member <;> exact .nil⟩
  | append_singleton earlier action ih =>
    obtain ⟨fitting, own⟩ := List.forall_mem_append.mp fits
    obtain ⟨before, made, holds⟩ := ih fitting fun member single =>
      (LifecycleMember.length_actionsOf_le earlier [action]).trans (few member single)
    obtain ⟨member, fits⟩ := own action (List.mem_singleton_self action)
    obtain ⟨after, added, gains⟩ := add_gains fits (holds.room fits (few member))
    refine ⟨after, ?_, holds.gain gains fits⟩
    rw [ofActions] at made
    rw [ofActions, List.foldlM_append, bind_of_ok made, List.foldlM_cons, bind_of_ok added]
    rfl

/-- On the way there, each of them adds to the members and overwrites nothing. -/
theorem ofActions_gains {earlier later : List LifecycleAction}
    (split : actions = earlier ++ action :: later) :
    ∃ before after member, ofActions earlier = .ok before ∧ before.add action = .ok after ∧
      before.Gains after action member := by
  subst split
  obtain ⟨fitting, others⟩ := List.forall_mem_append.mp fits
  obtain ⟨member, fits⟩ := others action List.mem_cons_self
  obtain ⟨before, made, holds⟩ := ofActions_holds fitting fun member single =>
    (LifecycleMember.length_actionsOf_le earlier _).trans (few member single)
  have room := holds.room fits fun single => by
    have atMost := few member single
    rw [List.append_cons] at atMost
    exact (LifecycleMember.length_actionsOf_le _ later).trans atMost
  obtain ⟨after, added, gains⟩ := add_gains fits room
  exact ⟨before, after, member, made, added, gains⟩

end

end LifecycleMembers

end BucketPlan
