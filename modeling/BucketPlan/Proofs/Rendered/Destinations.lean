import BucketPlan.Proofs.Arranged.Destinations
import BucketPlan.Proofs.Valid.Replication

namespace BucketPlan

theorem forall₂_filterMap {α β : Type} {related : α → β → Prop} {items : List α}
    {pick : α → Option β} (picked : ∀ item ∈ items, ∃ b, pick item = some b ∧ related item b) :
    List.Forall₂ related items (items.filterMap pick) := by
  induction items with
  | nil => exact .nil
  | cons item rest ih =>
    obtain ⟨⟨b, found, fits⟩, others⟩ := List.forall_mem_cons.mp picked
    rw [List.filterMap_cons_some found]
    exact .cons fits (ih others)

section

variable {α : Type} [BEq α] [LawfulBEq α]

/-- What comes first among the items that are picked comes first among all of them. -/
theorem idxOf_lt_of_filter {items : List α} {picked : α → Bool} {a b : α} (own : picked a = true)
    (other : picked b = true)
    (earlier : (items.filter picked).idxOf a < (items.filter picked).idxOf b) :
    items.idxOf a < items.idxOf b := by
  induction items with
  | nil => exact absurd earlier (Nat.lt_irrefl _)
  | cons item rest ih =>
    by_cases first : picked item = true
    · rw [List.filter_cons_of_pos first] at earlier
      by_cases last : item = b
      · rw [last, List.idxOf_cons_self] at earlier
        exact absurd earlier (Nat.not_lt_zero _)
      · by_cases same : item = a
        · rw [same, List.idxOf_cons_self, List.idxOf_cons_ne _ (same ▸ last)]
          exact Nat.succ_pos _
        · rw [List.idxOf_cons_ne _ same, List.idxOf_cons_ne _ last] at earlier ⊢
          exact Nat.succ_lt_succ (ih (Nat.lt_of_succ_lt_succ earlier))
    · rw [List.filter_cons_of_neg first] at earlier
      have apart {c : α} (member : picked c = true) : item ≠ c := fun same => first (same ▸ member)
      rw [List.idxOf_cons_ne _ (apart own), List.idxOf_cons_ne _ (apart other)]
      exact Nat.succ_lt_succ (ih earlier)

/-- Items without their repetitions stand in the order in which they first occur. -/
theorem pairwise_idxOf_eraseDups (items : List α) :
    items.eraseDups.Pairwise fun a b => items.idxOf a < items.idxOf b := by
  cases items with
  | nil => exact .nil
  | cons item rest =>
    -- what is left of the others is not the rest of the list, but a shorter one all the same
    let others := rest.filter fun other => !other == item
    have ordered := pairwise_idxOf_eraseDups others
    have kept {other : α} (member : other ∈ others.eraseDups) : (!other == item) = true :=
      (List.mem_filter.mp (List.mem_eraseDups.mp member)).2
    have differs {other : α} (member : other ∈ others.eraseDups) : item ≠ other := by
      rintro rfl
      simpa using kept member
    rw [List.eraseDups_cons, List.pairwise_cons]
    refine ⟨fun other member => ?_, ordered.imp_of_mem fun first second earlier => ?_⟩
    · rw [List.idxOf_cons_self, List.idxOf_cons_ne _ (differs member)]
      exact Nat.succ_pos _
    · rw [List.idxOf_cons_ne _ (differs first), List.idxOf_cons_ne _ (differs second)]
      exact Nat.succ_lt_succ (idxOf_lt_of_filter (kept first) (kept second) earlier)
termination_by items.length
decreasing_by exact Nat.lt_succ_of_le (List.length_filter_le _ _)

end

/-- A subscription as it stands in a plan: for the same keys, with each event where it first occurs. -/
structure Subscription.IsPlannedAs (given planned : Subscription) : Prop where
  events : ∀ event, event ∈ planned.events ↔ event ∈ given.events
  ordered : planned.events.Pairwise fun a b => given.events.idxOf a < given.events.idxOf b
  nonempty : planned.events ≠ []
  legal : ∀ event ∈ planned.events, event ∈ notificationEvents
  keyPrefix : planned.keyPrefix = given.keyPrefix
  keySuffix : planned.keySuffix = given.keySuffix

/-- A destination as it stands in a plan, with all that it subscribes to. -/
structure Notifications.IsPlannedAs (given : String × List Subscription) (planned : DestinationPlan) :
    Prop where
  address : planned.address = given.1
  kind : DestinationKind.ofAddress? given.1 = some planned.kind
  nonempty : planned.subscriptions ≠ []
  subscriptions : List.Forall₂ Subscription.IsPlannedAs given.2 planned.subscriptions

theorem Subscription.isPlannedAs_plan {s : Subscription} (nonempty : s.events ≠ [])
    (legal : ∀ event ∈ s.events, event ∈ notificationEvents) : s.IsPlannedAs s.plan := by
  have events (event : String) : event ∈ s.plan.events ↔ event ∈ s.events := List.mem_eraseDups
  obtain ⟨event, member⟩ := List.exists_mem_of_ne_nil _ nonempty
  exact ⟨events, pairwise_idxOf_eraseDups s.events, List.ne_nil_of_mem ((events event).mpr member),
    fun event member => legal event ((events event).mp member), rfl, rfl⟩

theorem Subscription.passes_findings {s : Subscription} {scope : Scope} {field : String}
    {maxKeyLength : Int} : Passes (s.findings scope field maxKeyLength) ↔
      s.events ≠ [] ∧ ∀ event ∈ s.events, event ∈ notificationEvents := by
  simp [findings]

namespace Notifications

variable {notifications : Notifications} {maxKeyLength : Int}

theorem subscribed_of_passes {destination : DestinationPlan}
    (passes : Passes (destinationFindings destination maxKeyLength)) :
    destination.subscriptions ≠ [] ∧ ∀ s ∈ destination.subscriptions,
      s.events ≠ [] ∧ ∀ event ∈ s.events, event ∈ notificationEvents := by
  obtain ⟨subscribed, each⟩ := reportsOnly_append.mp passes
  refine ⟨?_, (forall_mem_zipIdx _ _).mp fun entry member => ?_⟩
  · simpa [reportsOnly_ite] using subscribed
  · exact Subscription.passes_findings.mp (reportsOnly_flatMap.mp each entry member)

/-- All destinations are planned, in their order. -/
theorem destinations_plan (classified : Passes notifications.findings)
    (passes : Passes (notifications.planFindings maxKeyLength)) :
    List.Forall₂ IsPlannedAs notifications.destinations.entries notifications.plan.destinations := by
  rw [plan, List.forall₂_map_right_iff]
  refine forall₂_filterMap fun entry member => ?_
  obtain ⟨address, subscriptions⟩ := entry
  obtain ⟨kind, known⟩ := Option.isSome_iff_exists.mp (DestinationKind.ofAddress?_isSome_iff.mpr
    (passes_findings.mp classified address (List.mem_map_of_mem member)))
  have picked : (DestinationKind.ofAddress? address).map (⟨address, ·, subscriptions⟩) =
      some (⟨address, kind, subscriptions⟩ : DestinationPlan) := by rw [known, Option.map_some]
  have inPlan : ⟨address, kind, subscriptions⟩ ∈ notifications.classified :=
    List.mem_filterMap.mpr ⟨(address, subscriptions), member, picked⟩
  obtain ⟨subscribed, each⟩ :=
    subscribed_of_passes (reportsOnly_flatMap.mp (reportsOnly_append.mp passes).2 _ inPlan)
  refine ⟨_, picked, rfl, known, ?_, ?_⟩
  · simpa using subscribed
  · exact List.forall₂_map_right_iff.mpr (List.forall₂_same.mpr fun s own =>
      Subscription.isPlannedAs_plan (each s own).1 (each s own).2)

/-- A kind of destination is limited in a plan as it is in the description. -/
theorem KeepsLimits.ofKind_length_le (keeps : notifications.KeepsLimits) {kind : DestinationKind}
    {limit : Nat} (limited : (kind, limit) ∈ DestinationKind.limits) :
    (notifications.plan.ofKind kind).length ≤ limit := by
  have few := keeps (kind, limit) limited
  rw [addressesOf, List.length_map] at few
  rw [NotificationPlan.ofKind, plan, List.filter_map, List.length_map]
  exact few

end Notifications

end BucketPlan
