import BucketPlan.Proofs.Removal.Value

namespace BucketPlan

theorem rel_refl {α : Type} {related : α → α → Prop} (refl : ∀ item, related item item)
    (given : Option α) : Option.Rel related given given := by
  cases given with
  | none => exact .none
  | some item => exact .some (refl item)

theorem rel_map_map {α β : Type} {related : α → α → Prop} {related' : β → β → Prop} {f : α → β}
    {first second : Option α} (rel : Option.Rel related first second)
    (each : ∀ a b, related a b → related' (f a) (f b)) :
    Option.Rel related' (first.map f) (second.map f) := by
  cases rel with
  | none => exact .none
  | some own => exact .some (each _ _ own)

theorem isSome_eq_of_rel {α : Type} {related : α → α → Prop} {first second : Option α}
    (rel : Option.Rel related first second) : second.isSome = first.isSome := by
  cases rel <;> rfl

/-- Notifications with some of their destinations. -/
structure Notifications.IsReducedTo (whole part : Notifications) : Prop where
  destinations : whole.destinations.Includes part.destinations
  eventBridge : part.eventBridge = whole.eventBridge

/-- A replication with some of its rules. -/
structure Replication.IsReducedTo (whole part : Replication) : Prop where
  role : part.role = whole.role
  rules : whole.rules.Includes part.rules

/-- A description with some of its tags, rules and destinations, and with all else that it had. -/
structure Descriptor.IsReducedTo (d r : Descriptor) : Prop where
  tags : d.tags.Includes r.tags
  corsRules : r.corsRules.Sublist d.corsRules
  notifications : Option.Rel Notifications.IsReducedTo d.notifications r.notifications
  lifecycleRules : d.lifecycleRules.Includes r.lifecycleRules
  replication : Option.Rel Replication.IsReducedTo d.replication r.replication
  inventoryRules : d.inventoryRules.Includes r.inventoryRules
  tieringRules : d.tieringRules.Includes r.tieringRules
  others : r = { d with
    tags := r.tags
    corsRules := r.corsRules
    notifications := r.notifications
    lifecycleRules := r.lifecycleRules
    replication := r.replication
    inventoryRules := r.inventoryRules
    tieringRules := r.tieringRules }

namespace Notifications

theorem IsReducedTo.refl (n : Notifications) : n.IsReducedTo n :=
  ⟨.refl _, rfl⟩

theorem IsReducedTo.resolve {whole part : Notifications} (reduced : whole.IsReducedTo part) :
    whole.resolve.IsReducedTo part.resolve := by
  refine ⟨reduced.destinations, ?_⟩
  rw [Notifications.resolve, Notifications.resolve, reduced.eventBridge]

theorem isReducedTo_ofValue {v w : Value} (left : (Shape.optional shape).LeavesOut v w)
    (distinct : (v.get "destinations").names.Nodup) :
    Option.Rel IsReducedTo (v.record? ofValue) (w.record? ofValue) := by
  refine left.record? IsReducedTo.refl fun members => ?_
  obtain ⟨⟨_, destinations⟩, eventBridge, _⟩ := members
  exact ⟨destinations.includes_keyed distinct, eventBridge.bool?⟩

end Notifications

namespace Replication

theorem IsReducedTo.refl (replication : Replication) : replication.IsReducedTo replication :=
  ⟨rfl, .refl _⟩

theorem IsReducedTo.resolve {whole part : Replication} (reduced : whole.IsReducedTo part) :
    whole.resolve.IsReducedTo part.resolve :=
  ⟨reduced.role, reduced.rules.mapValues _⟩

theorem isReducedTo_ofValue {v w : Value} (left : (Shape.optional shape).LeavesOut v w)
    (distinct : (v.get "rules").names.Nodup) :
    Option.Rel IsReducedTo (v.record? ofValue) (w.record? ofValue) := by
  refine left.record? IsReducedTo.refl fun members => ?_
  obtain ⟨role, ⟨_, rules⟩, _⟩ := members
  exact ⟨role.text?, rules.includes_keyed distinct⟩

end Replication

/-- In each of the maps whose entries stand on their own, these have names of their own. -/
structure Value.HasDistinctNames (value : Value) : Prop where
  tags : (value.get "tags").names.Nodup
  lifecycleRules : (value.get "lifecycle_rules").names.Nodup
  inventoryRules : (value.get "inventory_rules").names.Nodup
  tieringRules : (value.get "intelligent_tiering_rules").names.Nodup
  replicationRules : ((value.get "replication").get "rules").names.Nodup
  destinations : ((value.get "notifications").get "destinations").names.Nodup

namespace Descriptor

variable {d r : Descriptor}

theorem IsReducedTo.refl (d : Descriptor) : d.IsReducedTo d where
  tags := .refl _
  corsRules := .refl _
  notifications := rel_refl Notifications.IsReducedTo.refl _
  lifecycleRules := .refl _
  replication := rel_refl Replication.IsReducedTo.refl _
  inventoryRules := .refl _
  tieringRules := .refl _
  others := rfl

/-- A value with entries left out is read as a description without them. -/
theorem isReducedTo_ofValue {v w : Value} (left : shape.LeavesOut v w)
    (distinct : v.HasDistinctNames) : (ofValue v).IsReducedTo (ofValue w) := by
  rcases left.cases_record with ⟨_, _, members⟩ | ⟨_, rfl⟩
  · obtain ⟨name, owner, ⟨_, tags⟩, versioning, lockEnabled, objectLock, encryption, publicAccess,
      ownership, requesterPays, acceleration, policy, ⟨_, corsRules⟩, website, notifications,
      ⟨_, lifecycleRules⟩, replication, ⟨_, inventoryRules⟩, ⟨_, tieringRules⟩, _⟩ := members
    refine ⟨tags.includes_keyed distinct.tags, corsRules.records_sublist,
      Notifications.isReducedTo_ofValue notifications distinct.destinations,
      lifecycleRules.includes_keyed distinct.lifecycleRules,
      Replication.isReducedTo_ofValue replication distinct.replicationRules,
      inventoryRules.includes_keyed distinct.inventoryRules,
      tieringRules.includes_keyed distinct.tieringRules, ?_⟩
    simp only [ofValue, name.text?, owner.text?, versioning.bool?, lockEnabled.bool?,
      objectLock.eq_of_isEntryless rfl rfl, encryption.eq_of_isEntryless rfl rfl,
      publicAccess.eq_of_isEntryless rfl rfl, ownership.text?, requesterPays.bool?, acceleration.bool?,
      policy.text?, website.eq_of_isEntryless rfl rfl]
  · exact .refl _

theorem IsReducedTo.versioning_eq (reduced : d.IsReducedTo r) : r.versioning = d.versioning := by
  rw [reduced.others]

theorem IsReducedTo.encryption_eq (reduced : d.IsReducedTo r) : r.encryption = d.encryption := by
  rw [reduced.others]

/-- What is left out of a description is left out of the resolved one, and nothing else is resolved
differently for it. -/
theorem IsReducedTo.resolve (reduced : d.IsReducedTo r) : d.resolve.IsReducedTo r.resolve where
  tags := reduced.tags
  corsRules := reduced.corsRules
  notifications := rel_map_map reduced.notifications fun _ _ => Notifications.IsReducedTo.resolve
  lifecycleRules := reduced.lifecycleRules
  replication := rel_map_map reduced.replication fun _ _ => Replication.IsReducedTo.resolve
  inventoryRules := reduced.inventoryRules.mapValues _
  tieringRules := reduced.tieringRules
  others := by
    -- a replication brings versioning with it, however many rules it has
    have replicated := isSome_eq_of_rel reduced.replication
    rw [Descriptor.resolve, Descriptor.resolve, replicated, reduced.others]

end Descriptor

end BucketPlan
