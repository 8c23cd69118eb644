import BucketPlan.Descriptor.Checks
import BucketPlan.Proofs.Arranged.Keyed

namespace BucketPlan

/-- A field that is set afterwards, and to what it was set before if it was. -/
structure IsFilledIn {α : Type} (before after : Option α) : Prop where
  isSet : after.isSome = true
  kept : ∀ value ∈ before, after = some value

theorem IsFilledIn.getD_eq {α : Type} {before after : Option α} (filled : IsFilledIn before after)
    (default : α) : some (after.getD default) = after := by
  obtain ⟨value, given⟩ := Option.isSome_iff_exists.mp filled.isSet
  rw [given, Option.getD_some]

theorem isFilledIn_getD {α : Type} (before : Option α) (default : α) :
    IsFilledIn before (some (before.getD default)) where
  isSet := rfl
  kept := by
    rintro value given
    rw [Option.mem_def.mp given, Option.getD_some]

theorem rel_map {α : Type} {related : α → α → Prop} {f : α → α} (holds : ∀ value, related value (f value))
    (before : Option α) : Option.Rel related before (before.map f) := by
  cases before with
  | none => exact .none
  | some value => exact .some (holds value)

theorem map_eq_of_rel {α : Type} {related : α → α → Prop} {f : α → α} {before after : Option α}
    (rel : Option.Rel related before after) (fixed : ∀ value full, related value full → f full = full) :
    after.map f = after := by
  cases rel with
  | none => rfl
  | some own => exact congrArg some (fixed _ _ own)

namespace Keyed

variable {α β : Type}

/-- The same names in the same order, with values that are related one by one. -/
def Pointwise (related : α → β → Prop) (map : Keyed α) (other : Keyed β) : Prop :=
  List.Forall₂ (fun entry entry' => entry'.1 = entry.1 ∧ related entry.2 entry'.2)
    map.entries other.entries

theorem pointwise_mapValues {related : α → β → Prop} {f : α → β} (map : Keyed α)
    (holds : ∀ value, related value (f value)) : map.Pointwise related (map.mapValues fun _ => f) := by
  rw [Pointwise, entries_mapValues, List.forall₂_map_right_iff, List.forall₂_same]
  exact fun entry _ => ⟨rfl, holds entry.2⟩

/-- Values that are fixed where they are related leave the whole map fixed. -/
theorem Pointwise.mapValues_eq {related : α → β → Prop} {f : β → β} {map : Keyed α} {other : Keyed β}
    (pointwise : map.Pointwise related other)
    (fixed : ∀ value full, related value full → f full = full) :
    other.mapValues (fun _ => f) = other := by
  refine eq_of_entries ?_
  rw [entries_mapValues]
  rw [Pointwise] at pointwise
  generalize map.entries = given, other.entries = complete at pointwise ⊢
  induction pointwise with
  | nil => rfl
  | cons own _ ih => rw [List.map_cons, fixed _ _ own.2, ih]

end Keyed

namespace Encryption

structure IsCompletedTo (e full : Encryption) : Prop where
  algorithm : IsFilledIn e.algorithm full.algorithm
  bucketKey : IsFilledIn e.bucketKey full.bucketKey
  others : full = { e with algorithm := full.algorithm, bucketKey := full.bucketKey }

theorem isCompletedTo_resolve (e : Option Encryption) : (e.getD {}).IsCompletedTo (resolve e) where
  algorithm := isFilledIn_getD _ _
  bucketKey := isFilledIn_getD _ _
  others := rfl

theorem IsCompletedTo.resolve_eq {e full : Encryption} (complete : e.IsCompletedTo full) :
    resolve (some full) = full := by
  simp only [resolve, Option.getD_some, complete.algorithm.getD_eq, complete.bucketKey.getD_eq]

end Encryption

namespace PublicAccess

structure IsCompletedTo (p full : PublicAccess) : Prop where
  blockAcls : IsFilledIn p.blockAcls full.blockAcls
  blockPolicy : IsFilledIn p.blockPolicy full.blockPolicy
  ignoreAcls : IsFilledIn p.ignoreAcls full.ignoreAcls
  restrictBuckets : IsFilledIn p.restrictBuckets full.restrictBuckets

theorem isCompletedTo_resolve (p : Option PublicAccess) : (p.getD {}).IsCompletedTo (resolve p) where
  blockAcls := isFilledIn_getD _ _
  blockPolicy := isFilledIn_getD _ _
  ignoreAcls := isFilledIn_getD _ _
  restrictBuckets := isFilledIn_getD _ _

theorem IsCompletedTo.resolve_eq {p full : PublicAccess} (complete : p.IsCompletedTo full) :
    resolve (some full) = full := by
  simp only [resolve, Option.getD_some, complete.blockAcls.getD_eq, complete.blockPolicy.getD_eq,
    complete.ignoreAcls.getD_eq, complete.restrictBuckets.getD_eq]

end PublicAccess

namespace Notifications

structure IsCompletedTo (n full : Notifications) : Prop where
  eventBridge : IsFilledIn n.eventBridge full.eventBridge
  others : full = { n with eventBridge := full.eventBridge }

theorem isCompletedTo_resolve (n : Notifications) : n.IsCompletedTo n.resolve where
  eventBridge := isFilledIn_getD _ _
  others := rfl

theorem IsCompletedTo.resolve_eq {n full : Notifications} (complete : n.IsCompletedTo full) :
    full.resolve = full := by
  simp only [resolve, complete.eventBridge.getD_eq]

end Notifications

namespace ReplicationFeatures

structure IsCompletedTo (features full : ReplicationFeatures) : Prop where
  metrics : IsFilledIn features.metrics full.metrics
  timeControl : IsFilledIn features.timeControl full.timeControl
  modificationSync : IsFilledIn features.modificationSync full.modificationSync
  deleteMarkers : IsFilledIn features.deleteMarkers full.deleteMarkers

theorem isCompletedTo_resolve (features : Option ReplicationFeatures) :
    (features.getD {}).IsCompletedTo (resolve features) where
  metrics := isFilledIn_getD _ _
  timeControl := isFilledIn_getD _ _
  modificationSync := isFilledIn_getD _ _
  deleteMarkers := isFilledIn_getD _ _

/-- Metrics follow time control where they are left out, and are left alone here. -/
theorem IsCompletedTo.resolve_eq {features full : ReplicationFeatures}
    (complete : features.IsCompletedTo full) : resolve (some full) = full := by
  simp only [resolve, Option.getD_some, complete.metrics.getD_eq, complete.timeControl.getD_eq,
    complete.modificationSync.getD_eq, complete.deleteMarkers.getD_eq]

end ReplicationFeatures

namespace ReplicationRule

structure IsCompletedTo (rule full : ReplicationRule) : Prop where
  features : ∃ features ∈ full.features, (rule.features.getD {}).IsCompletedTo features
  others : full = { rule with features := full.features }

theorem isCompletedTo_resolve (rule : ReplicationRule) : rule.IsCompletedTo rule.resolve where
  features := ⟨_, rfl, ReplicationFeatures.isCompletedTo_resolve rule.features⟩
  others := rfl

theorem IsCompletedTo.resolve_eq {rule full : ReplicationRule} (complete : rule.IsCompletedTo full) :
    full.resolve = full := by
  obtain ⟨features, given, own⟩ := complete.features
  rw [resolve, Option.mem_def.mp given, own.resolve_eq, ← Option.mem_def.mp given]

end ReplicationRule

namespace Replication

structure IsCompletedTo (replication full : Replication) : Prop where
  rules : replication.rules.Pointwise ReplicationRule.IsCompletedTo full.rules
  others : full = { replication with rules := full.rules }

theorem isCompletedTo_resolve (replication : Replication) :
    replication.IsCompletedTo replication.resolve where
  rules := replication.rules.pointwise_mapValues ReplicationRule.isCompletedTo_resolve
  others := rfl

theorem IsCompletedTo.resolve_eq {replication full : Replication}
    (complete : replication.IsCompletedTo full) : full.resolve = full := by
  rw [resolve, complete.rules.mapValues_eq fun _ _ own => own.resolve_eq]

end Replication

namespace InventoryDestination

structure IsCompletedTo (destination full : InventoryDestination) : Prop where
  format : IsFilledIn destination.format full.format
  others : full = { destination with format := full.format }

end InventoryDestination

namespace InventoryRule

structure IsCompletedTo (rule full : InventoryRule) : Prop where
  destination : ∃ destination ∈ full.destination, (rule.destination.getD {}).IsCompletedTo destination
  frequency : IsFilledIn rule.frequency full.frequency
  includeNoncurrent : IsFilledIn rule.includeNoncurrent full.includeNoncurrent
  others : full = { rule with
    destination := full.destination
    frequency := full.frequency
    includeNoncurrent := full.includeNoncurrent }

theorem isCompletedTo_resolve (rule : InventoryRule) : rule.IsCompletedTo rule.resolve where
  destination := ⟨_, rfl, isFilledIn_getD _ _, rfl⟩
  frequency := isFilledIn_getD _ _
  includeNoncurrent := isFilledIn_getD _ _
  others := rfl

theorem IsCompletedTo.resolve_eq {rule full : InventoryRule} (complete : rule.IsCompletedTo full) :
    full.resolve = full := by
  obtain ⟨destination, given, own⟩ := complete.destination
  simp only [resolve, Option.mem_def.mp given, Option.getD_some, own.format.getD_eq,
    complete.frequency.getD_eq, complete.includeNoncurrent.getD_eq]
  rw [← Option.mem_def.mp given]

end InventoryRule

namespace Descriptor

/-- A description and one with nothing left open: what was set is kept, at every depth, and what is
not completed is the same. Encryption and public access are made where they are missing. -/
structure IsCompletedTo (d full : Descriptor) : Prop where
  versioning : IsFilledIn d.versioning full.versioning
  lockEnabled : IsFilledIn d.lockEnabled full.lockEnabled
  requesterPays : IsFilledIn d.requesterPays full.requesterPays
  acceleration : IsFilledIn d.acceleration full.acceleration
  ownership : IsFilledIn d.ownership full.ownership
  encryption : ∃ e ∈ full.encryption, (d.encryption.getD {}).IsCompletedTo e
  publicAccess : ∃ p ∈ full.publicAccess, (d.publicAccess.getD {}).IsCompletedTo p
  notifications : Option.Rel Notifications.IsCompletedTo d.notifications full.notifications
  replication : Option.Rel Replication.IsCompletedTo d.replication full.replication
  inventoryRules : d.inventoryRules.Pointwise InventoryRule.IsCompletedTo full.inventoryRules
  others : full = { d with
    versioning := full.versioning
    lockEnabled := full.lockEnabled
    requesterPays := full.requesterPays
    acceleration := full.acceleration
    ownership := full.ownership
    encryption := full.encryption
    publicAccess := full.publicAccess
    notifications := full.notifications
    replication := full.replication
    inventoryRules := full.inventoryRules }

theorem isCompletedTo_resolve (d : Descriptor) : d.IsCompletedTo d.resolve where
  versioning := isFilledIn_getD _ _
  lockEnabled := isFilledIn_getD _ _
  requesterPays := isFilledIn_getD _ _
  acceleration := isFilledIn_getD _ _
  ownership := isFilledIn_getD _ _
  encryption := ⟨_, rfl, Encryption.isCompletedTo_resolve d.encryption⟩
  publicAccess := ⟨_, rfl, PublicAccess.isCompletedTo_resolve d.publicAccess⟩
  notifications := rel_map Notifications.isCompletedTo_resolve d.notifications
  replication := rel_map Replication.isCompletedTo_resolve d.replication
  inventoryRules := d.inventoryRules.pointwise_mapValues InventoryRule.isCompletedTo_resolve
  others := rfl

/-- A complete description is left as it is, whatever it was completed from and by which values. -/
theorem IsCompletedTo.resolve_eq {d full : Descriptor} (complete : d.IsCompletedTo full) :
    full.resolve = full := by
  obtain ⟨encryption, encrypted, wholeEncryption⟩ := complete.encryption
  obtain ⟨access, limited, wholeAccess⟩ := complete.publicAccess
  have notifications := map_eq_of_rel complete.notifications fun _ _ own => own.resolve_eq
  have replication := map_eq_of_rel complete.replication fun _ _ own => own.resolve_eq
  have inventory := complete.inventoryRules.mapValues_eq fun _ _ own => own.resolve_eq
  simp only [resolve, complete.versioning.getD_eq, complete.lockEnabled.getD_eq,
    complete.requesterPays.getD_eq, complete.acceleration.getD_eq, complete.ownership.getD_eq,
    Option.mem_def.mp encrypted, wholeEncryption.resolve_eq, Option.mem_def.mp limited,
    wholeAccess.resolve_eq, notifications, replication, inventory]
  rw [← Option.mem_def.mp encrypted, ← Option.mem_def.mp limited]

/-- Resolving a description completes it, and there is nothing left to complete then. -/
theorem resolve_isClosure (d : Descriptor) :
    d.IsCompletedTo d.resolve ∧ d.resolve.resolve = d.resolve :=
  ⟨d.isCompletedTo_resolve, d.isCompletedTo_resolve.resolve_eq⟩

end Descriptor

end BucketPlan
