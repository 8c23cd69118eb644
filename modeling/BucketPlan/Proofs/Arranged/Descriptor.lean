import BucketPlan.Descriptor.Checks
import BucketPlan.Proofs.Arranged.Value

namespace BucketPlan

/-- The same filter with its tags in order. -/
def ObjectFilter.arrange (filter : ObjectFilter) : ObjectFilter :=
  { filter with tags := filter.tags.inOrder }

def LifecycleRule.arrange (rule : LifecycleRule) : LifecycleRule :=
  { rule with filter := rule.filter.map ObjectFilter.arrange }

def ReplicationRule.arrange (rule : ReplicationRule) : ReplicationRule :=
  { rule with filter := rule.filter.map ObjectFilter.arrange }

def TieringRule.arrange (rule : TieringRule) : TieringRule :=
  { rule with
    filter := rule.filter.map ObjectFilter.arrange
    tierings := rule.tierings.inOrder }

def Replication.arrange (replication : Replication) : Replication :=
  { replication with rules := replication.rules.arranged ReplicationRule.arrange }

def Notifications.arrange (notifications : Notifications) : Notifications :=
  { notifications with destinations := notifications.destinations.inOrder }

/-- The same description with everything that stands under names of the user's own in the order of
these names. Two descriptions that differ in such an order only are arranged alike. -/
def Descriptor.arrange (d : Descriptor) : Descriptor :=
  { d with
    tags := d.tags.inOrder
    notifications := d.notifications.map Notifications.arrange
    lifecycleRules := d.lifecycleRules.arranged LifecycleRule.arrange
    replication := d.replication.map Replication.arrange
    inventoryRules := d.inventoryRules.inOrder
    tieringRules := d.tieringRules.arranged TieringRule.arrange }

namespace Shape

variable {shape : Shape} {v w : Value}

theorem Rearranges.text? (rearranged : (optional text).Rearranges v w) : v.text? = w.text? := by
  rw [rearranged.eq_of_isFixed rfl rfl]

theorem Rearranges.int? (rearranged : (optional integer).Rearranges v w) : v.int? = w.int? := by
  rw [rearranged.eq_of_isFixed rfl rfl]

theorem Rearranges.bool? (rearranged : (optional boolean).Rearranges v w) : v.bool? = w.bool? := by
  rw [rearranged.eq_of_isFixed rfl rfl]

end Shape

namespace Value

variable {α : Type} {read : Value → Option α} {related : Value → Value → Prop} {v w : Value}

theorem RearrangesBy.inOrder_keyed (rearranged : RearrangesBy related v w)
    (same : ∀ a b, related a b → read a = read b) :
    (v.keyed read).inOrder = (w.keyed read).inOrder := by
  have arranged : (v.keyed read).arranged id = (w.keyed read).arranged id :=
    rearranged.arranged_keyed fun a b values => by rw [same a b values]
  rwa [Keyed.arranged_id, Keyed.arranged_id] at arranged

end Value

theorem ObjectFilter.arrange_ofValue {v w : Value}
    (rearranged : (Shape.optional shape).Rearranges v w) :
    (v.record? ofValue).map arrange = (w.record? ofValue).map arrange := by
  refine Shape.Rearranges.record? rearranged.2 fun members => ?_
  obtain ⟨keyPrefix, ⟨_, tags⟩, above, below, _⟩ := members
  have inOrder : (v.get "tags").textMap.inOrder = (w.get "tags").textMap.inOrder :=
    tags.inOrder_keyed fun a b same => by rw [same]
  simp only [arrange, ofValue, keyPrefix.text?, inOrder, above.int?, below.int?]

theorem LifecycleRule.arrange_ofValue {v w : Value} (rearranged : shape.Rearranges v w) :
    (v.record? ofValue).map arrange = (w.record? ofValue).map arrange := by
  refine Shape.Rearranges.record? rearranged fun members => ?_
  obtain ⟨enabled, filter, transitions, expiration, noncurrent, moved, abort, _⟩ := members
  simp only [arrange, ofValue, enabled.bool?, ObjectFilter.arrange_ofValue filter,
    transitions.eq_of_isFixed rfl rfl, expiration.eq_of_isFixed rfl rfl,
    noncurrent.eq_of_isFixed rfl rfl, moved.eq_of_isFixed rfl rfl, abort.int?]

theorem ReplicationRule.arrange_ofValue {v w : Value} (rearranged : shape.Rearranges v w) :
    (v.record? ofValue).map arrange = (w.record? ofValue).map arrange := by
  refine Shape.Rearranges.record? rearranged fun members => ?_
  obtain ⟨destination, priority, enabled, filter, storage, encrypted, transfer, features, _⟩ := members
  simp only [arrange, ofValue, destination.text?, priority.int?, enabled.bool?,
    ObjectFilter.arrange_ofValue filter, storage.text?, encrypted.eq_of_isFixed rfl rfl,
    transfer.eq_of_isFixed rfl rfl, features.eq_of_isFixed rfl rfl]

theorem TieringRule.arrange_ofValue {v w : Value} (rearranged : shape.Rearranges v w) :
    (v.record? ofValue).map arrange = (w.record? ofValue).map arrange := by
  refine Shape.Rearranges.record? rearranged fun members => ?_
  obtain ⟨⟨_, tierings⟩, enabled, filter, _⟩ := members
  have inOrder : ((v.get "tierings").keyed Value.int?).inOrder =
      ((w.get "tierings").keyed Value.int?).inOrder :=
    tierings.inOrder_keyed fun a b same => Shape.Rearranges.int? same
  simp only [arrange, ofValue, enabled.bool?, ObjectFilter.arrange_ofValue filter, inOrder]

theorem Replication.arrange_ofValue {v w : Value} (rearranged : (Shape.optional shape).Rearranges v w) :
    (v.record? ofValue).map arrange = (w.record? ofValue).map arrange := by
  refine Shape.Rearranges.record? rearranged.2 fun members => ?_
  obtain ⟨role, ⟨_, rules⟩, _⟩ := members
  have arranged := rules.arranged_keyed fun a b rule => ReplicationRule.arrange_ofValue rule
  simp only [arrange, ofValue, role.text?, arranged]

theorem Notifications.arrange_ofValue {v w : Value}
    (rearranged : (Shape.optional shape).Rearranges v w) :
    (v.record? ofValue).map arrange = (w.record? ofValue).map arrange := by
  refine Shape.Rearranges.record? rearranged.2 fun members => ?_
  obtain ⟨⟨_, destinations⟩, eventBridge, _⟩ := members
  have inOrder : ((v.get "destinations").keyed Subscription.ofValues?).inOrder =
      ((w.get "destinations").keyed Subscription.ofValues?).inOrder :=
    destinations.inOrder_keyed fun a b same => by rw [Shape.Rearranges.eq_of_isFixed same rfl rfl]
  simp only [arrange, ofValue, inOrder, eventBridge.bool?]

namespace Descriptor

/-- Values that differ in the order of such entries only are read as descriptions that do. -/
theorem arrange_ofValue {v w : Value} (rearranged : shape.Rearranges v w) :
    (ofValue v).arrange = (ofValue w).arrange := by
  rcases rearranged.cases_record with ⟨_, _, members⟩ | ⟨_, rfl⟩
  · obtain ⟨name, owner, ⟨_, tags⟩, versioning, lockEnabled, objectLock, encryption, publicAccess,
      ownership, requesterPays, acceleration, policy, corsRules, website, notifications,
      ⟨_, lifecycleRules⟩, replication, ⟨_, inventoryRules⟩, ⟨_, tieringRules⟩, _⟩ := members
    have tagsInOrder : (v.get "tags").textMap.inOrder = (w.get "tags").textMap.inOrder :=
      tags.inOrder_keyed fun a b same => by rw [same]
    have inventoryInOrder : ((v.get "inventory_rules").keyed (·.record? InventoryRule.ofValue)).inOrder =
        ((w.get "inventory_rules").keyed (·.record? InventoryRule.ofValue)).inOrder :=
      inventoryRules.inOrder_keyed fun a b same => by
        rw [Shape.Rearranges.eq_of_isFixed same rfl rfl]
    have lifecycleArranged := lifecycleRules.arranged_keyed fun a b => LifecycleRule.arrange_ofValue
    have tieringArranged := tieringRules.arranged_keyed fun a b => TieringRule.arrange_ofValue
    simp only [arrange, ofValue, name.text?, owner.text?, tagsInOrder, versioning.bool?,
      lockEnabled.bool?, objectLock.eq_of_isFixed rfl rfl, encryption.eq_of_isFixed rfl rfl,
      publicAccess.eq_of_isFixed rfl rfl, ownership.text?, requesterPays.bool?, acceleration.bool?,
      policy.text?, corsRules.eq_of_isFixed rfl rfl, website.eq_of_isFixed rfl rfl,
      Notifications.arrange_ofValue notifications, lifecycleArranged,
      Replication.arrange_ofValue replication, inventoryInOrder, tieringArranged]
  · rfl

end Descriptor

end BucketPlan
