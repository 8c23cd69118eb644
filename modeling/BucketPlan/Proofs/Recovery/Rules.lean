import BucketPlan.Inventory.Rule
import BucketPlan.Lifecycle.Rule
import BucketPlan.Notification.Rule
import BucketPlan.Proofs.Recovery.Plain
import BucketPlan.Replication.Rule
import BucketPlan.Tiering.Rule

namespace BucketPlan

open Shape

namespace ObjectFilter

instance : shape.Admits ObjectFilter where
  fits filter := .record rfl <| .member (fits filter.keyPrefix) <| .member (fits filter.tags) <|
    .member (fits filter.sizeAbove) <| .member (fits filter.sizeBelow) .noMore

instance : Recovers (Value.record? ofValue) :=
  Value.recovers_record (fun _ => rfl) fun filter =>
    calc ofValue (plain filter)
        = ⟨(plain filter.keyPrefix).text?, (plain filter.tags).textMap,
            (plain filter.sizeAbove).int?, (plain filter.sizeBelow).int?⟩ := rfl
      _ = filter := by simp

end ObjectFilter

namespace Subscription

instance : shape.Admits Subscription where
  fits s := .record rfl <| .member (fits s.events) <| .member (fits s.keyPrefix) <|
    .member (fits s.keySuffix) .noMore

instance : Recovers (Value.record? ofValue) :=
  Value.recovers_record (fun _ => rfl) fun s =>
    calc ofValue (plain s)
        = ⟨(plain s.events).texts, (plain s.keyPrefix).text?, (plain s.keySuffix).text?⟩ := rfl
      _ = s := by simp

end Subscription

/-- Subscriptions are written as a list, however many there are. -/
instance : Recovers Subscription.ofValues? where
  read_null := rfl
  read_plain subscriptions :=
    calc Subscription.ofValues? (plain subscriptions)
        = some ((plain subscriptions).records Subscription.ofValue) := rfl
      _ = some subscriptions := by simp

namespace Notifications

instance : shape.Admits Notifications where
  fits n := .record rfl <| .member (fits n.destinations) <| .member (fits n.eventBridge) .noMore

instance : Recovers (Value.record? ofValue) :=
  Value.recovers_record (fun _ => rfl) fun n =>
    calc ofValue (plain n)
        = ⟨(plain n.destinations).keyed Subscription.ofValues?,
            (plain n.eventBridge).bool?⟩ := rfl
      _ = n := by simp

end Notifications

namespace Transition

instance : shape.Admits Transition where
  fits t _ := by
    rw [shape, mismatches]
    exact (Fits.member (fits t.days) <| .member (fits t.storageClass) .noMore) _

/-- The plain form of a transition is the record of its members, and never their pair. -/
instance : Recovers ofValue? where
  read_null := rfl
  read_plain t :=
    calc ofValue? (plain t) = some ⟨(plain t.days).int?, (plain t.storageClass).text?⟩ := rfl
      _ = some t := by simp

end Transition

namespace NoncurrentTransition

instance : shape.Admits NoncurrentTransition where
  fits t := .record rfl <| .member (fits t.days) <| .member (fits t.storageClass) <|
    .member (fits t.newerVersions) .noMore

instance : Recovers (Value.record? ofValue) :=
  Value.recovers_record (fun _ => rfl) fun t =>
    calc ofValue (plain t)
        = ⟨(plain t.days).int?, (plain t.storageClass).text?, (plain t.newerVersions).int?⟩ := rfl
      _ = t := by simp

end NoncurrentTransition

namespace Expiration

instance : shape.Admits Expiration where
  fits e := .record rfl <| .member (fits e.days) <| .member (fits e.date) <|
    .member (fits e.deleteMarkers) .noMore

instance : Recovers (Value.record? ofValue) :=
  Value.recovers_record (fun _ => rfl) fun e =>
    calc ofValue (plain e)
        = ⟨(plain e.days).int?, (plain e.date).text?, (plain e.deleteMarkers).bool?⟩ := rfl
      _ = e := by simp

end Expiration

namespace NoncurrentExpiration

instance : shape.Admits NoncurrentExpiration where
  fits e := .record rfl <| .member (fits e.days) <| .member (fits e.newerVersions) .noMore

instance : Recovers (Value.record? ofValue) :=
  Value.recovers_record (fun _ => rfl) fun e =>
    calc ofValue (plain e) = ⟨(plain e.days).int?, (plain e.newerVersions).int?⟩ := rfl
      _ = e := by simp

end NoncurrentExpiration

namespace LifecycleRule

instance : shape.Admits LifecycleRule where
  fits rule := .record rfl <| .member (fits rule.enabled) <| .member (fits rule.filter) <|
    .member (fits rule.transitions) <| .member (fits rule.expiration) <|
    .member (fits rule.noncurrentExpiration) <| .member (fits rule.noncurrentTransitions) <|
    .member (fits rule.abortDays) .noMore

instance : Recovers (Value.record? ofValue) :=
  Value.recovers_record (fun _ => rfl) fun rule =>
    calc ofValue (plain rule)
        = ⟨(plain rule.enabled).bool?.getD true, (plain rule.filter).record? ObjectFilter.ofValue,
            ((plain rule.transitions).sequence?.getD []).filterMap Transition.ofValue?,
            (plain rule.expiration).record? Expiration.ofValue,
            (plain rule.noncurrentExpiration).record? NoncurrentExpiration.ofValue,
            (plain rule.noncurrentTransitions).records NoncurrentTransition.ofValue,
            (plain rule.abortDays).int?⟩ := rfl
      _ = rule := by simp [Value.read_list]

end LifecycleRule

namespace EncryptedReplicas

instance : shape.Admits EncryptedReplicas where
  fits e := .record rfl <| .member (fits e.keyId) .noMore

instance : Recovers (Value.record? ofValue) :=
  Value.recovers_record (fun _ => rfl) fun e =>
    calc ofValue (plain e) = ⟨(plain e.keyId).text?⟩ := rfl
      _ = e := by simp

end EncryptedReplicas

namespace OwnershipTransfer

instance : shape.Admits OwnershipTransfer where
  fits t := .record rfl <| .member (fits t.accountId) .noMore

instance : Recovers (Value.record? ofValue) :=
  Value.recovers_record (fun _ => rfl) fun t =>
    calc ofValue (plain t) = ⟨(plain t.accountId).text?⟩ := rfl
      _ = t := by simp

end OwnershipTransfer

namespace ReplicationFeatures

instance : shape.Admits ReplicationFeatures where
  fits f := .record rfl <| .member (fits f.metrics) <| .member (fits f.timeControl) <|
    .member (fits f.modificationSync) <| .member (fits f.deleteMarkers) .noMore

instance : Recovers (Value.record? ofValue) :=
  Value.recovers_record (fun _ => rfl) fun f =>
    calc ofValue (plain f)
        = ⟨(plain f.metrics).bool?, (plain f.timeControl).bool?, (plain f.modificationSync).bool?,
            (plain f.deleteMarkers).bool?⟩ := rfl
      _ = f := by simp

end ReplicationFeatures

namespace ReplicationRule

instance : shape.Admits ReplicationRule where
  fits rule := .record rfl <| .member (fits rule.destination) <| .member (fits rule.priority) <|
    .member (fits rule.enabled) <| .member (fits rule.filter) <|
    .member (fits rule.storageClass) <| .member (fits rule.encrypted) <|
    .member (fits rule.transfer) <| .member (fits rule.features) .noMore

instance : Recovers (Value.record? ofValue) :=
  Value.recovers_record (fun _ => rfl) fun rule =>
    calc ofValue (plain rule)
        = ⟨(plain rule.destination).text?, (plain rule.priority).int?,
            (plain rule.enabled).bool?.getD true,
            (plain rule.filter).record? ObjectFilter.ofValue, (plain rule.storageClass).text?,
            (plain rule.encrypted).record? EncryptedReplicas.ofValue,
            (plain rule.transfer).record? OwnershipTransfer.ofValue,
            (plain rule.features).record? ReplicationFeatures.ofValue⟩ := rfl
      _ = rule := by simp

end ReplicationRule

namespace Replication

instance : shape.Admits Replication where
  fits r := .record rfl <| .member (fits r.role) <| .member (fits r.rules) .noMore

instance : Recovers (Value.record? ofValue) :=
  Value.recovers_record (fun _ => rfl) fun r =>
    calc ofValue (plain r)
        = ⟨(plain r.role).text?, (plain r.rules).keyed (·.record? ReplicationRule.ofValue)⟩ := rfl
      _ = r := by simp

end Replication

namespace InventoryDestination

instance : shape.Admits InventoryDestination where
  fits d := .record rfl <| .member (fits d.bucket) <| .member (fits d.accountId) <|
    .member (fits d.keyPrefix) <| .member (fits d.format) <| .member (fits d.encryption) <|
    .member (fits d.keyId) .noMore

instance : Recovers (Value.record? ofValue) :=
  Value.recovers_record (fun _ => rfl) fun d =>
    calc ofValue (plain d)
        = ⟨(plain d.bucket).text?, (plain d.accountId).text?, (plain d.keyPrefix).text?,
            (plain d.format).text?, (plain d.encryption).text?, (plain d.keyId).text?⟩ := rfl
      _ = d := by simp

end InventoryDestination

namespace InventoryRule

instance : shape.Admits InventoryRule where
  fits rule := .record rfl <| .member (fits rule.enabled) <| .member (fits rule.keyPrefix) <|
    .member (fits rule.destination) <| .member (fits rule.frequency) <|
    .member (fits rule.includeNoncurrent) <| .member (fits rule.optionalFields) .noMore

instance : Recovers (Value.record? ofValue) :=
  Value.recovers_record (fun _ => rfl) fun rule =>
    calc ofValue (plain rule)
        = ⟨(plain rule.enabled).bool?.getD true, (plain rule.keyPrefix).text?,
            (plain rule.destination).record? InventoryDestination.ofValue,
            (plain rule.frequency).text?, (plain rule.includeNoncurrent).bool?,
            (plain rule.optionalFields).texts⟩ := rfl
      _ = rule := by simp

end InventoryRule

namespace TieringRule

instance : shape.Admits TieringRule where
  fits rule := .record rfl <| .member (fits rule.tierings) <| .member (fits rule.enabled) <|
    .member (fits rule.filter) .noMore

instance : Recovers (Value.record? ofValue) :=
  Value.recovers_record (fun _ => rfl) fun rule =>
    calc ofValue (plain rule)
        = ⟨(plain rule.enabled).bool?.getD true, (plain rule.filter).record? ObjectFilter.ofValue,
            (plain rule.tierings).keyed Value.int?⟩ := rfl
      _ = rule := by simp

end TieringRule

end BucketPlan
