import BucketPlan.Descriptor.Reading
import BucketPlan.Proofs.Recovery.Rules
import BucketPlan.Proofs.Recovery.Settings

namespace BucketPlan

open Shape

namespace Descriptor

instance : shape.Admits Descriptor where
  fits d := .record rfl <| .member (fits d.name) <| .member (fits d.ownerAccount) <|
    .member (fits d.tags) <| .member (fits d.versioning) <| .member (fits d.lockEnabled) <|
    .member (fits d.objectLock) <| .member (fits d.encryption) <| .member (fits d.publicAccess) <|
    .member (fits d.ownership) <| .member (fits d.requesterPays) <|
    .member (fits d.acceleration) <| .member (fits d.policy) <| .member (fits d.corsRules) <|
    .member (fits d.website) <| .member (fits d.notifications) <|
    .member (fits d.lifecycleRules) <| .member (fits d.replication) <|
    .member (fits d.inventoryRules) <| .member (fits d.tieringRules) .noMore

instance : Recovers (Value.record? ofValue) :=
  Value.recovers_record (fun _ => rfl) fun d =>
    calc ofValue (plain d)
        = ⟨(plain d.name).text?, (plain d.ownerAccount).text?, (plain d.tags).textMap,
            (plain d.versioning).bool?, (plain d.lockEnabled).bool?,
            (plain d.objectLock).record? ObjectLock.ofValue,
            (plain d.encryption).record? Encryption.ofValue,
            (plain d.publicAccess).record? PublicAccess.ofValue, (plain d.ownership).text?,
            (plain d.requesterPays).bool?, (plain d.acceleration).bool?, (plain d.policy).text?,
            (plain d.corsRules).records CorsRule.ofValue,
            (plain d.website).record? Website.ofValue,
            (plain d.notifications).record? Notifications.ofValue,
            (plain d.lifecycleRules).keyed (·.record? LifecycleRule.ofValue),
            (plain d.replication).record? Replication.ofValue,
            (plain d.inventoryRules).keyed (·.record? InventoryRule.ofValue),
            (plain d.tieringRules).keyed (·.record? TieringRule.ofValue)⟩ := rfl
      _ = d := by simp

/-- The plain form of a description reads as the description itself and has nothing about it to
report: no field is dropped, renamed, moved or changed on the way. -/
theorem plain_recovered (d : Descriptor) :
    ofValue (plain d) = d ∧ mismatches (plain d) = [] ∧ read (plain d) = .ok d := by
  have found : (plain d).record? ofValue = some d := Recovers.read_plain d
  have recovered : ofValue (plain d) = d := Option.some.inj found
  have silent : mismatches (plain d) = [] := fits d {}
  refine ⟨recovered, silent, ?_⟩
  have sorted : Log.sorted [] = .ok [] := by
    simp only [Log.sorted, Log.positioned, List.mapM_nil, pure_bind, List.mergeSort_nil, List.map_nil]
    rfl
  rw [read, silent, sorted, recovered]

end Descriptor

end BucketPlan
