import BucketPlan.Descriptor.Basic
import BucketPlan.Proofs.Spelling.Value

namespace BucketPlan

namespace Value

variable {α : Type} {related : Value → Value → Prop} {v w : Value}

theorem eq_of_sequence? {items : List Value} (sequence : v.sequence? = some items) :
    v = .list items ∨ v = .tuple items := by
  cases v with
  | list => exact Or.inl (congrArg list (Option.some.inj sequence))
  | tuple => exact Or.inr (congrArg tuple (Option.some.inj sequence))
  | _ => cases sequence

theorem filterMap_of_forall₂ {β γ : Type} {agree : β → β → Prop} {pick : β → Option γ}
    {first second : List β} (matched : List.Forall₂ agree first second)
    (same : ∀ a b, agree a b → pick a = pick b) : first.filterMap pick = second.filterMap pick := by
  induction matched with
  | nil => rfl
  | @cons a b _ _ own _ ih => rw [List.filterMap_cons, List.filterMap_cons, same a b own, ih]

/-- What opens to items that are read alike is read alike. -/
theorem EquatedBy.read_items {contents : Value → Option (List Value)} {read : Value → Option α}
    (equated : EquatedBy contents (List.Forall₂ related) v w)
    (same : ∀ a b, related a b → read a = read b) :
    ((contents v).getD []).filterMap read = ((contents w).getD []).filterMap read := by
  rcases equated with rfl | ⟨items, items', opened, opened', matched⟩
  · rfl
  · rw [opened, opened', Option.getD_some, Option.getD_some, filterMap_of_forall₂ matched same]

theorem EquatedBy.keyed_eq {read : Value → Option α}
    (equated : EquatedBy entries? (List.Forall₂ fun a b => a.1 = b.1 ∧ related a.2 b.2) v w)
    (same : ∀ a b, related a b → read a = read b) : v.keyed read = w.keyed read := by
  rcases equated with rfl | ⟨held, held', opened, opened', matched⟩
  · rfl
  · rw [keyed, keyed, namedEntries, namedEntries, opened, opened', List.filterMap_map,
      List.filterMap_map]
    refine congrArg Keyed.ofList (filterMap_of_forall₂ matched fun a b own => ?_)
    simp only [Function.comp_apply, own.1, same _ _ own.2]

end Value

namespace Shape

variable {α : Type} {members shape : Shape} {v w : Value}

theorem Equates.text? (equated : (optional text).Equates v w) : v.text? = w.text? :=
  congrArg Value.text? equated.2

theorem Equates.int? (equated : (optional integer).Equates v w) : v.int? = w.int? :=
  congrArg Value.int? equated.2

theorem Equates.bool? (equated : (optional boolean).Equates v w) : v.bool? = w.bool? :=
  congrArg Value.bool? equated.2

/-- A record is read alike when its members are. -/
theorem Equates.record? {read : Value → α} (equated : (record members).Equates v w)
    (same : members.Equates v w → read v = read w) : v.record? read = w.record? read := by
  rcases equated with rfl | ⟨isMap, isMap', inner⟩
  · rfl
  · rw [Value.record?, Value.record?, if_pos isMap, if_pos isMap', same inner]

theorem texts_eq_items? (value : Value) :
    value.texts = ((text.items? value).getD []).filterMap Value.text? := by
  cases value <;> rfl

theorem Equates.texts (equated : Shape.texts.Equates v w) : v.texts = w.texts := by
  rw [texts_eq_items?, texts_eq_items?]
  exact Value.EquatedBy.read_items equated.2 fun a b same => congrArg Value.text? same

end Shape

theorem ObjectFilter.ofValue_eq {v w : Value} (equated : shape.Equates v w) :
    v.record? ofValue = w.record? ofValue := by
  refine equated.record? fun members => ?_
  obtain ⟨keyPrefix, tags, above, below, _⟩ := members
  have sameTags : (v.get "tags").textMap = (w.get "tags").textMap :=
    tags.2.keyed_eq fun a b same => congrArg Value.text? same
  simp only [ofValue, keyPrefix.text?, sameTags, above.int?, below.int?]

theorem Retention.ofValue_eq {v w : Value} (equated : shape.Equates v w) :
    v.record? ofValue = w.record? ofValue := by
  refine equated.record? fun members => ?_
  obtain ⟨days, years, mode, _⟩ := members
  simp only [ofValue, days.int?, years.int?, mode.text?]

theorem ObjectLock.ofValue_eq {v w : Value} (equated : shape.Equates v w) :
    v.record? ofValue = w.record? ofValue := by
  refine equated.record? fun members => ?_
  obtain ⟨token, retention, _⟩ := members
  simp only [ofValue, token.text?, Retention.ofValue_eq retention.2]

theorem Encryption.ofValue_eq {v w : Value} (equated : shape.Equates v w) :
    v.record? ofValue = w.record? ofValue := by
  refine equated.record? fun members => ?_
  obtain ⟨algorithm, masterKey, bucketKey, _⟩ := members
  simp only [ofValue, algorithm.text?, masterKey.text?, bucketKey.bool?]

theorem PublicAccess.ofValue_eq {v w : Value} (equated : shape.Equates v w) :
    v.record? ofValue = w.record? ofValue := by
  refine equated.record? fun members => ?_
  obtain ⟨acls, policy, ignored, restricted, _⟩ := members
  simp only [ofValue, acls.bool?, policy.bool?, ignored.bool?, restricted.bool?]

theorem CorsRule.ofValue_eq {v w : Value} (equated : shape.Equates v w) :
    v.record? ofValue = w.record? ofValue := by
  refine equated.record? fun members => ?_
  obtain ⟨methods, origins, headers, exposed, maxAge, id, _⟩ := members
  simp only [ofValue, methods.texts, origins.texts, headers.texts, exposed.texts, maxAge.int?,
    id.text?]

theorem Redirect.ofValue_eq {v w : Value} (equated : shape.Equates v w) :
    v.record? ofValue = w.record? ofValue := by
  refine equated.record? fun members => ?_
  obtain ⟨host, protocol, _⟩ := members
  simp only [ofValue, host.text?, protocol.text?]

theorem RoutingRule.ofValue_eq {v w : Value} (equated : shape.Equates v w) :
    v.record? ofValue = w.record? ofValue := by
  refine equated.record? fun members => ?_
  obtain ⟨whenPrefix, whenErrorCode, host, protocol, httpCode, replacePrefix, replaceKey, _⟩ :=
    members
  simp only [ofValue, whenPrefix.text?, whenErrorCode.text?, host.text?, protocol.text?,
    httpCode.text?, replacePrefix.text?, replaceKey.text?]

theorem StaticSite.ofValue_eq {v w : Value} (equated : shape.Equates v w) :
    v.record? ofValue = w.record? ofValue := by
  refine equated.record? fun members => ?_
  obtain ⟨index, error, routing, _⟩ := members
  have sameRules : (v.get "routing_rules").records RoutingRule.ofValue =
      (w.get "routing_rules").records RoutingRule.ofValue :=
    routing.2.read_items fun a b => RoutingRule.ofValue_eq
  simp only [ofValue, index.text?, error.text?, sameRules]

theorem Website.ofValue_eq {v w : Value} (equated : shape.Equates v w) :
    v.record? ofValue = w.record? ofValue := by
  refine equated.record? fun members => ?_
  obtain ⟨redirect, static, _⟩ := members
  simp only [ofValue, Redirect.ofValue_eq redirect.2, StaticSite.ofValue_eq static.2]

theorem Subscription.ofValue_eq {v w : Value} (equated : shape.Equates v w) :
    v.record? ofValue = w.record? ofValue := by
  refine equated.record? fun members => ?_
  obtain ⟨events, keyPrefix, keySuffix, _⟩ := members
  simp only [ofValue, events.texts, keyPrefix.text?, keySuffix.text?]

theorem Subscription.ofValues?_eq_items? (value : Value) :
    ofValues? value = (shape.items? value).map (List.filterMap (Value.record? ofValue)) := by
  cases value <;> rfl

theorem Subscription.ofValues?_eq {v w : Value} (equated : (Shape.oneOrMore shape).Equates v w) :
    ofValues? v = ofValues? w := by
  rw [ofValues?_eq_items?, ofValues?_eq_items?]
  rcases equated with rfl | ⟨items, items', opened, opened', matched⟩
  · rfl
  · rw [opened, opened', Option.map_some, Option.map_some,
      Value.filterMap_of_forall₂ matched fun a b => ofValue_eq]

theorem Notifications.ofValue_eq {v w : Value} (equated : shape.Equates v w) :
    v.record? ofValue = w.record? ofValue := by
  refine equated.record? fun members => ?_
  obtain ⟨destinations, eventBridge, _⟩ := members
  have sameDestinations := destinations.2.keyed_eq fun a b => Subscription.ofValues?_eq
  simp only [ofValue, sameDestinations, eventBridge.bool?]

theorem Transition.ofValue?_eq {v w : Value} (equated : shape.Equates v w) :
    ofValue? v = ofValue? w := by
  rcases equated with (rfl | ⟨items, items', opened, opened', rfl⟩) | ⟨isMap, isMap', inner⟩
  · rfl
  · -- a sequence of one length is a pair in both spellings, or in neither
    rcases Value.eq_of_sequence? opened with rfl | rfl <;>
      rcases Value.eq_of_sequence? opened' with rfl | rfl <;>
        rcases items with _ | ⟨a, _ | ⟨b, _ | ⟨c, rest⟩⟩⟩ <;> rfl
  · obtain ⟨days, storage, _⟩ := inner
    rw [ofValue?, ofValue?, Value.record?, Value.record?, if_pos isMap, if_pos isMap']
    simp only [ofRecord, days.int?, storage.text?]

theorem NoncurrentTransition.ofValue_eq {v w : Value} (equated : shape.Equates v w) :
    v.record? ofValue = w.record? ofValue := by
  refine equated.record? fun members => ?_
  obtain ⟨days, storage, newer, _⟩ := members
  simp only [ofValue, days.int?, storage.text?, newer.int?]

theorem Expiration.ofValue_eq {v w : Value} (equated : shape.Equates v w) :
    v.record? ofValue = w.record? ofValue := by
  refine equated.record? fun members => ?_
  obtain ⟨days, date, markers, _⟩ := members
  simp only [ofValue, days.int?, date.text?, markers.bool?]

theorem NoncurrentExpiration.ofValue_eq {v w : Value} (equated : shape.Equates v w) :
    v.record? ofValue = w.record? ofValue := by
  refine equated.record? fun members => ?_
  obtain ⟨days, newer, _⟩ := members
  simp only [ofValue, days.int?, newer.int?]

theorem LifecycleRule.ofValue_eq {v w : Value} (equated : shape.Equates v w) :
    v.record? ofValue = w.record? ofValue := by
  refine equated.record? fun members => ?_
  obtain ⟨enabled, filter, transitions, expiration, noncurrent, moved, abort, _⟩ := members
  have sameTransitions := transitions.2.read_items fun a b => Transition.ofValue?_eq
  have sameMoved : (v.get "noncurrent_version_transitions").records NoncurrentTransition.ofValue =
      (w.get "noncurrent_version_transitions").records NoncurrentTransition.ofValue :=
    moved.2.read_items fun a b => NoncurrentTransition.ofValue_eq
  simp only [ofValue, enabled.bool?, ObjectFilter.ofValue_eq filter.2, sameTransitions,
    Expiration.ofValue_eq expiration.2, NoncurrentExpiration.ofValue_eq noncurrent.2, sameMoved,
    abort.int?]

theorem EncryptedReplicas.ofValue_eq {v w : Value} (equated : shape.Equates v w) :
    v.record? ofValue = w.record? ofValue := by
  refine equated.record? fun members => ?_
  obtain ⟨keyId, _⟩ := members
  simp only [ofValue, keyId.text?]

theorem OwnershipTransfer.ofValue_eq {v w : Value} (equated : shape.Equates v w) :
    v.record? ofValue = w.record? ofValue := by
  refine equated.record? fun members => ?_
  obtain ⟨accountId, _⟩ := members
  simp only [ofValue, accountId.text?]

theorem ReplicationFeatures.ofValue_eq {v w : Value} (equated : shape.Equates v w) :
    v.record? ofValue = w.record? ofValue := by
  refine equated.record? fun members => ?_
  obtain ⟨metrics, timeControl, modificationSync, deleteMarkers, _⟩ := members
  simp only [ofValue, metrics.bool?, timeControl.bool?, modificationSync.bool?, deleteMarkers.bool?]

theorem ReplicationRule.ofValue_eq {v w : Value} (equated : shape.Equates v w) :
    v.record? ofValue = w.record? ofValue := by
  refine equated.record? fun members => ?_
  obtain ⟨destination, priority, enabled, filter, storage, encrypted, transfer, features, _⟩ :=
    members
  simp only [ofValue, destination.text?, priority.int?, enabled.bool?,
    ObjectFilter.ofValue_eq filter.2, storage.text?, EncryptedReplicas.ofValue_eq encrypted.2,
    OwnershipTransfer.ofValue_eq transfer.2, ReplicationFeatures.ofValue_eq features.2]

theorem Replication.ofValue_eq {v w : Value} (equated : shape.Equates v w) :
    v.record? ofValue = w.record? ofValue := by
  refine equated.record? fun members => ?_
  obtain ⟨role, rules, _⟩ := members
  have sameRules := rules.2.keyed_eq fun a b => ReplicationRule.ofValue_eq
  simp only [ofValue, role.text?, sameRules]

theorem InventoryDestination.ofValue_eq {v w : Value} (equated : shape.Equates v w) :
    v.record? ofValue = w.record? ofValue := by
  refine equated.record? fun members => ?_
  obtain ⟨bucket, accountId, keyPrefix, format, encryption, keyId, _⟩ := members
  simp only [ofValue, bucket.text?, accountId.text?, keyPrefix.text?, format.text?,
    encryption.text?, keyId.text?]

theorem InventoryRule.ofValue_eq {v w : Value} (equated : shape.Equates v w) :
    v.record? ofValue = w.record? ofValue := by
  refine equated.record? fun members => ?_
  obtain ⟨enabled, keyPrefix, destination, frequency, includeNoncurrent, optionalFields, _⟩ := members
  simp only [ofValue, enabled.bool?, keyPrefix.text?,
    InventoryDestination.ofValue_eq destination.2, frequency.text?, includeNoncurrent.bool?,
    optionalFields.texts]

theorem TieringRule.ofValue_eq {v w : Value} (equated : shape.Equates v w) :
    v.record? ofValue = w.record? ofValue := by
  refine equated.record? fun members => ?_
  obtain ⟨tierings, enabled, filter, _⟩ := members
  have sameTierings := tierings.2.keyed_eq fun a b => Shape.Equates.int?
  simp only [ofValue, sameTierings, enabled.bool?, ObjectFilter.ofValue_eq filter.2]

namespace Descriptor

theorem ofValue_eq {v w : Value} (equated : shape.Equates v w) : ofValue v = ofValue w := by
  rcases equated with rfl | ⟨_, _, members⟩
  · rfl
  · obtain ⟨name, owner, tags, versioning, lockEnabled, objectLock, encryption, publicAccess,
      ownership, requesterPays, acceleration, policy, corsRules, website, notifications,
      lifecycleRules, replication, inventoryRules, tieringRules, _⟩ := members
    have sameTags : (v.get "tags").textMap = (w.get "tags").textMap :=
      tags.2.keyed_eq fun a b same => congrArg Value.text? same
    have sameCors : (v.get "cors_rules").records CorsRule.ofValue =
        (w.get "cors_rules").records CorsRule.ofValue :=
      corsRules.2.read_items fun a b => CorsRule.ofValue_eq
    have sameLifecycle := lifecycleRules.2.keyed_eq fun a b => LifecycleRule.ofValue_eq
    have sameInventory := inventoryRules.2.keyed_eq fun a b => InventoryRule.ofValue_eq
    have sameTiering := tieringRules.2.keyed_eq fun a b => TieringRule.ofValue_eq
    simp only [ofValue, name.text?, owner.text?, sameTags, versioning.bool?, lockEnabled.bool?,
      ObjectLock.ofValue_eq objectLock.2, Encryption.ofValue_eq encryption.2,
      PublicAccess.ofValue_eq publicAccess.2, ownership.text?, requesterPays.bool?,
      acceleration.bool?, policy.text?, sameCors, Website.ofValue_eq website.2,
      Notifications.ofValue_eq notifications.2, sameLifecycle,
      Replication.ofValue_eq replication.2, sameInventory, sameTiering]

/-- However much of a description is written in another way, it is read as the same thing, with the
same mismatches in the same places. -/
theorem spellings_agree {v w : Value} (spelled : Relation.EqvGen shape.Respells v w) :
    ofValue v = ofValue w ∧ mismatches v = mismatches w := by
  induction spelled with
  | rel v w step =>
    have equated : shape.Equates v w := step.equates isOrderly_shape
    exact ⟨ofValue_eq equated, equated.mismatches_eq {}⟩
  | refl v => exact ⟨rfl, rfl⟩
  | symm v w _ ih => exact ⟨ih.1.symm, ih.2.symm⟩
  | trans u v w _ _ first second => exact ⟨first.1.trans second.1, first.2.trans second.2⟩

/-- A bucket in as few words as possible, with a text among its transitions. -/
def terseBucket : Value :=
  .record [
    ("lifecycle_rules", .record [("old", .record [
      ("transitions", .list [.list [.int 30, .str "GLACIER"], .str "later"])])]),
    ("notifications", .record [("destinations", .record [("queue", .record [
      ("events", .str "s3:ObjectCreated:*")])])])]

/-- The same bucket with its shorthands written out, a null and a key that nobody knows. -/
def wordyBucket : Value :=
  .record [
    ("lifecycle_rules", .record [("old", .record [
      ("transitions", .tuple [.record [("days", .int 30), ("storage_class", .str "GLACIER")],
        .str "later"]), ("enabled", .null)])]),
    ("notifications", .record [("destinations", .record [("queue", .list [.record [
      ("events", .list [.str "s3:ObjectCreated:*"])]])])]), ("comment", .int 1)]

theorem spellings_agree_wordyBucket : Relation.EqvGen shape.Respells terseBucket wordyBucket ∧
    ofValue terseBucket = ofValue wordyBucket ∧ mismatches terseBucket = mismatches wordyBucket := by
  have inOldRule {v w : Value} (step : LifecycleRule.shape.Respells v w)
      (after : List (Value × Value)) : shape.Respells
        (.map ((.str "lifecycle_rules", .map [(.str "old", v)]) :: after))
        (.map ((.str "lifecycle_rules", .map [(.str "old", w)]) :: after)) :=
    .inMember [] after rfl (.inOptional (.inEntry [] [] rfl step))
  have inQueue {v w : Value} (step : (Shape.oneOrMore Subscription.shape).Respells v w)
      (rules : Value × Value) : shape.Respells
        (.map [rules, (.str "notifications", .map [(.str "destinations", .map [(.str "queue", v)])])])
        (.map [rules, (.str "notifications", .map [(.str "destinations", .map [(.str "queue", w)])])]) :=
    .inMember [rules] [] rfl (.inOptional (.inMember [] [] rfl
      (.inUnlessUntrue rfl (.inEntry [] [] rfl step))))
  have spelled : Relation.EqvGen shape.Respells terseBucket wordyBucket := by
    refine .trans _ _ _ (.rel _ _ (inOldRule (.inMember [] [] rfl
      (.inOptional (.inItem [] [.str "later"] rfl (.pair (.int 30) (.str "GLACIER"))))) _)) ?_
    refine .trans _ _ _ (.rel _ _ (inOldRule (.inMember [] [] rfl (.inOptional (.tuple _ rfl))) _)) ?_
    refine .trans _ _ _ (.rel _ _ (inOldRule (.null "enabled" [_] [] (by decide) rfl) _)) ?_
    refine .trans _ _ _ (.rel _ _ (inQueue (.single rfl) _)) ?_
    refine .trans _ _ _ (.rel _ _ (inQueue (.inItem [] [] rfl (.inMember [] [] rfl
      (.inOptional (.single rfl)))) _)) ?_
    refine .rel _ _ (.unknown (.str "comment") (.int 1) [_, _] [] fun name same => ?_)
    cases same
    decide
  exact ⟨spelled, spellings_agree spelled⟩

end Descriptor

end BucketPlan
