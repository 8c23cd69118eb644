import BucketPlan.Proofs.Arranged.Plans
import BucketPlan.Proofs.Rendered.Accepted
import BucketPlan.Proofs.Rendered.Calls
import BucketPlan.Proofs.Rendered.ReplicationRule

namespace BucketPlan

namespace Replication

variable {replication : Replication} {planned : ReplicationPlan}

/-- The rules of a plan are those that were asked for, each once, in their order. -/
theorem rules_of_plan (made : replication.resolve.plan = .ok planned) :
    planned.rules.Pairwise (fun a b => a.precedes b = true) ∧
    ∃ entries, entries.Perm replication.rules.entries ∧
      List.Forall₂ (fun entry rule => entry.2.resolve.plan entry.1 = .ok rule) entries planned.rules := by
  obtain ⟨_, _, rest⟩ := steps_of_bind_ok made
  obtain ⟨plans, each, ended⟩ := steps_of_bind_ok rest
  cases ended
  have matched : List.Forall₂ (fun entry rule => entry.2.resolve.plan entry.1 = .ok rule)
      replication.rules.entries plans := List.forall₂_map_left_iff.mp (forall₂_of_mapM each)
  have perm := plans.mergeSort_perm ReplicationRulePlan.precedes
  obtain ⟨entries, sorted, moved⟩ := List.perm_comp_forall₂ perm matched.flip
  exact ⟨List.pairwise_mergeSort ReplicationRulePlan.precedes_trans ReplicationRulePlan.precedes_total
    plans, entries, moved, sorted.flip⟩

theorem priorities_of_plans {entries : List (String × ReplicationRule)}
    {plans : List ReplicationRulePlan}
    (made : List.Forall₂ (fun entry rule => entry.2.resolve.plan entry.1 = .ok rule) entries plans) :
    (entries.map Prod.snd).filterMap ReplicationRule.priority =
      plans.map ReplicationRulePlan.priority := by
  induction made with
  | nil => rfl
  | @cons entry planned _ _ first _ ih =>
    obtain ⟨destination, priority, _, ranked, rfl⟩ := ReplicationRule.planWith_of_plan first
    have known : entry.2.priority = some priority := ranked
    rw [List.map_cons, List.filterMap_cons, known, ih]
    rfl

/-- Where no two rules have one priority, the order is strict. -/
theorem descending_of_plan (made : replication.resolve.plan = .ok planned)
    (settled : replication.resolve.IsSettled) :
    planned.rules.Pairwise fun a b => b.priority < a.priority := by
  obtain ⟨sorted, entries, moved, matched⟩ := rules_of_plan made
  have unique : (replication.rules.values.filterMap ReplicationRule.priority).Nodup := by
    have resolved := settled.unique
    rw [resolve, Keyed.values, Keyed.mapValues, List.map_map, List.filterMap_map] at resolved
    rw [Keyed.values, List.filterMap_map]
    exact resolved
  have distinct : (planned.rules.map ReplicationRulePlan.priority).Nodup := by
    rw [← priorities_of_plans matched]
    exact ((moved.map Prod.snd).filterMap _).nodup_iff.mpr unique
  refine (sorted.and (List.pairwise_map.mp distinct)).imp fun both => ?_
  obtain ⟨precedes, apart⟩ := both
  simpa [ReplicationRulePlan.precedes, apart] using precedes

end Replication

theorem Plan.replicationCalls_eq {plan : Plan} {planned : ReplicationPlan}
    (made : plan.replication = some planned) (minutes : Int) :
    ∃ call, plan.replicationCalls minutes = [call] ∧
      call.params.memberAt? ["ReplicationConfiguration", "Rules"] =
        some (.list (planned.rules.map (·.request minutes))) := by
  rw [replicationCalls, made]
  exact ⟨_, rfl, by simp [call]⟩

namespace Descriptor.Yields

variable {d : Descriptor} {options : Options} {plan : Plan} {replication : Replication}

theorem isLegal_rule (yields : d.Yields options plan) (given : replication ∈ d.replication)
    {entry : String × ReplicationRule} (member : entry ∈ replication.rules.entries) :
    entry.2.IsLegal d.encryption :=
  (yields.isValid.replication replication given).rules entry.2 (List.mem_map_of_mem member)

theorem isManaged (yields : d.Yields options plan) (given : replication ∈ d.replication)
    {entry : String × ReplicationRule} (member : entry ∈ replication.rules.entries)
    (encrypted : entry.2.encrypted ≠ none) :
    plan.encryption.algorithm ∈ ["aws:kms", "aws:kms:dsse"] := by
  obtain ⟨own, set, name, known, managed⟩ := (yields.isLegal_rule given member).sourceKey encrypted
  have algorithm : (Encryption.plan d.encryption).algorithm = name := by
    simp [Encryption.plan, Encryption.resolve, Option.mem_def.mp set, Option.mem_def.mp known]
  rwa [yields.encryption_eq, algorithm]

end Descriptor.Yields

/-- What a replication asks for stands in its plan and in its request: every rule once, the most urgent
one first, with all that it says of its replicas. -/
theorem compile_replication {value : Value} {options : Options} {result : Result}
    (returned : (compile value options).outcome = .ok result) (bundled : result.state = .bundled)
    {replication : Replication} (given : replication ∈ (Descriptor.ofValue value).replication)
    (minutes : Int) :
    ∃ plan planned requests call entries stated,
      result.plan = some plan ∧ plan.replication = some planned ∧
      plan.requests minutes = .ok requests ∧ callsOf .putReplication requests = [call] ∧
      call.params.memberAt? ["ReplicationConfiguration", "Rules"] = some (.list stated) ∧
      entries.Perm replication.rules.entries ∧
      List.Forall₂ (fun entry rule => entry.2.IsPlannedAs entry.1 rule) entries planned.rules ∧
      List.Forall₂ (fun entry rule => entry.2.IsStatedBy entry.1 minutes rule) entries stated ∧
      planned.rules.Pairwise (fun a b => b.priority < a.priority) ∧
      (∀ entry ∈ entries, entry.2.encrypted ≠ none →
        plan.encryption.algorithm ∈ ["aws:kms", "aws:kms:dsse"]) := by
  obtain ⟨plan, found, yields⟩ := compile_yields returned bundled
  obtain ⟨requests, rendered⟩ := yields.requests_return minutes
  obtain ⟨planned, made, own⟩ := yields.replication_eq given
  obtain ⟨call, single, rules⟩ := Plan.replicationCalls_eq own minutes
  obtain ⟨_, entries, moved, matched⟩ := Replication.rules_of_plan made
  have settled : replication.resolve.IsSettled :=
    yields.isSettled.replication _ (Option.mem_map_of_mem _ given)
  have legal := (List.forall₂_and_left _ _).mpr
    ⟨fun entry member => yields.isLegal_rule given (moved.mem_iff.mp member), matched⟩
  refine ⟨plan, planned, requests, call, entries, _, found, own, rendered,
    (Plan.callsOf_requests rendered).2.1.trans single, rules, moved, ?_, ?_,
    Replication.descending_of_plan made settled, ?_⟩
  · exact legal.imp fun entry rule both => both.1.isPlannedAs both.2
  · exact List.forall₂_map_right_iff.mpr
      (legal.imp fun entry rule both => both.1.isStatedBy both.2 minutes)
  · exact fun entry member encrypted => yields.isManaged given (moved.mem_iff.mp member) encrypted

/-- Photographs that are copied within their account under a key of the copy, and before that into the
account of another, in time. -/
def mirroredPhotos : Value :=
  .record [("name", .str "photos"), ("encryption", .record [("sse_algorithm", .str "aws:kms")]),
    ("replication", .record [("role", .str "replicator"), ("rules", .record [
      ("near", .record [("destination_bucket", .str "mirror"), ("priority", .int 1),
        ("replicate_kms_encrypted_objects", .record [("replica_kms_key_id", .str "key")])]),
      ("far", .record [("destination_bucket", .str "arn:aws:s3:::vault"), ("priority", .int 2),
        ("change_object_ownership_to_destination_bucket_owner",
          .record [("destination_account_id", .str " 1234 ")]),
        ("features", .record [("replication_time_control", .bool true)])])])])]

theorem compile_mirroredPhotos_replication :
    ∃ result plan planned requests call stated, (compile mirroredPhotos).outcome = .ok result ∧
      result.state = .bundled ∧ result.plan = some plan ∧ plan.replication = some planned ∧
      plan.requests = .ok requests ∧ callsOf .putReplication requests = [call] ∧
      call.params.memberAt? ["ReplicationConfiguration", "Rules"] = some (.list stated) ∧
      planned.rules.length = 2 ∧ stated.length = 2 ∧
      planned.rules.Pairwise (fun a b => b.priority < a.priority) ∧
      plan.encryption.algorithm ∈ ["aws:kms", "aws:kms:dsse"] := by
  have complete : (compile mirroredPhotos).outcome.toOption.map Result.state = some .bundled := by
    decide +kernel
  obtain ⟨result, returned, bundled⟩ := compile_returns_bundled complete
  obtain ⟨plan, planned, requests, call, entries, stated, made, own, rendered, single, rules, moved,
    plans, statements, descending, managed⟩ := compile_replication returned bundled
      (show _ ∈ some _ from rfl) ReplicationRulePlan.thresholdMinutes
  have count : entries.length = 2 := moved.length_eq
  refine ⟨result, plan, planned, requests, call, stated, returned, bundled, made, own, rendered,
    single, rules, plans.length_eq.symm.trans count, statements.length_eq.symm.trans count, descending,
    managed _ (moved.mem_iff.mpr List.mem_cons_self) ?_⟩
  decide +kernel

end BucketPlan
