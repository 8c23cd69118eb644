import BucketPlan.Proofs.Removal.Listed
import BucketPlan.Proofs.Rendered.Announcements
import BucketPlan.Proofs.Rendered.Versions

namespace BucketPlan

namespace Plan

/-- Whether a plan has a use for an operation. Those for a single rule are used once for each rule. -/
def asksFor (plan : Plan) : Operation → Bool
  | .createBucket | .putOwnershipControls | .putPublicAccessBlock | .putEncryption
  | .putRequestPayment => true
  | .putVersioning => plan.versioning
  | .putTagging => !plan.tags.isEmpty
  | .putAccelerate => plan.acceleration
  | .putObjectLock => plan.objectLock.any ObjectLockPlan.isConfigured
  | .putPolicy => isFilled plan.policy
  | .putCors => !plan.corsRules.isEmpty
  | .putWebsite => plan.website.isSome
  | .putLifecycle => !plan.lifecycleRules.isEmpty
  | .putReplication => plan.replication.isSome
  | .putNotification => plan.notifications.isSome
  | .putInventory | .putTiering => true

/-- The operations that carry out a plan, in the order in which they are called. -/
def operations (plan : Plan) : List Operation :=
  Operation.single.filter plan.asksFor ++
    (List.replicate plan.inventoryRules.size .putInventory ++
      List.replicate plan.tieringRules.size .putTiering)

/-- Calls for the bucket of a plan that go through those of certain operations that the plan has a use
for. -/
structure CallsAmong (plan : Plan) (operations : List Operation) (calls : List Request) : Prop where
  order : calls.map Request.operation = operations.filter plan.asksFor
  bucket : ∀ call ∈ calls, call.params.member? "Bucket" = some (.str plan.bucketName)

variable {plan : Plan} {operation : Operation} {operations : List Operation} {calls : List Request}
  {fields : List (String × Value)}

namespace CallsAmong

theorem none : plan.CallsAmong [] [] where
  order := rfl
  bucket _ member := nomatch member

theorem append {others : List Operation} {more : List Request}
    (first : plan.CallsAmong operations calls) (second : plan.CallsAmong others more) :
    plan.CallsAmong (operations ++ others) (calls ++ more) where
  order := by rw [List.map_append, List.filter_append, first.order, second.order]
  bucket call member := by
    rcases List.mem_append.mp member with early | late
    · exact first.bucket call early
    · exact second.bucket call late

theorem cons (asked : plan.asksFor operation = true) (rest : plan.CallsAmong operations calls) :
    plan.CallsAmong (operation :: operations) (plan.call operation fields :: calls) where
  order := by
    rw [List.filter_cons_of_pos asked, List.map_cons, rest.order]
    rfl
  bucket call member := by
    rcases List.mem_cons.mp member with rfl | later
    · simp [Plan.call]
    · exact rest.bucket call later

theorem ofCall (asked : plan.asksFor operation = true) :
    plan.CallsAmong [operation] [plan.call operation fields] :=
  cons asked none

theorem ofUnasked (unasked : plan.asksFor operation = false) : plan.CallsAmong [operation] [] where
  order := by rw [List.filter_cons_of_neg (by simp [unasked])]; rfl
  bucket _ member := nomatch member

theorem ofCallIf {condition : Bool} (asked : plan.asksFor operation = condition) :
    plan.CallsAmong [operation] (plan.callIf condition operation fields) := by
  cases condition with
  | false => exact ofUnasked asked
  | true => exact ofCall asked

theorem ofEach {α : Type} (asked : plan.asksFor operation = true) (items : List α)
    (content : α → List (String × Value)) :
    plan.CallsAmong (List.replicate items.length operation)
      (items.map fun item => plan.call operation (content item)) := by
  induction items with
  | nil => exact none
  | cons item rest ih => exact ih.cons asked

end CallsAmong

theorem callsAmong_settingCalls : plan.CallsAmong
    [.createBucket, .putOwnershipControls, .putPublicAccessBlock, .putVersioning, .putEncryption,
      .putTagging, .putRequestPayment, .putAccelerate] plan.settingCalls := by
  have bucket : plan.CallsAmong [.createBucket, .putOwnershipControls, .putPublicAccessBlock]
      (plan.settingCalls.take 3) := .cons rfl (.cons rfl (.ofCall rfl))
  exact ((((bucket.append (.ofCallIf rfl)).append (.ofCall rfl)).append (.ofCallIf rfl)).append
    (.ofCall rfl)).append (.ofCallIf rfl)

theorem callsAmong_lockCalls : plan.CallsAmong [.putObjectLock] plan.lockCalls := by
  rw [lockCalls]
  split
  · rename_i unlocked
    exact .ofUnasked (by rw [asksFor, unlocked]; rfl)
  · rename_i lock locked
    exact .ofCallIf (by rw [asksFor, locked]; rfl)

theorem callsAmong_contentCalls :
    plan.CallsAmong [.putPolicy, .putCors, .putWebsite] plan.contentCalls := by
  refine ((CallsAmong.ofCallIf rfl).append (.ofCallIf rfl)).append ?_
  cases served : plan.website with
  | none => exact .ofUnasked (by rw [asksFor, served]; rfl)
  | some website => exact .ofCall (by rw [asksFor, served]; rfl)

theorem callsAmong_lifecycleCalls (made : plan.lifecycleCalls = .ok calls) :
    plan.CallsAmong [.putLifecycle] calls := by
  obtain ⟨rules, _, ended⟩ := steps_of_bind_ok made
  cases ended
  exact .ofCallIf rfl

theorem callsAmong_replicationCalls (minutes : Int) :
    plan.CallsAmong [.putReplication] (plan.replicationCalls minutes) := by
  rw [replicationCalls]
  cases replicated : plan.replication with
  | none => exact .ofUnasked (by rw [asksFor, replicated]; rfl)
  | some replication => exact .ofCall (by rw [asksFor, replicated]; rfl)

theorem callsAmong_notificationCalls (made : plan.notificationCalls = .ok calls) :
    plan.CallsAmong [.putNotification] calls := by
  rw [notificationCalls] at made
  split at made
  · rename_i silent
    cases made
    exact .ofUnasked (by rw [asksFor, silent]; rfl)
  · rename_i notifications announced
    obtain ⟨configuration, _, ended⟩ := steps_of_bind_ok made
    cases ended
    exact .ofCall (by rw [asksFor, announced]; rfl)

theorem callsAmong_ruleCalls : plan.CallsAmong
    (List.replicate plan.inventoryRules.size .putInventory ++
      List.replicate plan.tieringRules.size .putTiering) plan.ruleCalls := by
  have inventory : plan.inventoryRules.values.length = plan.inventoryRules.size :=
    List.length_map Prod.snd
  have tiering : plan.tieringRules.values.length = plan.tieringRules.size := List.length_map Prod.snd
  rw [← inventory, ← tiering]
  exact (CallsAmong.ofEach rfl _ _).append (.ofEach rfl _ _)

theorem callsAmong_requests {minutes : Int} {requests : List Request}
    (rendered : plan.requests minutes = .ok requests) : plan.CallsAmong (Operation.single ++
      (List.replicate plan.inventoryRules.size .putInventory ++
        List.replicate plan.tieringRules.size .putTiering)) requests := by
  obtain ⟨lifecycle, notification, made, announced, rfl⟩ := requests_eq rendered
  exact (((((callsAmong_settingCalls.append callsAmong_lockCalls).append callsAmong_contentCalls).append
    (callsAmong_lifecycleCalls made)).append (callsAmong_replicationCalls minutes)).append
    (callsAmong_notificationCalls announced)).append callsAmong_ruleCalls

theorem operations_requests {minutes : Int} {requests : List Request}
    (rendered : plan.requests minutes = .ok requests) :
    requests.map Request.operation = plan.operations := by
  rw [(callsAmong_requests rendered).order, operations, List.filter_append, List.filter_append,
    List.filter_replicate_of_pos rfl, List.filter_replicate_of_pos rfl]

theorem operations_sublist (plan : Plan) : plan.operations.Sublist (Operation.single ++
    (List.replicate plan.inventoryRules.size .putInventory ++
      List.replicate plan.tieringRules.size .putTiering)) :=
  List.filter_sublist.append_right _

end Plan

theorem LifecyclePlan.member?_id {rule : LifecyclePlan} {request : Value}
    (rendered : rule.request = .ok request) : request.member? "ID" = some (.str rule.name) := by
  obtain ⟨members, _, ended⟩ := steps_of_bind_ok rendered
  cases ended
  simp

theorem ReplicationRulePlan.member?_id (rule : ReplicationRulePlan) (minutes : Int) :
    (rule.request minutes).member? "ID" = some (.str rule.name) := by
  simp [request]

theorem InventoryPlan.member?_id (rule : InventoryPlan) :
    rule.request.member? "Id" = some (.str rule.name) := by
  simp [request]

theorem TieringPlan.member?_id (rule : TieringPlan) :
    rule.request.member? "Id" = some (.str rule.name) := by
  simp [request]

/-- What is planned under the name it is kept by is listed by this name. -/
theorem Keyed.map_values_mapValues {α β : Type} {f : String → α → β} {name : β → String}
    (named : ∀ own item, name (f own item) = own) (map : Keyed α) :
    (map.mapValues f).values.map name = (map.mapValues f).names := by
  rw [values, names, entries_mapValues, List.map_map, List.map_map, List.map_map]
  exact List.map_congr_left fun entry _ => named entry.1 entry.2

namespace Plan

variable {plan : Plan} {calls : List Request}

theorem head_requests {minutes : Int} {requests : List Request}
    (rendered : plan.requests minutes = .ok requests) :
    requests.head?.map Request.operation = some .createBucket := by
  obtain ⟨rest, rfl⟩ := settingCalls_isPrefix rendered
  rfl

theorem count_operations_le {operation : Operation}
    (other : operation ∉ [Operation.putInventory, .putTiering]) : plan.operations.count operation ≤ 1 := by
  have distinct : Operation.single.Nodup := by decide
  simp only [List.mem_cons, List.not_mem_nil, or_false, not_or] at other
  calc plan.operations.count operation
      ≤ (Operation.single ++ (List.replicate plan.inventoryRules.size Operation.putInventory ++
          List.replicate plan.tieringRules.size Operation.putTiering)).count operation :=
      plan.operations_sublist.count_le operation
    _ = Operation.single.count operation := by
      simp [List.count_replicate, Ne.symm other.1, Ne.symm other.2]
    _ ≤ 1 := List.nodup_iff_count_le_one.mp distinct operation

theorem ids_lifecycleCalls (made : plan.lifecycleCalls = .ok calls) :
    (calls.flatMap (·.params.itemsAt ["LifecycleConfiguration", "Rules"])).map (·.member? "ID") =
      plan.lifecycleRules.values.map fun rule => some (.str rule.name) := by
  obtain ⟨rules, each, ended⟩ := steps_of_bind_ok made
  cases ended
  rw [← map_of_mapM each fun rule request rendered => LifecyclePlan.member?_id rendered]
  refine congrArg (List.map fun rule : Value => rule.member? "ID") ?_
  cases empty : plan.lifecycleRules.isEmpty with
  | true =>
    have noRules : plan.lifecycleRules.values = [] :=
      List.map_eq_nil_iff.mpr (List.isEmpty_iff.mp empty)
    rw [noRules] at each
    cases each
    rfl
  | false => simp [callIf, call, Value.itemsAt, Value.sequence?]

theorem ids_replicationCalls (plan : Plan) (minutes : Int) :
    ((plan.replicationCalls minutes).flatMap
      (·.params.itemsAt ["ReplicationConfiguration", "Rules"])).map (·.member? "ID") =
      plan.replicationNames.map fun name => some (.str name) := by
  rw [replicationCalls, replicationNames]
  cases plan.replication with
  | none => rfl
  | some replication =>
    simp [call, Value.itemsAt, Value.sequence?, ReplicationRulePlan.member?_id, Function.comp_def]

/-- Requests that carry out a plan: operation after operation, and what concerns a rule under the name
of the rule. -/
structure IsCarriedOutBy (plan : Plan) (requests : List Request) : Prop where
  /-- The operations that the plan has a use for are called, and no others. -/
  complete : requests.map Request.operation = plan.operations
  first : requests.head?.map Request.operation = some .createBucket
  order : (requests.map Request.operation).Sublist (Operation.single ++
    (List.replicate plan.inventoryRules.size .putInventory ++
      List.replicate plan.tieringRules.size .putTiering))
  once : ∀ operation ∉ [Operation.putInventory, .putTiering],
    (callsOf operation requests).length ≤ 1
  bucket : ∀ call ∈ requests, call.params.member? "Bucket" = some (.str plan.bucketName)
  distinct : plan.lifecycleRules.names.Nodup ∧ plan.replicationNames.Nodup ∧
    plan.inventoryRules.names.Nodup ∧ plan.tieringRules.names.Nodup
  lifecycle : ((callsOf .putLifecycle requests).flatMap
    (·.params.itemsAt ["LifecycleConfiguration", "Rules"])).map (·.member? "ID") =
      plan.lifecycleRules.names.map fun name => some (.str name)
  replication : ((callsOf .putReplication requests).flatMap
    (·.params.itemsAt ["ReplicationConfiguration", "Rules"])).map (·.member? "ID") =
      plan.replicationNames.map fun name => some (.str name)
  inventory : (callsOf .putInventory requests).map (·.params.member? "Id") =
    plan.inventoryRules.names.map fun name => some (.str name)
  tiering : (callsOf .putTiering requests).map (·.params.member? "Id") =
    plan.tieringRules.names.map fun name => some (.str name)
  inventoryWithin : ∀ call ∈ callsOf .putInventory requests,
    call.params.memberAt? ["InventoryConfiguration", "Id"] = call.params.member? "Id"
  tieringWithin : ∀ call ∈ callsOf .putTiering requests,
    call.params.memberAt? ["IntelligentTieringConfiguration", "Id"] = call.params.member? "Id"

end Plan

namespace Descriptor.Yields

variable {d : Descriptor} {options : Options} {plan : Plan}

theorem names_values (yields : d.Yields options plan) :
    plan.lifecycleRules.values.map LifecyclePlan.name = plan.lifecycleRules.names ∧
    plan.inventoryRules.values.map InventoryPlan.name = plan.inventoryRules.names ∧
    plan.tieringRules.values.map TieringPlan.name = plan.tieringRules.names := by
  obtain ⟨replication, _, made⟩ := yields.made
  obtain ⟨website, _, ended⟩ := steps_of_bind_ok made
  cases ended
  exact ⟨Keyed.map_values_mapValues (fun _ _ => rfl) _,
    Keyed.map_values_mapValues (fun _ _ => rfl) _, Keyed.map_values_mapValues (fun _ _ => rfl) _⟩

theorem nodup_replicationNames (yields : d.Yields options plan) : plan.replicationNames.Nodup := by
  by_cases planned : plan.replication = none
  · rw [Plan.replicationNames, planned]
    exact List.nodup_nil
  · obtain ⟨replication, given⟩ := yields.replication_given planned
    obtain ⟨rules, made, own⟩ := yields.replication_eq given
    rw [Plan.replicationNames, own, Option.toList_some, List.flatMap_singleton]
    exact (Replication.names_plan made).nodup_iff.mpr replication.resolve.rules.distinct

theorem isCarriedOutBy (yields : d.Yields options plan) {minutes : Int} {requests : List Request}
    (rendered : plan.requests minutes = .ok requests) : plan.IsCarriedOutBy requests := by
  have complete := Plan.operations_requests rendered
  obtain ⟨lifecycle, inventory, tiering⟩ := Plan.callsOf_requests_rules rendered
  obtain ⟨lifecycleNames, inventoryNames, tieringNames⟩ := yields.names_values
  refine {
    complete
    first := Plan.head_requests rendered
    order := complete ▸ plan.operations_sublist
    once := fun operation other => ?_
    bucket := (Plan.callsAmong_requests rendered).bucket
    distinct := ⟨plan.lifecycleRules.distinct, yields.nodup_replicationNames,
      plan.inventoryRules.distinct, plan.tieringRules.distinct⟩
    lifecycle := ?_
    replication := ?_
    inventory := ?_
    tiering := ?_
    inventoryWithin := ?_
    tieringWithin := ?_ }
  · rw [length_callsOf, complete]
    exact Plan.count_operations_le other
  · rw [Plan.ids_lifecycleCalls lifecycle, ← lifecycleNames, List.map_map]
    rfl
  · rw [(Plan.callsOf_requests rendered).2.1, Plan.ids_replicationCalls]
  · rw [inventory, ← inventoryNames, List.map_map, List.map_map]
    exact List.map_congr_left fun rule _ => by simp [Plan.call]
  · rw [tiering, ← tieringNames, List.map_map, List.map_map]
    exact List.map_congr_left fun rule _ => by simp [Plan.call]
  · intro call member
    rw [inventory] at member
    obtain ⟨rule, _, rfl⟩ := List.mem_map.mp member
    simp [Plan.call, InventoryPlan.member?_id]
  · intro call member
    rw [tiering] at member
    obtain ⟨rule, _, rfl⟩ := List.mem_map.mp member
    simp [Plan.call, TieringPlan.member?_id]

end Descriptor.Yields

/-- Whatever is compiled to a plan can be rendered, and the requests carry out the plan. -/
theorem compile_requests {value : Value} {options : Options} {result : Result} {plan : Plan}
    (returned : (compile value options).outcome = .ok result) (produced : result.plan = some plan)
    (minutes : Int) :
    ∃ requests, plan.requests minutes = .ok requests ∧ plan.IsCarriedOutBy requests := by
  have yields := compile_yields_of_plan returned produced
  obtain ⟨requests, rendered⟩ := yields.requests_return minutes
  exact ⟨requests, rendered, yields.isCarriedOutBy rendered⟩

/-- A bucket with rules of every kind. -/
def ruledArchive : Value :=
  .record [("name", .str "archive"), ("tags", .record [("team", .str "records")]),
    ("lifecycle_rules", .record [
      ("old", .record [("transitions", .list [.list [.int 30, .str "GLACIER"]])]),
      ("gone", .record [("expiration", .record [("days_after_object_creation", .int 900)])])]),
    ("replication", .record [("role", .str "replicator"), ("rules", .record [
      ("far", .record [("destination_bucket", .str "vault"), ("priority", .int 1)]),
      ("near", .record [("destination_bucket", .str "mirror"), ("priority", .int 2)])])]),
    ("inventory_rules", .record [
      ("weekly", .record [("destination", .record [("bucket_arn", .str "reports")])])]),
    ("intelligent_tiering_rules", .record [
      ("cold", .record [("tierings", .record [("ARCHIVE_ACCESS", .int 90)])]),
      ("colder", .record [("tierings", .record [("DEEP_ARCHIVE_ACCESS", .int 180)])])])]

theorem compile_ruledArchive_requests :
    ∃ result plan requests, (compile ruledArchive).outcome = .ok result ∧ result.plan = some plan ∧
      plan.requests 30 = .ok requests ∧ plan.IsCarriedOutBy requests ∧
      plan.lifecycleRules.names = ["old", "gone"] ∧ plan.replication.isSome = true ∧
      plan.inventoryRules.names = ["weekly"] ∧ plan.tieringRules.names = ["cold", "colder"] := by
  have names : ((compile ruledArchive).outcome.toOption.bind Result.plan).map (fun plan =>
      (plan.lifecycleRules.names, plan.replication.isSome, plan.inventoryRules.names,
        plan.tieringRules.names)) = some (["old", "gone"], true, ["weekly"], ["cold", "colder"]) := by
    decide +kernel
  obtain ⟨plan, found, own⟩ := Option.map_eq_some_iff.mp names
  obtain ⟨result, known, produced⟩ := Option.bind_eq_some_iff.mp found
  have returned := eq_ok_of_toOption known
  obtain ⟨requests, rendered, carried⟩ := compile_requests returned produced 30
  simp only [Prod.mk.injEq] at own
  exact ⟨result, plan, requests, returned, produced, rendered, carried, own⟩

end BucketPlan
