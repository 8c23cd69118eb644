import BucketPlan.Plan.Request
import BucketPlan.Proofs.Fallible

namespace BucketPlan

/-- The operations that set up a bucket as a whole, in the order in which they are called. -/
def Operation.single : List Operation :=
  [.createBucket, .putOwnershipControls, .putPublicAccessBlock, .putVersioning, .putEncryption,
    .putTagging, .putRequestPayment, .putAccelerate, .putObjectLock, .putPolicy, .putCors, .putWebsite,
    .putLifecycle, .putReplication, .putNotification]

/-- The calls of one operation, in their order. -/
def callsOf (operation : Operation) (requests : List Request) : List Request :=
  requests.filter (·.operation = operation)

theorem length_callsOf (operation : Operation) (requests : List Request) :
    (callsOf operation requests).length = (requests.map Request.operation).count operation := by
  rw [callsOf, List.count, List.countP_map, List.countP_eq_length_filter]
  rfl

section

variable {operation other : Operation} {plan : Plan} {fields : List (String × Value)}

@[simp]
theorem callsOf_nil : callsOf operation [] = [] := rfl

@[simp]
theorem callsOf_append (first second : List Request) :
    callsOf operation (first ++ second) = callsOf operation first ++ callsOf operation second :=
  List.filter_append first second

@[simp]
theorem callsOf_cons_call (rest : List Request) :
    callsOf operation (plan.call other fields :: rest) =
      if other = operation then plan.call other fields :: callsOf operation rest
      else callsOf operation rest := by
  by_cases same : other = operation
  · rw [if_pos same]
    exact List.filter_cons_of_pos (decide_eq_true same)
  · rw [if_neg same]
    exact List.filter_cons_of_neg fun found => same (of_decide_eq_true found)

@[simp]
theorem callsOf_callIf (condition : Bool) :
    callsOf operation (plan.callIf condition other fields) =
      if other = operation then plan.callIf condition other fields else [] := by
  cases condition
  · simp [Plan.callIf]
  · simp [Plan.callIf]

@[simp]
theorem callsOf_map_call {α : Type} (items : List α) (content : α → List (String × Value)) :
    callsOf operation (items.map fun item => plan.call other (content item)) =
      if other = operation then items.map fun item => plan.call other (content item) else [] := by
  induction items with
  | nil => simp
  | cons item rest ih =>
    rw [List.map_cons, callsOf_cons_call, ih]
    split <;> rfl

end

namespace Plan

variable {plan : Plan}

theorem mem_callIf {condition : Bool} {operation : Operation} {fields : List (String × Value)}
    {call : Request} : call ∈ plan.callIf condition operation fields ↔
      condition = true ∧ call = plan.call operation fields := by
  cases condition <;> simp [callIf]

/-- The groups of calls that the requests of a plan are put together from. -/
theorem requests_eq {minutes : Int} {requests : List Request}
    (rendered : plan.requests minutes = .ok requests) : ∃ lifecycle notification,
      plan.lifecycleCalls = .ok lifecycle ∧ plan.notificationCalls = .ok notification ∧
      requests = plan.settingCalls ++ plan.lockCalls ++ plan.contentCalls ++ lifecycle ++
        plan.replicationCalls minutes ++ notification ++ plan.ruleCalls := by
  obtain ⟨lifecycle, made, rest⟩ := steps_of_bind_ok rendered
  obtain ⟨notification, announced, ended⟩ := steps_of_bind_ok rest
  cases ended
  exact ⟨lifecycle, notification, made, announced, rfl⟩

/-- The bucket is set up before anything is put in it. -/
theorem settingCalls_isPrefix {minutes : Int} {requests : List Request}
    (rendered : plan.requests minutes = .ok requests) : plan.settingCalls <+: requests := by
  obtain ⟨lifecycle, notification, _, _, rfl⟩ := requests_eq rendered
  simp only [List.append_assoc]
  exact List.prefix_append _ _

theorem callsOf_lifecycleCalls {operation : Operation} {calls : List Request}
    (made : plan.lifecycleCalls = .ok calls) :
    callsOf operation calls = if operation = .putLifecycle then calls else [] := by
  obtain ⟨rules, _, ended⟩ := steps_of_bind_ok made
  cases ended
  simp [eq_comm]

theorem callsOf_notificationCalls {operation : Operation} {calls : List Request}
    (made : plan.notificationCalls = .ok calls) :
    callsOf operation calls = if operation = .putNotification then calls else [] := by
  rw [notificationCalls] at made
  split at made
  · cases made
    split <;> rfl
  · obtain ⟨configuration, _, ended⟩ := steps_of_bind_ok made
    cases ended
    simp [eq_comm]

theorem callsOf_lockCalls {operation : Operation} :
    callsOf operation plan.lockCalls = if operation = .putObjectLock then plan.lockCalls else [] := by
  rw [lockCalls]
  split
  · simp
  · simp [eq_comm]

/-- Among the requests of a plan, the calls that lock objects, replicate them or announce them are those
that are made for it. -/
theorem callsOf_requests {minutes : Int} {requests : List Request}
    (rendered : plan.requests minutes = .ok requests) :
    callsOf .putObjectLock requests = plan.lockCalls ∧
    callsOf .putReplication requests = plan.replicationCalls minutes ∧
    plan.notificationCalls = .ok (callsOf .putNotification requests) := by
  obtain ⟨lifecycle, notification, made, announced, rfl⟩ := requests_eq rendered
  rw [announced]
  simp [settingCalls, contentCalls, replicationCalls, ruleCalls, callsOf_lockCalls,
    callsOf_lifecycleCalls made, callsOf_notificationCalls announced]

/-- And so are the calls about rules that are kept by name. -/
theorem callsOf_requests_rules {minutes : Int} {requests : List Request}
    (rendered : plan.requests minutes = .ok requests) :
    plan.lifecycleCalls = .ok (callsOf .putLifecycle requests) ∧
    callsOf .putInventory requests = (plan.inventoryRules.values.map fun rule =>
      plan.call .putInventory [("Id", plain rule.name), ("InventoryConfiguration", rule.request)]) ∧
    callsOf .putTiering requests = plan.tieringRules.values.map fun rule =>
      plan.call .putTiering
        [("Id", plain rule.name), ("IntelligentTieringConfiguration", rule.request)] := by
  obtain ⟨lifecycle, notification, made, announced, rfl⟩ := requests_eq rendered
  rw [made]
  simp [settingCalls, contentCalls, replicationCalls, ruleCalls, callsOf_lockCalls,
    callsOf_lifecycleCalls made, callsOf_notificationCalls announced]

/-- And so are the calls about the pages of a bucket and about the pages of others. -/
theorem callsOf_requests_contents {minutes : Int} {requests : List Request}
    (rendered : plan.requests minutes = .ok requests) :
    callsOf .putCors requests = plan.callIf (!plan.corsRules.isEmpty) .putCors
      [("CORSConfiguration", .record [("CORSRules", .list (plan.corsRules.map CorsRule.request))])] ∧
    callsOf .putWebsite requests = plan.website.toList.map fun website =>
      plan.call .putWebsite [("WebsiteConfiguration", website.request)] := by
  obtain ⟨lifecycle, notification, made, announced, rfl⟩ := requests_eq rendered
  simp [settingCalls, contentCalls, replicationCalls, ruleCalls, callsOf_lockCalls,
    callsOf_lifecycleCalls made, callsOf_notificationCalls announced]

end Plan

end BucketPlan
