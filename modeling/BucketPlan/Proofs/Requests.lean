import BucketPlan.Plan.Request
import BucketPlan.Proofs.Lifecycle.Legal
import BucketPlan.Proofs.Planning

namespace BucketPlan

/-- An action that has a place in a request: of a known kind, with a date of the calendar where it
goes by one. -/
structure LifecycleAction.IsRenderable (action : LifecycleAction) : Prop where
  known : ∀ name, action.kind ≠ .unknown name
  dated : ∀ text ∈ action.date, ∃ date, Date.parse text = .ok date

namespace LifecycleMembers

theorem expirationOf_returns {action : LifecycleAction} (renderable : action.IsRenderable) :
    ∃ value, expirationOf action = .ok value := by
  unfold expirationOf
  cases dateEq : action.date with
  | none => exact ⟨_, rfl⟩
  | some text =>
    obtain ⟨date, parsed⟩ := renderable.dated text dateEq
    simp only [parsed]
    exact ⟨_, rfl⟩

theorem add_returns {action : LifecycleAction} (renderable : action.IsRenderable)
    (members : LifecycleMembers) : ∃ result, members.add action = .ok result := by
  cases kindEq : action.kind with
  | expire =>
    obtain ⟨value, rendered⟩ := expirationOf_returns renderable
    simp only [add, kindEq, rendered]
    exact ⟨_, rfl⟩
  | unknown name => exact absurd kindEq (renderable.known name)
  | transition => simp [add, kindEq]
  | expireDeleteMarkers => simp [add, kindEq]
  | noncurrentTransition => simp [add, kindEq]
  | noncurrentExpire => simp [add, kindEq]
  | abortUpload => simp [add, kindEq]

end LifecycleMembers

theorem Expiration.IsLegal.renderable {e : Expiration} {transitions : List NoncurrentTransition}
    {hasTags : Bool} (legal : e.IsLegal transitions hasTags) :
    ∀ action ∈ e.actions, action.IsRenderable := by
  intro action member
  simp only [Expiration.actions, List.mem_append, List.mem_map, Option.mem_toList] at member
  rcases member with (⟨days, _, rfl⟩ | ⟨text, set, rfl⟩) | cleaning
  · exact ⟨by simp, by simp⟩
  · refine ⟨by simp, fun other same => ?_⟩
    cases same
    exact legal.date text set
  · split at cleaning
    · cases List.mem_singleton.mp cleaning
      exact ⟨by simp, by simp⟩
    · cases cleaning

namespace LifecycleRule

/-- The actions of a legal rule all have a place in a request. -/
theorem IsLegal.renderable {rule : LifecycleRule} (legal : rule.IsLegal) :
    ∀ action ∈ rule.actions, action.IsRenderable := by
  intro action member
  simp only [actions, List.mem_append, List.mem_map, List.mem_flatMap, Option.mem_toList] at member
  rcases member with (((⟨_, _, rfl⟩ | ⟨e, set, ofE⟩) | ⟨_, _, rfl⟩) | ⟨e, _, ofE⟩) | ⟨_, _, rfl⟩
  · exact ⟨by simp, by simp⟩
  · exact (legal.expiration e set).renderable action ofE
  · exact ⟨by simp, by simp⟩
  · obtain ⟨_, _, rfl⟩ := List.mem_map.mp ofE
    exact ⟨by simp, by simp⟩
  · exact ⟨by simp, by simp⟩

theorem IsLegal.request_returns {rule : LifecycleRule} (legal : rule.IsLegal) (name : String) :
    ∃ value, (rule.plan name).request = .ok value := by
  refine returns_iff_not_error.mpr fun fault failed => ?_
  obtain unrendered | ⟨_, _, ended⟩ := steps_of_bind_error failed
  · obtain ⟨members, rendered⟩ := foldlM_returns (fun action member state =>
      LifecycleMembers.add_returns (legal.renderable action member) state) {}
    cases unrendered.symm.trans rendered
  · cases ended

end LifecycleRule

namespace Notifications

theorem unknownKind?_of_ofAddress? {address : String} {kind : DestinationKind}
    {subscriptions : List Subscription} (classified : DestinationKind.ofAddress? address = some kind) :
    DestinationPlan.unknownKind? ⟨address, kind, subscriptions⟩ = none := by
  obtain ⟨marker, found, rfl⟩ := Option.map_eq_some_iff.mp classified
  have member := List.mem_of_find?_eq_some found
  have known : ∀ entry ∈ DestinationKind.markers,
      DestinationPlan.unknownKind? ⟨address, entry.2, subscriptions⟩ = none := by
    simp [DestinationKind.markers, DestinationPlan.unknownKind?]
  exact known marker member

/-- Every destination of a plan has been classified, so that it has a place in the request. -/
theorem request_returns (notifications : Notifications) :
    ∃ value, notifications.plan.request = .ok value := by
  have known : notifications.plan.destinations.findSome? DestinationPlan.unknownKind? = none := by
    refine List.findSome?_eq_none_iff.mpr fun destination member => ?_
    obtain ⟨given, inPlan, rfl⟩ := List.mem_map.mp member
    obtain ⟨⟨address, subscriptions⟩, _, kept⟩ := List.mem_filterMap.mp inPlan
    obtain ⟨kind, classified, rfl⟩ := Option.map_eq_some_iff.mp kept
    exact unknownKind?_of_ofAddress? classified
  simp only [NotificationPlan.request, known]
  exact ⟨_, rfl⟩

end Notifications

namespace Plan

theorem lifecycleCalls_return {plan : Plan} {rules : Keyed LifecycleRule}
    (planned : plan.lifecycleRules = LifecyclePlan.ofRules rules)
    (legal : ∀ rule ∈ rules.values, rule.IsLegal) : ∃ calls, plan.lifecycleCalls = .ok calls := by
  refine returns_iff_not_error.mpr fun fault failed => ?_
  obtain unrendered | ⟨_, _, ended⟩ := steps_of_bind_error failed
  · obtain ⟨rule, member, fails⟩ := mem_of_mapM_error unrendered
    rw [planned] at member
    obtain ⟨entry, inPlans, rfl⟩ := List.mem_map.mp member
    obtain ⟨⟨name, given⟩, inRules, rfl⟩ := List.mem_map.mp inPlans
    obtain ⟨value, rendered⟩ := (legal given (List.mem_map_of_mem inRules)).request_returns name
    cases fails.symm.trans rendered
  · cases ended

theorem notificationCalls_return {plan : Plan} {notifications : Option Notifications}
    (planned : plan.notifications = notifications.map Notifications.plan) :
    ∃ calls, plan.notificationCalls = .ok calls := by
  unfold notificationCalls
  cases notifications with
  | none => exact ⟨[], by simp [planned]⟩
  | some given =>
    obtain ⟨value, rendered⟩ := given.request_returns
    simp only [planned, Option.map_some, rendered]
    exact ⟨_, rfl⟩

end Plan

namespace Descriptor

theorem legal_of_passes {d : Descriptor} {options : Options}
    (passes : Passes (d.ruleFindings options)) : ∀ rule ∈ d.lifecycleRules.values, rule.IsLegal := by
  intro rule member
  obtain ⟨⟨name, given⟩, inRules, rfl⟩ := List.mem_map.mp member
  have lifecycle := reportsOnly_flatMap.mp passes .lifecycle (by decide)
  exact LifecycleRule.passes_findings.mp (reportsOnly_flatMap.mp lifecycle (name, given) inRules)

/-- A plan whose lifecycle rules have passed their checks can be carried out. -/
theorem requests_return {d : Descriptor} {replication : Option ReplicationPlan} {plan : Plan}
    (planned : d.plan (d.rulePlans replication) = .ok plan)
    (legal : ∀ rule ∈ d.lifecycleRules.values, rule.IsLegal) (minutes : Int) :
    ∃ requests, plan.requests minutes = .ok requests := by
  obtain ⟨website, _, ended⟩ := steps_of_bind_ok planned
  have lifecycleRules : plan.lifecycleRules = LifecyclePlan.ofRules d.lifecycleRules := by
    cases ended
    rfl
  have notifications : plan.notifications = d.notifications.map Notifications.plan := by
    cases ended
    rfl
  refine returns_iff_not_error.mpr fun fault failed => ?_
  obtain lifecycle | ⟨_, _, rest⟩ := steps_of_bind_error failed
  · obtain ⟨calls, made⟩ := Plan.lifecycleCalls_return lifecycleRules legal
    cases lifecycle.symm.trans made
  · obtain notification | ⟨_, _, ended⟩ := steps_of_bind_error rest
    · obtain ⟨calls, made⟩ := Plan.notificationCalls_return notifications
      cases notification.symm.trans made
    · cases ended

/-- A website that announces its objects to a queue, drops them on a date, and keeps replicas in
another account. -/
def mirroredSite : Descriptor where
  name := some "site"
  website := some { static := some { indexDocument := some "index.html" } }
  notifications := some {
    destinations.entries := [("arn:aws:sqs:queue", [{ events := ["s3:ObjectCreated:*"] }])]
    destinations.distinct := by decide }
  lifecycleRules.entries := [("sunset", { expiration := some { date := some "2030-01-31" } })]
  lifecycleRules.distinct := by decide
  replication := some {
    role := some "replicator"
    rules.entries := [("copy", {
      destination := some "mirror"
      priority := some 1
      transfer := some { accountId := some "1234" } })]
    rules.distinct := by decide }

end Descriptor

end BucketPlan
