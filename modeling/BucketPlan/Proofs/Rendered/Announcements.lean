import BucketPlan.Proofs.Rendered.Accepted
import BucketPlan.Proofs.Rendered.Calls
import BucketPlan.Proofs.Rendered.Destinations
import BucketPlan.Proofs.Rendered.Member

namespace BucketPlan

theorem length_flatMap_of_forall₂ {α β γ δ : Type} {items : List α} {others : List β}
    {f : α → List γ} {g : β → List δ}
    (matched : List.Forall₂ (fun a b => (f a).length = (g b).length) items others) :
    (items.flatMap f).length = (others.flatMap g).length := by
  induction matched with
  | nil => rfl
  | cons first _ ih =>
    rw [List.flatMap_cons, List.flatMap_cons, List.length_append, List.length_append, first, ih]

namespace Value

/-- Whether an announcement is made for the objects under a key. -/
def AdmitsKey (stated : Value) (key : String) : Prop :=
  ∀ rule ∈ stated.itemsAt ["Filter", "Key", "FilterRules"],
    (rule.member? "Name" = some (.str "prefix") →
      ∃ text, rule.member? "Value" = some (.str text) ∧ text.toList <+: key.toList) ∧
    (rule.member? "Name" = some (.str "suffix") →
      ∃ text, rule.member? "Value" = some (.str text) ∧ text.toList <:+ key.toList)

end Value

/-- A value that announces what an address subscribes to, and has the address under a name of its own. -/
structure Subscription.IsAnnouncedBy (addressKey : String) (announcement : String × Subscription)
    (stated : Value) : Prop where
  address : stated.member? addressKey = some (.str announcement.1)
  events : stated.itemsAt ["Events"] = announcement.2.events.map .str
  keys : ∀ key, stated.AdmitsKey key ↔
    (announcement.2.keyPrefix.getD "").toList <+: key.toList ∧
    (announcement.2.keySuffix.getD "").toList <:+ key.toList

namespace DestinationPlan

variable {s : Subscription} {address addressKey : String}

theorem itemsAt_filterRules (apart : addressKey ≠ "Filter") :
    (entry address addressKey s).itemsAt ["Filter", "Key", "FilterRules"] = filterRules s := by
  cases rules : filterRules s with
  | nil => simp [entry, Value.itemsAt, rules, apart.symm]
  | cons first others => simp [entry, Value.itemsAt, rules, apart.symm, Value.sequence?]

theorem isAnnouncedBy_entry (known : addressKey ∉ ["Events", "Filter"]) :
    Subscription.IsAnnouncedBy addressKey (address, s) (entry address addressKey s) := by
  simp only [List.mem_cons, List.not_mem_nil, or_false, not_or] at known
  refine ⟨?_, ?_, fun key => ?_⟩
  · simp [entry]
  · simp [entry, Value.itemsAt, Ne.symm known.1, plain, Value.sequence?]
  · rw [Value.AdmitsKey, itemsAt_filterRules known.2, filterRules, List.forall_mem_append]
    refine and_congr ?_ ?_
    · cases s.keyPrefix with
      | none => simp [isFilled]
      | some text => by_cases empty : text = "" <;> simp [isFilled, empty]
    · cases s.keySuffix with
      | none => simp [isFilled]
      | some text => by_cases empty : text = "" <;> simp [isFilled, empty]

end DestinationPlan

/-- Where a configuration lists what is announced to a kind of destination, and the name that it gives
the addresses there. -/
def DestinationKind.lists : List (DestinationKind × String × String) :=
  [(function, "LambdaFunctionConfigurations", "LambdaFunctionArn"),
    (queue, "QueueConfigurations", "QueueArn"), (topic, "TopicConfigurations", "TopicArn")]

namespace NotificationPlan

variable {notifications : NotificationPlan} {configuration : Value}

/-- What is announced to the destinations of a kind, with the addresses, in their order. -/
def announcements (notifications : NotificationPlan) (kind : DestinationKind) :
    List (String × Subscription) :=
  (notifications.ofKind kind).flatMap fun d => d.subscriptions.map (d.address, ·)

theorem map_announcements (kind : DestinationKind) (addressKey : String) :
    ((notifications.announcements kind).map fun announcement =>
        DestinationPlan.entry announcement.1 addressKey announcement.2) =
      (notifications.ofKind kind).flatMap (DestinationPlan.entries addressKey) := by
  rw [announcements, List.map_flatMap]
  refine congrArg (List.flatMap · _) (funext fun d => ?_)
  rw [List.map_map]
  rfl

theorem request_eq (made : notifications.request = .ok configuration) :
    (∀ d ∈ notifications.destinations, d.unknownKind? = none) ∧
    configuration = .record (
      notifications.listOf .topic "TopicConfigurations" "TopicArn" ++
      notifications.listOf .queue "QueueConfigurations" "QueueArn" ++
      notifications.listOf .function "LambdaFunctionConfigurations" "LambdaFunctionArn" ++
      fieldsIf notifications.eventBridge [("EventBridgeConfiguration", .record [])]) := by
  rw [request] at made
  split at made
  · cases made
  · rename_i known
    cases made
    exact ⟨List.findSome?_eq_none_iff.mp known, rfl⟩

theorem names_request_sublist (made : notifications.request = .ok configuration) :
    (configuration.members.map Prod.fst).Sublist ["TopicConfigurations", "QueueConfigurations",
      "LambdaFunctionConfigurations", "EventBridgeConfiguration"] := by
  obtain ⟨_, rfl⟩ := request_eq made
  rw [Value.members_record, List.map_append, List.map_append, List.map_append]
  exact (((names_fieldsIf_sublist _ _).append (names_fieldsIf_sublist _ _)).append
    (names_fieldsIf_sublist _ _)).append (names_fieldsIf_sublist _ _)

theorem itemsAt_request (made : notifications.request = .ok configuration)
    {list : DestinationKind × String × String} (listed : list ∈ DestinationKind.lists) :
    configuration.itemsAt [list.2.1] = (notifications.announcements list.1).map fun announcement =>
      DestinationPlan.entry announcement.1 list.2.2 announcement.2 := by
  obtain ⟨_, rfl⟩ := request_eq made
  rw [map_announcements]
  simp only [DestinationKind.lists, List.mem_cons, List.not_mem_nil, or_false] at listed
  rcases listed with rfl | rfl | rfl
  · exact Value.itemsAt_record (by simp [listOf])
  · exact Value.itemsAt_record (by simp [listOf])
  · exact Value.itemsAt_record (by simp [listOf])

theorem isAnnouncedBy_request (made : notifications.request = .ok configuration)
    {list : DestinationKind × String × String} (listed : list ∈ DestinationKind.lists) :
    List.Forall₂ (Subscription.IsAnnouncedBy list.2.2) (notifications.announcements list.1)
      (configuration.itemsAt [list.2.1]) := by
  have known : ∀ other ∈ DestinationKind.lists, other.2.2 ∉ ["Events", "Filter"] := by decide
  rw [itemsAt_request made listed, List.forall₂_map_right_iff]
  exact List.forall₂_same.mpr fun _ _ => DestinationPlan.isAnnouncedBy_entry (known list listed)

/-- Destinations of known kinds are each in one of the lists. -/
theorem flatMap_ofKind_perm {α : Type} {destinations : List DestinationPlan}
    (known : ∀ d ∈ destinations, d.unknownKind? = none) (items : DestinationPlan → List α) :
    (DestinationKind.lists.flatMap fun list =>
        (destinations.filter (·.kind = list.1)).flatMap items).Perm (destinations.flatMap items) := by
  induction destinations with
  | nil => exact .refl _
  | cons d rest ih =>
    obtain ⟨own, others⟩ := List.forall_mem_cons.mp known
    have sorted := (ih others).append_left (items d)
    simp only [DestinationKind.lists, List.flatMap_cons, List.flatMap_nil, List.append_nil]
      at sorted ⊢
    -- the items of the first destination come before those of the kinds ahead of its own
    cases kind : d.kind with
    | function => simpa [kind] using sorted
    | queue =>
      have ahead := (List.perm_append_comm_assoc _ (items d) _).trans sorted
      simpa [kind] using ahead
    | topic =>
      have ahead := ((List.perm_append_comm_assoc _ (items d) _).append_left _).trans
        ((List.perm_append_comm_assoc _ (items d) _).trans sorted)
      simpa [kind] using ahead
    | unknown name => simp [DestinationPlan.unknownKind?, kind] at own

/-- There is an entry for every subscription. -/
theorem length_itemsAt_request (made : notifications.request = .ok configuration) :
    (DestinationKind.lists.flatMap fun list => configuration.itemsAt [list.2.1]).length =
      (notifications.destinations.flatMap DestinationPlan.subscriptions).length := by
  have placed := flatMap_ofKind_perm (request_eq made).1 DestinationPlan.subscriptions
  rw [← placed.length_eq]
  refine length_flatMap_of_forall₂ (List.forall₂_same.mpr fun list listed => ?_)
  rw [itemsAt_request made listed, List.length_map, announcements]
  refine length_flatMap_of_forall₂ (List.forall₂_same.mpr fun d _ => ?_)
  rw [List.length_map]

end NotificationPlan

theorem Plan.notificationCalls_eq {plan : Plan} {notifications : NotificationPlan}
    {calls : List Request} (planned : plan.notifications = some notifications)
    (made : plan.notificationCalls = .ok calls) :
    ∃ call configuration, calls = [call] ∧ notifications.request = .ok configuration ∧
      call.params.memberAt? ["NotificationConfiguration"] = some configuration := by
  simp only [notificationCalls, planned] at made
  obtain ⟨configuration, rendered, ended⟩ := steps_of_bind_ok made
  cases ended
  exact ⟨_, configuration, rfl, rendered, by simp [call]⟩

theorem Descriptor.Yields.notified {d : Descriptor} {options : Options} {plan : Plan}
    (yields : d.Yields options plan) {notifications : Notifications}
    (given : notifications ∈ d.notifications) :
    ∃ planned, plan.notifications = some planned ∧
      List.Forall₂ Notifications.IsPlannedAs notifications.destinations.entries planned.destinations ∧
      (planned.ofKind .queue).length ≤ 1 ∧ (planned.ofKind .topic).length ≤ 1 := by
  have own : notifications.resolve ∈ d.resolve.notifications := Option.mem_map_of_mem _ given
  have checked : Passes (d.findings .notifications) := d.passes_concern yields.checks .notifications
  have classified : Passes notifications.findings :=
    reportsOnly_flatMap.mp checked notifications (Option.mem_toList.mpr given)
  have planning : Passes (d.resolve.planFindings options .notification) :=
    reportsOnly_flatMap.mp yields.planning .notification (by decide)
  have passes : Passes (notifications.resolve.planFindings options.maxKeyLength) :=
    reportsOnly_flatMap.mp planning _ (Option.mem_toList.mpr own)
  have keeps := yields.isSettled.notifications _ own
  refine ⟨notifications.resolve.plan, ?_, ?_, keeps.ofKind_length_le (by decide),
    keeps.ofKind_length_le (by decide)⟩
  · rw [yields.notifications_eq, Option.mem_def.mp given]
    rfl
  · exact Notifications.destinations_plan classified passes

/-- Every subscription that a description makes is planned at its destination, and announced in a list
of the kind of that destination and nowhere else. -/
theorem compile_notifications {value : Value} {options : Options} {result : Result}
    (returned : (compile value options).outcome = .ok result) (bundled : result.state = .bundled)
    {notifications : Notifications} (given : notifications ∈ (Descriptor.ofValue value).notifications)
    (minutes : Int) :
    ∃ plan planned requests call configuration,
      result.plan = some plan ∧ plan.notifications = some planned ∧
      plan.requests minutes = .ok requests ∧ callsOf .putNotification requests = [call] ∧
      call.params.memberAt? ["NotificationConfiguration"] = some configuration ∧
      (configuration.members.map Prod.fst).Sublist ["TopicConfigurations", "QueueConfigurations",
        "LambdaFunctionConfigurations", "EventBridgeConfiguration"] ∧
      List.Forall₂ Notifications.IsPlannedAs notifications.destinations.entries planned.destinations ∧
      (planned.ofKind .queue).length ≤ 1 ∧ (planned.ofKind .topic).length ≤ 1 ∧
      (∀ list ∈ DestinationKind.lists,
        List.Forall₂ (Subscription.IsAnnouncedBy list.2.2) (planned.announcements list.1)
          (configuration.itemsAt [list.2.1])) ∧
      (DestinationKind.lists.flatMap fun list => configuration.itemsAt [list.2.1]).length =
        notifications.destinations.values.flatten.length := by
  obtain ⟨plan, found, yields⟩ := compile_yields returned bundled
  obtain ⟨requests, rendered⟩ := yields.requests_return minutes
  obtain ⟨planned, own, destinations, queues, topics⟩ := yields.notified given
  obtain ⟨call, configuration, single, made, configured⟩ :=
    Plan.notificationCalls_eq own (Plan.callsOf_requests rendered).2.2
  refine ⟨plan, planned, requests, call, configuration, found, own, rendered, single, configured,
    NotificationPlan.names_request_sublist made, destinations, queues, topics,
    fun list listed => NotificationPlan.isAnnouncedBy_request made listed, ?_⟩
  rw [NotificationPlan.length_itemsAt_request made]
  exact (length_flatMap_of_forall₂ (destinations.imp fun _ _ own => own.subscriptions.length_eq)).symm

/-- Uploads that a queue is told about twice over, and a function in two ways. -/
def announcedUploads : Value :=
  .record [("name", .str "uploads"), ("notifications", .record [("destinations", .record [
    ("arn:aws:sqs:::queue", .record [("events", .list [.str "s3:ObjectCreated:Put",
      .str "s3:ObjectCreated:Copy", .str "s3:ObjectCreated:Put"])]),
    ("arn:aws:lambda:::scan", .list [
      .record [("events", .list [.str "s3:ObjectCreated:*"]), ("filter_prefix", .str "in/")],
      .record [("events", .list [.str "s3:ObjectRemoved:*"])]])])])]

theorem compile_announcedUploads_notifications :
    ∃ result plan planned requests call configuration,
      (compile announcedUploads).outcome = .ok result ∧ result.state = .bundled ∧
      result.plan = some plan ∧ plan.notifications = some planned ∧ plan.requests = .ok requests ∧
      callsOf .putNotification requests = [call] ∧
      call.params.memberAt? ["NotificationConfiguration"] = some configuration ∧
      planned.destinations.length = 2 ∧
      (DestinationKind.lists.flatMap fun list => configuration.itemsAt [list.2.1]).length = 3 := by
  have complete : (compile announcedUploads).outcome.toOption.map Result.state = some .bundled := by
    decide +kernel
  obtain ⟨result, returned, bundled⟩ := compile_returns_bundled complete
  obtain ⟨plan, planned, requests, call, configuration, made, own, rendered, single, configured, _,
    destinations, _, _, _, count⟩ := compile_notifications returned bundled
      (show _ ∈ some _ from rfl) ReplicationRulePlan.thresholdMinutes
  refine ⟨result, plan, planned, requests, call, configuration, returned, bundled, made, own, rendered,
    single, configured, destinations.length_eq.symm.trans ?_, count.trans ?_⟩
  · decide +kernel
  · decide +kernel

end BucketPlan
