import BucketPlan.Run.Compilation
import BucketPlan.Proofs.Holders
import BucketPlan.Proofs.Origin.Checks

namespace BucketPlan

variable {names : String → Prop}

theorem ObjectFilter.traced_findings {filter : ObjectFilter} {scope : Scope} {field : String}
    {sizes : Bool} (traced : scope.IsTraced names) (plain : IsPlain field) :
    Traced names (filter.findings scope field sizes) := by
  have above : IsPlain (field ++ ".object_size_greater_than") := plain.append (.ofList rfl)
  have below : IsPlain (field ++ ".object_size_less_than") := plain.append (.ofList rfl)
  have tags : IsPlain (field ++ ".tags") := plain.append (.ofList rfl)
  have bounds : Traced names (filter.boundFindings scope field) := by
    simp only [boundFindings, reportsOnly_append]
    refine ⟨⟨traced.inRange above.tracesTo, traced.inRange below.tracesTo⟩, ?_⟩
    split
    · exact .ifTrue (traced.error below.tracesTo)
    · exact reportsOnly_nil
  simp only [findings, reportsOnly_append, reportsOnly_flatMap]
  exact ⟨.ite (traced.error plain.tracesTo) bounds, fun _ _ => traced.error tags.tracesTo⟩

theorem FilterPlan.traced_findings {filter : Option ObjectFilter} {scope : Scope} {sizes : Bool}
    (traced : scope.IsTraced names) : Traced names (findings filter scope sizes) := by
  cases filter with
  | none => exact reportsOnly_nil
  | some filter => exact ObjectFilter.traced_findings traced (.ofList rfl)

theorem NoncurrentTransition.traced_findings {t : NoncurrentTransition} {scope : Scope} {item : String}
    (traced : scope.IsTraced names) (plain : IsPlain item) : Traced names (t.findings scope item) := by
  have days : IsPlain (item ++ ".days") := plain.append (.ofList rfl)
  have storageClass : IsPlain (item ++ ".storage_class") := plain.append (.ofList rfl)
  have versions : IsPlain (item ++ ".newer_noncurrent_versions") := plain.append (.ofList rfl)
  simp only [findings, reportsOnly_append]
  refine ⟨⟨⟨⟨⟨?_, ?_⟩, ?_⟩, ?_⟩, ?_⟩, ?_⟩
  · exact traced.require days.tracesTo
  · exact traced.require storageClass.tracesTo
  · exact traced.inRange days.tracesTo
  · exact .ifTrue (traced.oneOf storageClass.tracesTo)
  · cases t.step? with
    | none => exact reportsOnly_nil
    | some step => exact .ifTrue (traced.inRange days.tracesTo)
  · exact traced.inRange versions.tracesTo

namespace Step

theorem traced_sequenceFindings {steps : List Step} {scope : Scope} {field : String}
    (traced : scope.IsTraced names) (inField : TracesTo names field) :
    Traced names (sequenceFindings scope field steps) := by
  induction steps with
  | nil => exact reportsOnly_nil
  | cons earlier rest ih =>
    cases rest with
    | nil => exact reportsOnly_nil
    | cons later rest =>
      have order : Traced names (orderFindings earlier later scope field) :=
        .ite (traced.error inField) (.ifTrue (traced.error inField))
      exact reportsOnly_append.mpr ⟨order, ih⟩

theorem traced_findings {transitions : List NoncurrentTransition} {scope : Scope} {field : String}
    (traced : scope.IsTraced names) (plain : IsPlain field) :
    Traced names (findings transitions scope field) := by
  have dotted : IsPlain (field ++ ".") := plain.append (.ofList rfl)
  simp only [findings, reportsOnly_append, reportsOnly_flatMap]
  refine ⟨?_, traced_sequenceFindings traced plain.tracesTo⟩
  intro item _
  obtain ⟨t, i⟩ := item
  exact NoncurrentTransition.traced_findings traced (dotted.append (isPlain_toString i))

theorem traced_afterLast {steps : List Step} {days : Int} {complain : Int → List Finding}
    (complains : ∀ last, Traced names (complain last)) :
    Traced names (afterLast steps days complain) := by
  unfold afterLast
  cases steps.getLast? with
  | none => exact reportsOnly_nil
  | some last => exact .ifTrue (complains last.days)

end Step

theorem Expiration.traced_findings {e : Expiration} {steps : List Step} {scope : Scope} {hasTags : Bool}
    (traced : scope.IsTraced names) : Traced names (e.findings steps scope hasTags) := by
  have cleanup : TracesTo names "expiration.clean_up_expired_object_delete_markers" := .ofList rfl
  have day : TracesTo names "expiration.days_after_object_creation" := .ofList rfl
  have date : TracesTo names "expiration.date" := .ofList rfl
  have choice : Traced names (e.choiceFindings scope hasTags) := by
    simp only [choiceFindings, reportsOnly_append]
    exact ⟨⟨⟨.ifTrue (traced.error cleanup), .ifTrue (traced.error cleanup)⟩,
      .ifTrue (traced.error date)⟩, .ifTrue (traced.error (.ofList rfl))⟩
  have ofDays (days : Int) : Traced names (dayFindings days steps scope) :=
    .ite (Step.traced_afterLast fun _ => traced.error day) (traced.inRange day)
  have ofDate (text : String) : Traced names (dateFindings text scope) := by
    unfold dateFindings
    split
    · exact reportsOnly_nil
    · exact traced.error date
  simp only [findings, reportsOnly_append, reportsOnly_flatMap]
  exact ⟨⟨choice, fun days _ => ofDays days⟩, fun text _ => ofDate text⟩

theorem NoncurrentExpiration.traced_findings {e : NoncurrentExpiration} {steps : List Step}
    {scope : Scope} (traced : scope.IsTraced names) : Traced names (e.findings steps scope) := by
  have day : TracesTo names "noncurrent_version_expiration.days" := .ofList rfl
  unfold findings
  cases e.days with
  | none => exact traced.require day
  | some days =>
    have ofDays : Traced names (dayFindings days steps scope) :=
      .ite (Step.traced_afterLast fun _ => traced.error day) (traced.inRange day)
    exact reportsOnly_append.mpr ⟨traced.inRange (.ofList rfl), ofDays⟩

theorem LifecycleRule.traced_findings {rule : LifecycleRule} {name : String} {scope : Scope}
    {versioned : Bool} (traced : scope.IsTraced names) :
    Traced names (rule.findings name scope versioned) := by
  have abort : Traced names (rule.abortFindings scope) := by
    have field : TracesTo names "abort_incomplete_multipart_upload_days" := .ofList rfl
    unfold abortFindings
    cases rule.abortDays with
    | none => exact reportsOnly_nil
    | some days => exact reportsOnly_append.mpr ⟨traced.inRange field, .ifTrue (traced.error field)⟩
  have versioning : Traced names (rule.versioningFindings scope versioned) := by
    unfold versioningFindings
    cases rule.noncurrentExpiration with
    | none => exact .ifTrue (traced.warning (.ofList rfl))
    | some expiration => exact .ifTrue (traced.warning (.ofList rfl))
  simp only [findings, reportsOnly_append, reportsOnly_flatMap]
  refine ⟨⟨⟨⟨⟨⟨⟨?_, ?_⟩, ?_⟩, fun e _ => ?_⟩, fun e _ => ?_⟩, abort⟩, ?_⟩, versioning⟩
  · exact FilterPlan.traced_findings traced
  · exact Step.traced_findings traced (.ofList rfl)
  · exact Step.traced_findings traced (.ofList rfl)
  · exact Expiration.traced_findings traced
  · exact NoncurrentExpiration.traced_findings traced
  · exact .ifFalse (traced.error tracesTo_empty)

theorem LifecyclePlan.traced_findings {rules : Keyed LifecycleRule} {versioned : Bool}
    (given : ∀ name ∈ rules.names, names name) : Traced names (findings rules versioned) := by
  simp only [findings, reportsOnly_flatMap]
  intro entry member
  obtain ⟨name, rule⟩ := entry
  exact LifecycleRule.traced_findings (Scope.isTraced_of_mem given member (.ofList rfl))

namespace Replication

theorem mem_of_mem_reached {entries : List (String × ReplicationRule)}
    {entry : String × ReplicationRule} (member : entry ∈ reached entries) : entry ∈ entries := by
  induction entries with
  | nil => cases member
  | cons first rest ih =>
    rw [reached] at member
    split at member
    · rcases List.mem_cons.mp member with same | later
      · exact same ▸ List.mem_cons_self
      · exact List.mem_cons_of_mem first (ih later)
    · exact List.mem_singleton.mp member ▸ List.mem_cons_self

theorem mem_names_of_mem_holders {rules : Keyed ReplicationRule} {priority : Int} {name : String}
    (member : name ∈ holders rules.entries priority) : name ∈ rules.names := by
  obtain ⟨entry, kept, rfl⟩ := List.mem_map.mp member
  exact List.mem_map_of_mem (List.mem_filter.mp kept).1

theorem traced_planFindings {replication : Replication}
    (given : ∀ name ∈ replication.rules.names, names name) : Traced names replication.planFindings := by
  have keyed {name : String} (member : name ∈ replication.rules.names) :
      Scope.IsTraced names { area := "replication.rules", rule := name } :=
    Scope.isTraced_of_name (given name member) (.ofList rfl)
  simp only [planFindings, priorityFindings_eq, reportsOnly_append, reportsOnly_flatMap]
  refine ⟨fun priority _ => ?_, ?_⟩
  · unfold sharingFindings
    split
    · rename_i first second others shared
      have holds := mem_names_of_mem_holders ((Prod.mk.inj shared).2 ▸ List.mem_cons_self)
      exact (keyed holds).error (.ofList rfl)
    · exact reportsOnly_nil
  · intro entry member
    obtain ⟨name, rule⟩ := entry
    exact FilterPlan.traced_findings (keyed (List.mem_map_of_mem (mem_of_mem_reached member)))

end Replication

namespace Notifications

theorem mem_names_of_mem_classified {notifications : Notifications} {destination : DestinationPlan}
    (member : destination ∈ notifications.classified) :
    destination.address ∈ notifications.destinations.names := by
  obtain ⟨⟨address, subscriptions⟩, given, kept⟩ := List.mem_filterMap.mp member
  obtain ⟨kind, _, rfl⟩ := Option.map_eq_some_iff.mp kept
  exact List.mem_map_of_mem given

theorem traced_destinationFindings {destination : DestinationPlan} {maxKeyLength : Int}
    (given : names destination.address) :
    Traced names (destinationFindings destination maxKeyLength) := by
  have traced : Scope.IsTraced names
      { area := "notifications.destinations", rule := destination.address } :=
    Scope.isTraced_of_name given (.ofList rfl)
  simp only [destinationFindings, reportsOnly_append, reportsOnly_flatMap]
  refine ⟨.ifTrue (traced.error (.ofList rfl)), ?_⟩
  intro item _
  obtain ⟨s, i⟩ := item
  have index := isPlain_toString i
  have events : IsPlain (toString i ++ ".events") := index.append (.ofList rfl)
  simp only [Subscription.findings, reportsOnly_append, reportsOnly_flatMap]
  exact ⟨⟨traced.require events.tracesTo, fun event _ => traced.oneOf events.tracesTo⟩,
    .ifTrue (traced.warning index.tracesTo)⟩

theorem traced_planFindings {notifications : Notifications} {maxKeyLength : Int}
    (given : ∀ address ∈ notifications.destinations.names, names address) :
    Traced names (notifications.planFindings maxKeyLength) := by
  simp only [planFindings, limitFindings, reportsOnly_append, reportsOnly_flatMap]
  refine ⟨?_, fun destination member => ?_⟩
  · intro entry _
    obtain ⟨kind, limit⟩ := entry
    split
    · exact reportsOnly_nil
    · rename_i first others addresses
      have member : first ∈ notifications.addressesOf kind := addresses ▸ List.mem_cons_self
      obtain ⟨destination, kept, rfl⟩ := List.mem_map.mp member
      have known := given _ (mem_names_of_mem_classified (List.mem_filter.mp kept).1)
      have traced : Scope.IsTraced names
          { area := "notifications.destinations", rule := destination.address } :=
        Scope.isTraced_of_name known (.ofList rfl)
      exact .ifTrue (traced.error (.ofList rfl))
  · exact traced_destinationFindings (given _ (mem_names_of_mem_classified member))

end Notifications

theorem InventoryRule.traced_findings {rule : InventoryRule} {scope : Scope}
    (traced : scope.IsTraced names) : Traced names (rule.findings scope) := by
  have field : TracesTo names "destination.kms_key_id" := .ofList rfl
  have key : Traced names (keyFindings (rule.destination.getD {}) scope) :=
    .ite (traced.require field) (.ifTrue (traced.error field))
  simp only [findings, reportsOnly_append, reportsOnly_flatMap]
  refine ⟨⟨⟨⟨⟨traced.require (.ofList rfl), ?_⟩, ?_⟩, key⟩, ?_⟩, fun name _ => ?_⟩ <;>
    exact traced.oneOf (.ofList rfl)

theorem InventoryPlan.traced_findings {rules : Keyed InventoryRule}
    (given : ∀ name ∈ rules.names, names name) : Traced names (findings rules) := by
  simp only [findings, reportsOnly_flatMap]
  intro entry member
  obtain ⟨name, rule⟩ := entry
  exact InventoryRule.traced_findings (Scope.isTraced_of_mem given member (.ofList rfl))

theorem TieringRule.traced_findings {rule : TieringRule} {scope : Scope} (traced : scope.IsTraced names)
    (given : ∀ tier ∈ rule.tierings.names, names tier) : Traced names (rule.findings scope) := by
  simp only [findings, reportsOnly_append, reportsOnly_flatMap]
  have inTierings : TracesTo names "tierings" := .ofList rfl
  refine ⟨⟨⟨FilterPlan.traced_findings traced, traced.require inTierings⟩, ?_⟩, ?_⟩
  · intro entry member
    obtain ⟨tier, days⟩ := entry
    have inField := inTierings.dot (tracesTo_of_name (given tier (List.mem_map_of_mem member)))
    unfold tierFindings
    split
    · exact traced.inRange inField
    · exact traced.oneOf inField
  · unfold orderFindings
    split
    · exact .ifTrue (traced.error (.ofList rfl))
    · exact reportsOnly_nil

theorem TieringPlan.traced_findings {rules : Keyed TieringRule}
    (given : ∀ name ∈ rules.names, names name)
    (tiers : ∀ rule ∈ rules.values, ∀ tier ∈ rule.tierings.names, names tier) :
    Traced names (findings rules) := by
  simp only [findings, reportsOnly_flatMap]
  intro entry member
  obtain ⟨name, rule⟩ := entry
  exact TieringRule.traced_findings (Scope.isTraced_of_mem given member (.ofList rfl))
    (tiers rule (List.mem_map_of_mem member))

end BucketPlan
