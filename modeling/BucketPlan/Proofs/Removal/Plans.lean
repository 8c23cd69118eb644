import BucketPlan.Proofs.Arranged.Plans
import BucketPlan.Proofs.Removal.Descriptor

namespace BucketPlan

/-- Some of the items have some of the results, in their order. -/
theorem mapM_sublist {ε α β : Type} {f : α → Except ε β} {whole part : List α} {results : List β}
    (sub : part.Sublist whole) (done : whole.mapM f = .ok results) :
    ∃ kept, part.mapM f = .ok kept ∧ kept.Sublist results := by
  induction sub generalizing results with
  | slnil => exact ⟨results, done, .refl _⟩
  | cons item _ ih =>
    rw [List.mapM_cons] at done
    obtain ⟨result, _, others⟩ := steps_of_bind_ok done
    obtain ⟨further, later, ended⟩ := steps_of_bind_ok others
    cases ended
    obtain ⟨kept, returned, sub⟩ := ih later
    exact ⟨kept, returned, sub.cons result⟩
  | cons_cons item _ ih =>
    rw [List.mapM_cons] at done
    obtain ⟨result, first, others⟩ := steps_of_bind_ok done
    obtain ⟨further, later, ended⟩ := steps_of_bind_ok others
    cases ended
    obtain ⟨kept, returned, sub⟩ := ih later
    refine ⟨result :: kept, ?_, sub.cons_cons result⟩
    rw [List.mapM_cons, first, returned]
    rfl

theorem Keyed.Includes.sorted_sublist {α : Type} {whole part : Keyed α} (includes : whole.Includes part) :
    part.sorted.Sublist whole.sorted :=
  mergeSort_sublist Keyed.byName_trans Keyed.byName_total includes

/-- The plan of a replication with some of the rules of another one, in the same order. -/
structure ReplicationPlan.IsReducedTo (whole part : ReplicationPlan) : Prop where
  role : part.role = whole.role
  rules : part.rules.Sublist whole.rules

/-- A rule is planned as before, and comes before the same other rules. -/
theorem Replication.IsReducedTo.plan {whole part : Replication} (reduced : whole.IsReducedTo part)
    {p q : ReplicationPlan} (made : whole.plan = .ok p) (made' : part.plan = .ok q) :
    p.IsReducedTo q := by
  obtain ⟨_, _, rest⟩ := steps_of_bind_ok made
  obtain ⟨plans, planned, ended⟩ := steps_of_bind_ok rest
  obtain ⟨_, _, rest'⟩ := steps_of_bind_ok made'
  obtain ⟨plans', planned', ended'⟩ := steps_of_bind_ok rest'
  cases ended
  cases ended'
  obtain ⟨kept, returned, sub⟩ := mapM_sublist reduced.rules planned
  cases returned.symm.trans planned'
  exact ⟨reduced.role,
    mergeSort_sublist ReplicationRulePlan.precedes_trans ReplicationRulePlan.precedes_total sub⟩

/-- The plan of notifications with some of the destinations of another one, in the same order. -/
structure NotificationPlan.IsReducedTo (whole part : NotificationPlan) : Prop where
  destinations : part.destinations.Sublist whole.destinations
  eventBridge : part.eventBridge = whole.eventBridge

theorem Notifications.IsReducedTo.plan {whole part : Notifications} (reduced : whole.IsReducedTo part) :
    whole.plan.IsReducedTo part.plan := by
  refine ⟨?_, ?_⟩
  · exact (List.Sublist.filterMap _ reduced.destinations).map _
  · rw [Notifications.plan, Notifications.plan, reduced.eventBridge]

/-- A plan with some of the tags, rules and destinations of another one, each of them as it was and in
the same order, and with all else as it was. -/
structure Plan.IsReducedTo (p q : Plan) : Prop where
  tags : q.tags.Sublist p.tags
  corsRules : q.corsRules.Sublist p.corsRules
  lifecycleRules : p.lifecycleRules.Includes q.lifecycleRules
  replication : Option.Rel ReplicationPlan.IsReducedTo p.replication q.replication
  notifications : Option.Rel NotificationPlan.IsReducedTo p.notifications q.notifications
  inventoryRules : p.inventoryRules.Includes q.inventoryRules
  tieringRules : p.tieringRules.Includes q.tieringRules
  others : q = { p with
    tags := q.tags
    corsRules := q.corsRules
    lifecycleRules := q.lifecycleRules
    replication := q.replication
    notifications := q.notifications
    inventoryRules := q.inventoryRules
    tieringRules := q.tieringRules }

namespace Descriptor

variable {d r : Descriptor} {rules rules' : Option ReplicationPlan}

theorem IsReducedTo.replicationPlan (reduced : d.IsReducedTo r)
    (replicated : d.replicationPlan = .ok rules) (replicated' : r.replicationPlan = .ok rules') :
    Option.Rel ReplicationPlan.IsReducedTo rules rules' := by
  have rel := reduced.replication
  rw [Descriptor.replicationPlan] at replicated replicated'
  generalize d.replication = whole, r.replication = part at rel replicated replicated'
  cases rel with
  | none =>
    cases replicated
    cases replicated'
    exact .none
  | @some whole part own =>
    cases made : whole.plan with
    | error fault =>
      simp only [made] at replicated
      cases replicated
    | ok p =>
      cases made' : part.plan with
      | error fault =>
        simp only [made'] at replicated'
        cases replicated'
      | ok q =>
        simp only [made] at replicated
        simp only [made'] at replicated'
        cases replicated
        cases replicated'
        exact .some (own.plan made made')

/-- The plan of a part of a description is a part of the plan of the whole. -/
theorem IsReducedTo.plan (reduced : d.IsReducedTo r) {p q : Plan}
    (replicated : d.replicationPlan = .ok rules) (replicated' : r.replicationPlan = .ok rules')
    (made : d.plan (d.rulePlans rules) = .ok p) (made' : r.plan (r.rulePlans rules') = .ok q) :
    p.IsReducedTo q := by
  obtain ⟨website, found, ended⟩ := steps_of_bind_ok made
  obtain ⟨website', found', ended'⟩ := steps_of_bind_ok made'
  have site : r.websitePlan = d.websitePlan := by
    rw [reduced.others]
    rfl
  cases found.symm.trans (site.symm.trans found')
  cases ended
  cases ended'
  refine ⟨?_, ?_, ?_, ?_, ?_, ?_, ?_, ?_⟩
  · exact reduced.tags.sorted_sublist
  · exact reduced.corsRules.map _
  · exact reduced.lifecycleRules.mapValues _
  · exact reduced.replicationPlan replicated replicated'
  · exact rel_map_map reduced.notifications fun _ _ => Notifications.IsReducedTo.plan
  · exact reduced.inventoryRules.mapValues _
  · exact reduced.tieringRules.mapValues _
  · rw [reduced.others]

end Descriptor

end BucketPlan
