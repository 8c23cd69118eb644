import BucketPlan.Proofs.Arranged.Planning

namespace BucketPlan

theorem FilterPlan.ofFilter_arrange (filter : Option ObjectFilter) (sizes : Bool) :
    ofFilter (filter.map ObjectFilter.arrange) sizes = ofFilter filter sizes := by
  cases filter with
  | none => rfl
  | some filter =>
    have tags : filter.arrange.tags.sorted = filter.tags.sorted := filter.tags.sorted_inOrder
    rw [Option.map_some, ofFilter, ofFilter, ObjectFilter.plan, ObjectFilter.plan, tags]
    rfl

theorem LifecycleRule.plan_arrange (name : String) (rule : LifecycleRule) :
    rule.arrange.plan name = rule.plan name := by
  rw [plan, plan, arrange, FilterPlan.ofFilter_arrange]
  rfl

namespace TieringRule

theorem comesFirst_iff {a b : String × Int} :
    comesFirst a b = true ↔ a.2 < b.2 ∨ a.2 = b.2 ∧ a.1 ≤ b.1 := by
  simp [comesFirst]

theorem comesFirst_trans (a b c : String × Int) (first : comesFirst a b = true)
    (second : comesFirst b c = true) : comesFirst a c = true := by
  rw [comesFirst_iff] at first second ⊢
  rcases first with earlier | ⟨level, le⟩
  · exact Or.inl (by omega)
  · rcases second with earlier | ⟨level', le'⟩
    · exact Or.inl (by omega)
    · exact Or.inr ⟨level.trans level', String.le_trans le le'⟩

theorem comesFirst_total (a b : String × Int) : (comesFirst a b || comesFirst b a) = true := by
  rw [Bool.or_eq_true_iff, comesFirst_iff, comesFirst_iff]
  rcases Int.lt_trichotomy a.2 b.2 with before | level | after
  · exact Or.inl (Or.inl before)
  · exact (String.le_total a.1 b.1).imp (fun le => Or.inr ⟨level, le⟩) fun le => Or.inr ⟨level.symm, le⟩
  · exact Or.inr (Or.inl after)

theorem comesFirst_antisymm {a b : String × Int} (first : comesFirst a b = true)
    (second : comesFirst b a = true) : a = b := by
  rw [comesFirst_iff] at first second
  have level : a.2 = b.2 := by omega
  have le : a.1 ≤ b.1 := (first.resolve_left (by omega)).2
  have le' : b.1 ≤ a.1 := (second.resolve_left (by omega)).2
  exact Prod.ext (String.le_antisymm le le') level

/-- Tiers come in the order of their days, however they are given. -/
theorem plan_arrange (name : String) (rule : TieringRule) : rule.arrange.plan name = rule.plan name := by
  have tierings : rule.arrange.tierings.entries.mergeSort comesFirst =
      rule.tierings.entries.mergeSort comesFirst :=
    mergeSort_eq_of_perm rule.tierings.entries_inOrder_perm comesFirst_trans comesFirst_total
      fun _ _ _ _ => comesFirst_antisymm
  rw [plan, plan, tierings, arrange, FilterPlan.ofFilter_arrange]

end TieringRule

namespace ReplicationRule

theorem plan_arrange (name : String) (rule : ReplicationRule) :
    rule.arrange.plan name = rule.plan name := by
  have planned : rule.arrange.planWith name = rule.planWith name := by
    funext destination account priority
    rw [planWith, planWith, arrange, FilterPlan.ofFilter_arrange]
  rw [plan, plan, planned]
  rfl

theorem name_of_plan {rule : ReplicationRule} {name : String} {plan : ReplicationRulePlan}
    (made : rule.plan name = .ok plan) : plan.name = name := by
  obtain ⟨parts, _, rest⟩ := steps_of_bind_ok made
  cases given : rule.priority with
  | none =>
    rw [given] at rest
    cases rest
  | some priority =>
    rw [given] at rest
    cases rest
    rfl

end ReplicationRule

namespace ReplicationRulePlan

/-- What a plan is sorted by: the higher a priority, the earlier it comes. -/
def key (plan : ReplicationRulePlan) : String × Int :=
  (plan.name, -plan.priority)

theorem precedes_eq (a b : ReplicationRulePlan) :
    a.precedes b = TieringRule.comesFirst a.key b.key := by
  refine Bool.eq_iff_iff.mpr ?_
  simp [precedes, TieringRule.comesFirst_iff, key]

theorem precedes_trans (a b c : ReplicationRulePlan) (first : a.precedes b = true)
    (second : b.precedes c = true) : a.precedes c = true := by
  rw [precedes_eq] at first second ⊢
  exact TieringRule.comesFirst_trans _ _ _ first second

theorem precedes_total (a b : ReplicationRulePlan) : (a.precedes b || b.precedes a) = true := by
  rw [precedes_eq, precedes_eq]
  exact TieringRule.comesFirst_total _ _

end ReplicationRulePlan

namespace Replication

theorem names_of_plans {entries : List (String × ReplicationRule)} {plans : List ReplicationRulePlan}
    (made : (entries.mapM fun entry => entry.2.plan entry.1) = .ok plans) :
    plans.map ReplicationRulePlan.name = entries.map Prod.fst :=
  map_of_mapM made fun _ _ planned => ReplicationRule.name_of_plan planned

/-- The plans of rules under distinct names have one order only. -/
theorem sorted_eq_of_perm {plans others : List ReplicationRulePlan} (perm : others.Perm plans)
    (distinct : (plans.map ReplicationRulePlan.name).Nodup) :
    others.mergeSort ReplicationRulePlan.precedes = plans.mergeSort ReplicationRulePlan.precedes := by
  refine mergeSort_eq_of_perm perm ReplicationRulePlan.precedes_trans
    ReplicationRulePlan.precedes_total fun a inPlans b inPlans' first second => ?_
  rw [ReplicationRulePlan.precedes_eq] at first second
  have same := congrArg Prod.fst (TieringRule.comesFirst_antisymm first second)
  exact List.inj_on_of_nodup_map distinct (perm.mem_iff.mp inPlans) (perm.mem_iff.mp inPlans') same

/-- Rules come in the order of their priorities, however they are given. -/
theorem plan_arrange {replication : Replication} {plan : ReplicationPlan}
    (made : replication.plan = .ok plan) : replication.arrange.plan = .ok plan := by
  obtain ⟨parts, complete, rest⟩ := steps_of_bind_ok made
  obtain ⟨plans, planned, ended⟩ := steps_of_bind_ok rest
  cases ended
  let arrange (entry : String × ReplicationRule) := (entry.1, entry.2.arrange)
  let planOf (entry : String × ReplicationRule) := entry.2.plan entry.1
  have perm : replication.arrange.rules.entries.Perm (replication.rules.entries.map arrange) :=
    replication.rules.entries_arranged_perm
  have complete' : ((replication.rules.entries.map arrange).map Prod.snd).mapM ReplicationRule.parts =
      .ok parts := by
    rw [List.map_map, ← complete, Keyed.values, List.mapM_map, List.mapM_map]
    rfl
  have planned' : (replication.rules.entries.map arrange).mapM planOf = .ok plans := by
    have same : planOf ∘ arrange = planOf := funext fun entry => entry.2.plan_arrange entry.1
    rw [List.mapM_map, same]
    exact planned
  obtain ⟨others, first, _⟩ := mapM_perm (perm.map Prod.snd) complete'
  obtain ⟨moved, second, reordered⟩ := mapM_perm perm planned'
  have sorted := sorted_eq_of_perm reordered (names_of_plans planned ▸ replication.rules.distinct)
  have done : replication.arrange.plan =
      .ok ⟨replication.role, moved.mergeSort ReplicationRulePlan.precedes⟩ :=
    (bind_of_ok first).trans (bind_of_ok second)
  rw [done, sorted]

end Replication

/-- Two plans for the same destinations, in whatever order. -/
structure NotificationPlan.SameUpToOrder (m n : NotificationPlan) : Prop where
  destinations : m.destinations.Perm n.destinations
  eventBridge : m.eventBridge = n.eventBridge

namespace Notifications

theorem plan_sameUpToOrder {notifications other : Notifications}
    (same : notifications.arrange = other.arrange) : notifications.plan.SameUpToOrder other.plan := by
  have perm := other.classified_arrange_perm
  have eventBridge : notifications.arrange.plan.eventBridge = other.arrange.plan.eventBridge := by
    rw [same]
  rw [← same] at perm
  exact ⟨(notifications.classified_arrange_perm.symm.trans perm).map _, eventBridge⟩

theorem map_plan_rel {given other : Option Notifications}
    (same : given.map arrange = other.map arrange) :
    Option.Rel NotificationPlan.SameUpToOrder (given.map plan) (other.map plan) := by
  cases given with
  | none =>
    cases other with
    | none => exact .none
    | some own => cases same
  | some own =>
    cases other with
    | none => cases same
    | some own' => exact .some (plan_sameUpToOrder (Option.some.inj same))

end Notifications

/-- Two plans that differ in the order of their rules and of their destinations only. -/
structure Plan.SameUpToOrder (p q : Plan) : Prop where
  lifecycle : p.lifecycleRules.entries.Perm q.lifecycleRules.entries
  inventory : p.inventoryRules.entries.Perm q.inventoryRules.entries
  tiering : p.tieringRules.entries.Perm q.tieringRules.entries
  notifications : Option.Rel NotificationPlan.SameUpToOrder p.notifications q.notifications
  others : q = { p with
    lifecycleRules := q.lifecycleRules
    inventoryRules := q.inventoryRules
    tieringRules := q.tieringRules
    notifications := q.notifications }

namespace Descriptor

variable {d d' : Descriptor}

theorem replicationPlan_arrange {replication : Option ReplicationPlan}
    (planned : d.replicationPlan = .ok replication) :
    d.arrange.replicationPlan = .ok replication := by
  have arranged : d.arrange.replication = d.replication.map Replication.arrange := rfl
  rw [replicationPlan] at planned ⊢
  rw [arranged]
  cases given : d.replication with
  | none =>
    rw [given] at planned
    exact planned
  | some own =>
    rw [given] at planned
    cases made : own.plan with
    | error fault =>
      simp only [made] at planned
      cases planned
    | ok plan =>
      simp only [made] at planned
      simpa only [Option.map_some, Replication.plan_arrange made] using planned

/-- A plan shows the tags of its bucket in order, whatever the order in which they were given. -/
theorem plan_arrange (d : Descriptor) (rules : RulePlans) : d.arrange.plan rules = d.plan rules := by
  have tags : d.arrange.tags.sorted = d.tags.sorted := d.tags.sorted_inOrder
  rw [plan, plan, tags]
  rfl

theorem sameUpToOrder_of_plan (same : d.arrange = d'.arrange)
    {replication replication' : Option ReplicationPlan} {p q : Plan}
    (replicated : d.replicationPlan = .ok replication)
    (replicated' : d'.replicationPlan = .ok replication')
    (made : d.plan (d.rulePlans replication) = .ok p)
    (made' : d'.plan (d'.rulePlans replication') = .ok q) : p.SameUpToOrder q := by
  have one : replication = replication' := by
    have first := replicationPlan_arrange replicated
    rw [same, replicationPlan_arrange replicated'] at first
    exact (Except.ok.inj first).symm
  have lifecycle : d.lifecycleRules.arranged _ = d'.lifecycleRules.arranged _ :=
    congrArg Descriptor.lifecycleRules same
  have inventory : d.inventoryRules.inOrder = d'.inventoryRules.inOrder :=
    congrArg Descriptor.inventoryRules same
  have tiering : d.tieringRules.arranged _ = d'.tieringRules.arranged _ :=
    congrArg Descriptor.tieringRules same
  rw [← plan_arrange, ← same, plan_arrange] at made'
  obtain ⟨website, found, ended⟩ := steps_of_bind_ok made
  obtain ⟨website', found', ended'⟩ := steps_of_bind_ok made'
  cases found.symm.trans found'
  cases one
  cases ended
  cases ended'
  refine ⟨?_, ?_, ?_, ?_, rfl⟩
  · exact Keyed.mapValues_perm_of_arranged lifecycle LifecycleRule.plan_arrange
  · exact (Keyed.inOrder_eq_iff.mp inventory).map _
  · exact Keyed.mapValues_perm_of_arranged tiering TieringRule.plan_arrange
  · exact Notifications.map_plan_rel (congrArg Descriptor.notifications same)

end Descriptor

end BucketPlan
