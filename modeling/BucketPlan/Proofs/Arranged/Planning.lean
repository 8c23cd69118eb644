import BucketPlan.Proofs.Arranged.Findings
import BucketPlan.Proofs.Holders
import BucketPlan.Proofs.Planning

namespace BucketPlan

namespace Replication

/-- What the planning of a replication takes for granted: no rule stops it, and no two rules have one
priority. -/
structure IsSettled (replication : Replication) : Prop where
  complete : ∀ entry ∈ replication.rules.entries, entry.2.isComplete = true
  unique : (replication.rules.values.filterMap ReplicationRule.priority).Nodup

theorem length_holders (rules : Keyed ReplicationRule) (priority : Int) :
    (holders rules.entries priority).length =
      (rules.values.filterMap ReplicationRule.priority).count priority := by
  rw [holders, List.length_map, List.count_filterMap, Keyed.values, List.countP_map,
    List.countP_eq_length_filter]
  exact congrArg List.length (List.filter_congr fun entry _ => (beq_eq_decide ..).symm)

theorem priorities_entries (rules : Keyed ReplicationRule) :
    priorities rules.entries = (rules.values.filterMap ReplicationRule.priority).eraseDups := by
  rw [priorities, Keyed.values, List.filterMap_map]
  rfl

/-- Rules of distinct priorities are all that the planning of priorities lets pass. -/
theorem nodup_of_passes {rules : Keyed ReplicationRule} (passes : Passes (priorityFindings rules)) :
    (rules.values.filterMap ReplicationRule.priority).Nodup := by
  rw [priorityFindings_eq] at passes
  refine List.nodup_iff_count_le_one.mpr fun priority => ?_
  by_cases member : priority ∈ priorities rules.entries
  · have alone := reportsOnly_flatMap.mp passes priority member
    rw [← length_holders]
    cases found : holders rules.entries priority with
    | nil => exact Nat.zero_le 1
    | cons first others =>
      cases others with
      | nil => exact Nat.le_refl 1
      | cons second others =>
        rw [found] at alone
        exact absurd alone Scope.passes_error
  · rw [priorities_entries, List.mem_eraseDups] at member
    rw [List.count_eq_zero.mpr member]
    exact Nat.zero_le 1

theorem priorityFindings_eq_nil {rules : Keyed ReplicationRule}
    (unique : (rules.values.filterMap ReplicationRule.priority).Nodup) :
    priorityFindings rules = [] := by
  rw [priorityFindings_eq]
  refine List.flatMap_eq_nil_iff.mpr fun priority _ => ?_
  have few := List.nodup_iff_count_le_one.mp unique priority
  rw [← length_holders] at few
  unfold sharingFindings
  split
  · rename_i several
    rw [(Prod.mk.inj several).2] at few
    exact absurd few (by simp)
  · rfl

theorem reached_eq_self {entries : List (String × ReplicationRule)}
    (complete : ∀ entry ∈ entries, entry.2.isComplete = true) : reached entries = entries := by
  induction entries with
  | nil => rfl
  | cons entry rest ih =>
    obtain ⟨first, others⟩ := List.forall_mem_cons.mp complete
    rw [reached, if_pos first, ih others]

/-- What is left for the planning of a settled replication to look at are the filters. -/
theorem IsSettled.planFindings_eq {replication : Replication} (settled : replication.IsSettled) :
    replication.planFindings = replication.rules.entries.flatMap fun entry =>
      FilterPlan.findings entry.2.filter { area := "replication.rules", rule := entry.1 } false := by
  rw [planFindings, priorityFindings_eq_nil settled.unique, reached_eq_self settled.complete]
  rfl

theorem isSettled_arrange {replication : Replication} :
    replication.arrange.IsSettled ↔ replication.IsSettled := by
  have perm := replication.rules.entries_arranged_perm (f := ReplicationRule.arrange)
  have priorities : (replication.arrange.rules.values.filterMap ReplicationRule.priority).Perm
      (replication.rules.values.filterMap ReplicationRule.priority) := by
    refine ((perm.map Prod.snd).filterMap _).trans ?_
    rw [List.map_map, Keyed.values, List.filterMap_map, List.filterMap_map]
    exact .refl _
  have complete : (∀ entry ∈ replication.arrange.rules.entries, entry.2.isComplete = true) ↔
      ∀ entry ∈ replication.rules.entries, entry.2.isComplete = true :=
    Keyed.forall_mem_arranged (f := ReplicationRule.arrange) replication.rules fun _ _ => .rfl
  exact ⟨fun settled => ⟨complete.mp settled.complete, priorities.nodup_iff.mp settled.unique⟩,
    fun settled => ⟨complete.mpr settled.complete, priorities.nodup_iff.mpr settled.unique⟩⟩

theorem IsSettled.planFindings_arrange_perm {replication : Replication}
    (settled : replication.IsSettled) :
    replication.arrange.planFindings.Perm replication.planFindings := by
  rw [settled.planFindings_eq, (isSettled_arrange.mpr settled).planFindings_eq]
  refine Keyed.flatMap_arranged_perm (f := ReplicationRule.arrange) replication.rules fun _ _ => ?_
  exact .of_eq (FilterPlan.findings_arrange _ _ _ _)

/-- A replication is settled once its checks and its planning have let it pass. -/
theorem isSettled_resolve {replication : Replication} {versioning : Option Bool}
    {encryption : Option Encryption} (checks : Passes (replication.findings versioning encryption))
    (planning : Passes replication.resolve.planFindings) : replication.resolve.IsSettled := by
  refine ⟨fun entry member => ?_, nodup_of_passes (reportsOnly_append.mp planning).1⟩
  obtain ⟨parts, found⟩ := (isPlannable_of_passes checks entry.2 (List.mem_map_of_mem member)).parts
  rw [ReplicationRule.isComplete, found]

theorem resolve_arrange (replication : Replication) :
    replication.arrange.resolve = replication.resolve.arrange := by
  have rules := replication.rules.arranged_mapValues (f := ReplicationRule.arrange)
    (g := ReplicationRule.resolve) fun _ => rfl
  rw [arrange, resolve, arrange, resolve, rules]

end Replication

namespace Notifications

/-- No kind of destination occurs more often than a bucket may notify it. -/
def KeepsLimits (notifications : Notifications) : Prop :=
  ∀ entry ∈ DestinationKind.limits, (notifications.addressesOf entry.1).length ≤ entry.2

theorem keepsLimits_of_passes {notifications : Notifications}
    (passes : Passes notifications.limitFindings) : notifications.KeepsLimits := by
  intro entry member
  have own := reportsOnly_flatMap.mp passes entry member
  dsimp only at own
  cases found : notifications.addressesOf entry.1 with
  | nil => exact Nat.zero_le _
  | cons first others =>
    rw [found] at own
    refine Nat.not_lt.mp fun exceeded => ?_
    exact absurd ((reportsOnly_ite.mp own).1 exceeded) Scope.passes_error

theorem limitFindings_eq_nil {notifications : Notifications} (keeps : notifications.KeepsLimits) :
    notifications.limitFindings = [] := by
  refine List.flatMap_eq_nil_iff.mpr fun entry member => ?_
  have few := keeps entry member
  dsimp only
  split
  · rfl
  · rename_i found
    rw [found] at few
    rw [if_neg (by simpa using few)]

theorem classified_arrange_perm (notifications : Notifications) :
    notifications.arrange.classified.Perm notifications.classified :=
  notifications.destinations.entries_inOrder_perm.filterMap _

theorem keepsLimits_arrange {notifications : Notifications} :
    notifications.arrange.KeepsLimits ↔ notifications.KeepsLimits := by
  have length (kind : DestinationKind) : (notifications.arrange.addressesOf kind).length =
      (notifications.addressesOf kind).length :=
    ((notifications.classified_arrange_perm.filter _).map _).length_eq
  simp only [KeepsLimits, length]

theorem KeepsLimits.planFindings_arrange_perm {notifications : Notifications}
    (keeps : notifications.KeepsLimits) (maxKeyLength : Int) :
    (notifications.arrange.planFindings maxKeyLength).Perm
      (notifications.planFindings maxKeyLength) := by
  rw [planFindings, planFindings, limitFindings_eq_nil keeps,
    limitFindings_eq_nil (keepsLimits_arrange.mpr keeps)]
  exact notifications.classified_arrange_perm.flatMap_right _

end Notifications

namespace Descriptor

/-- A description whose rules cannot be at odds with each other. -/
structure IsSettled (d : Descriptor) : Prop where
  replication : ∀ replication ∈ d.replication, replication.IsSettled
  notifications : ∀ notifications ∈ d.notifications, notifications.KeepsLimits

theorem isSettled_arrange {d : Descriptor} : d.arrange.IsSettled ↔ d.IsSettled := by
  have replication : (∀ replication ∈ d.arrange.replication, replication.IsSettled) ↔
      ∀ replication ∈ d.replication, replication.IsSettled := by
    simp [arrange, Replication.isSettled_arrange]
  have notifications : (∀ notifications ∈ d.arrange.notifications, notifications.KeepsLimits) ↔
      ∀ notifications ∈ d.notifications, notifications.KeepsLimits := by
    simp [arrange, Notifications.keepsLimits_arrange]
  exact ⟨fun own => ⟨replication.mp own.replication, notifications.mp own.notifications⟩,
    fun own => ⟨replication.mpr own.replication, notifications.mpr own.notifications⟩⟩

/-- The planning of the rules says of a settled description what it says of the arranged one. -/
theorem IsSettled.ruleFindings_arrange_perm {d : Descriptor} (settled : d.IsSettled)
    (options : Options) : (d.arrange.ruleFindings options).Perm (d.ruleFindings options) := by
  refine List.Perm.flatMap_left _ fun stage _ => ?_
  cases stage with
  | lifecycle => exact LifecyclePlan.findings_arranged_perm _ _
  | replication =>
    exact flatMap_toList_map_perm fun replication given =>
      (settled.replication replication given).planFindings_arrange_perm
  | notification =>
    exact flatMap_toList_map_perm fun notifications given =>
      (settled.notifications notifications given).planFindings_arrange_perm options.maxKeyLength
  | inventory => exact InventoryPlan.findings_inOrder_perm _
  | tiering => exact TieringPlan.findings_arranged_perm _
  | validate => exact .refl _
  | defaults => exact .refl _

theorem isSettled_resolve {d : Descriptor} {options : Options} (checks : Passes d.allFindings)
    (planning : Passes (d.resolve.ruleFindings options)) : d.resolve.IsSettled := by
  have stage {stage : Stage} (member : stage ∈ Stage.planning) :
      Passes (d.resolve.planFindings options stage) := reportsOnly_flatMap.mp planning stage member
  refine ⟨fun replication given => ?_, fun notifications given => ?_⟩
  · obtain ⟨own, found, rfl⟩ := Option.map_eq_some_iff.mp given
    have checked : Passes (d.findings .replication) := d.passes_concern checks .replication
    have planned : Passes (d.resolve.planFindings options .replication) := stage (by decide)
    refine Replication.isSettled_resolve (reportsOnly_flatMap.mp checked own ?_)
      (reportsOnly_flatMap.mp planned _ ?_)
    · exact Option.mem_toList.mpr found
    · exact Option.mem_toList.mpr given
  · have planned : Passes (d.resolve.planFindings options .notification) := stage (by decide)
    have own := reportsOnly_flatMap.mp planned notifications (Option.mem_toList.mpr given)
    exact Notifications.keepsLimits_of_passes (reportsOnly_append.mp own).1

theorem resolve_arrange (d : Descriptor) : d.arrange.resolve = d.resolve.arrange := by
  have inventory := Keyed.inOrder_mapValues (fun _ rule => InventoryRule.resolve rule) d.inventoryRules
  simp only [arrange, resolve, Option.map_map, Option.isSome_map, inventory, Function.comp_def,
    Replication.resolve_arrange]
  rfl

end Descriptor

end BucketPlan
