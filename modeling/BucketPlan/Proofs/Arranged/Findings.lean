import BucketPlan.Proofs.Arranged.Descriptor
import BucketPlan.Plan.Basic

namespace BucketPlan

theorem flatMap_toList_map_perm {α β : Type} {given : Option α} {f : α → α} {say : α → List β}
    (same : ∀ item ∈ given, (say (f item)).Perm (say item)) :
    ((given.map f).toList.flatMap say).Perm (given.toList.flatMap say) := by
  cases given with
  | none => exact .refl _
  | some item => simpa using same item rfl

theorem ObjectFilter.findings_arrange (filter : ObjectFilter) (scope : Scope) (field : String)
    (sizes : Bool) : filter.arrange.findings scope field sizes = filter.findings scope field sizes := by
  have empty : filter.tags.inOrder.names.filter (· = "") = filter.tags.names.filter (· = "") := by
    rw [List.filter_eq, List.filter_eq, filter.tags.names_inOrder_perm.count_eq]
  rw [findings, findings, arrange, empty]
  rfl

theorem FilterPlan.findings_arrange (filter : Option ObjectFilter) (scope : Scope) (sizes : Bool)
    (field : String) :
    findings (filter.map ObjectFilter.arrange) scope sizes field = findings filter scope sizes field := by
  cases filter with
  | none => rfl
  | some filter => exact filter.findings_arrange scope field sizes

namespace LifecycleRule

theorem hasTags_arrange (rule : LifecycleRule) : rule.arrange.hasTags = rule.hasTags := by
  rw [hasTags, hasTags, arrange, Option.any_map]
  refine congrArg (Option.any · rule.filter) (funext fun filter => ?_)
  exact congrArg not filter.tags.isEmpty_inOrder

theorem findings_arrange (rule : LifecycleRule) (name : String) (scope : Scope) (versioned : Bool) :
    rule.arrange.findings name scope versioned = rule.findings name scope versioned := by
  have filter : FilterPlan.findings rule.arrange.filter scope true =
      FilterPlan.findings rule.filter scope true := FilterPlan.findings_arrange rule.filter scope true _
  rw [findings, findings, filter, abortFindings, abortFindings, hasTags_arrange]
  rfl

end LifecycleRule

theorem TieringRule.findings_arrange_perm (rule : TieringRule) (scope : Scope) :
    (rule.arrange.findings scope).Perm (rule.findings scope) := by
  have filter : FilterPlan.findings rule.arrange.filter scope false =
      FilterPlan.findings rule.filter scope false := FilterPlan.findings_arrange rule.filter scope false _
  have isEmpty : rule.arrange.tierings.isEmpty = rule.tierings.isEmpty :=
    rule.tierings.isEmpty_inOrder
  have order : rule.arrange.orderFindings scope = rule.orderFindings scope := by
    rw [orderFindings, orderFindings, arrange, Keyed.get?_inOrder, Keyed.get?_inOrder]
  rw [findings, findings, filter, isEmpty, order]
  exact ((rule.tierings.entries_inOrder_perm.flatMap_right _).append_left _).append_right _

theorem LifecyclePlan.findings_arranged_perm (rules : Keyed LifecycleRule) (versioned : Bool) :
    (findings (rules.arranged LifecycleRule.arrange) versioned).Perm (findings rules versioned) :=
  rules.flatMap_arranged_perm fun name rule => .of_eq (rule.findings_arrange name _ versioned)

theorem TieringPlan.findings_arranged_perm (rules : Keyed TieringRule) :
    (findings (rules.arranged TieringRule.arrange)).Perm (findings rules) :=
  rules.flatMap_arranged_perm fun _ rule => rule.findings_arrange_perm _

theorem InventoryPlan.findings_inOrder_perm (rules : Keyed InventoryRule) :
    (findings rules.inOrder).Perm (findings rules) :=
  rules.entries_inOrder_perm.flatMap_right _

theorem tagFindings_inOrder_perm (tags : Keyed String) :
    (tagFindings tags.inOrder).Perm (tagFindings tags) := by
  rw [tagFindings, tagFindings, Keyed.size_inOrder]
  exact (tags.entries_inOrder_perm.flatMap_right _).append_left _

theorem Replication.findings_arrange_perm (replication : Replication) (versioning : Option Bool)
    (encryption : Option Encryption) :
    (replication.arrange.findings versioning encryption).Perm
      (replication.findings versioning encryption) := by
  have isEmpty : replication.arrange.rules.isEmpty = replication.rules.isEmpty :=
    replication.rules.isEmpty_arranged
  rw [findings, findings, isEmpty]
  exact (Keyed.flatMap_arranged_perm (f := ReplicationRule.arrange) replication.rules
    fun _ _ => .refl _).append_left _

theorem Notifications.findings_arrange_perm (notifications : Notifications) :
    notifications.arrange.findings.Perm notifications.findings :=
  notifications.destinations.names_inOrder_perm.flatMap_right _

namespace Descriptor

/-- The checks say of an arranged description what they say of the description itself. -/
theorem allFindings_arrange_perm (d : Descriptor) : d.arrange.allFindings.Perm d.allFindings := by
  refine List.Perm.flatMap_left _ fun concern _ => ?_
  cases concern with
  | tags => exact tagFindings_inOrder_perm d.tags
  | replication => exact flatMap_toList_map_perm fun replication _ => replication.findings_arrange_perm _ _
  | notifications => exact flatMap_toList_map_perm fun notifications _ => notifications.findings_arrange_perm
  | _ => exact .refl _

end Descriptor

end BucketPlan
