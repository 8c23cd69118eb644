import BucketPlan.Proofs.Areas
import BucketPlan.Proofs.Arranged.Planning
import BucketPlan.Proofs.Removal.Descriptor
import BucketPlan.Proofs.Valid.Website

namespace BucketPlan

theorem ReportsOnly.sublist {property : Violation → Prop} {whole part : List Finding}
    (reports : ReportsOnly property whole) (sub : part.Sublist whole) : ReportsOnly property part :=
  fun finding found => reports finding (sub.subset found)

/-- Where only errors can be found, a check that passes finds nothing. -/
theorem eq_nil_of_passes {findings : List Finding}
    (errors : ReportsOnly (fun v => v.isError = true) findings) (passes : Passes findings) :
    findings = [] := by
  refine List.eq_nil_iff_forall_not_mem.mpr fun finding found => ?_
  cases (errors finding found).symm.trans (passes finding found)

theorem flatMap_toList_sublist {α β : Type} {related : α → α → Prop} {whole part : Option α}
    {say say' : α → List β} (rel : Option.Rel related whole part)
    (each : ∀ a ∈ whole, ∀ b ∈ part, related a b → (say' b).Sublist (say a)) :
    (part.toList.flatMap say').Sublist (whole.toList.flatMap say) := by
  cases rel with
  | none => exact .refl _
  | some own => simpa using each _ rfl _ rfl own

theorem tagFindings_sublist {whole part : Keyed String} (includes : whole.Includes part)
    (passes : Passes (tagFindings whole)) : (tagFindings part).Sublist (tagFindings whole) := by
  have few : ¬maxTags < whole.size := by
    intro many
    have counted := (reportsOnly_append.mp passes).1
    rw [if_pos many] at counted
    exact Scope.passes_error counted
  have fewer : part.size ≤ whole.size := List.Sublist.length_le includes
  rw [tagFindings, tagFindings, if_neg few, if_neg (by omega), List.nil_append, List.nil_append]
  exact includes.flatMap

namespace CorsRule

theorem reportsOnly_errors (rules : List CorsRule) :
    ReportsOnly (fun v => v.isError = true) (allFindings rules) := by
  refine reportsOnly_append.mpr ⟨.ifTrue (Scope.reportsOnly_error.mpr rfl), ?_⟩
  refine reportsOnly_flatMap.mpr fun entry _ => ?_
  refine reportsOnly_append.mpr ⟨reportsOnly_append.mpr ⟨reportsOnly_append.mpr ⟨?_, ?_⟩, ?_⟩, ?_⟩
  · exact Scope.reportsOnly_require fun _ _ => rfl
  · exact Scope.reportsOnly_require fun _ _ => rfl
  · exact reportsOnly_flatMap.mpr fun _ _ => Scope.reportsOnly_oneOf fun _ => rfl
  · exact Scope.reportsOnly_inRange fun _ => rfl

/-- Rules that are let pass are let pass under any other indices as well. -/
theorem allFindings_eq_nil_of_sublist {whole part : List CorsRule} (sub : part.Sublist whole)
    (passes : Passes (allFindings whole)) : allFindings part = [] := by
  obtain ⟨few, legal⟩ := passes_allFindings.mp passes
  refine eq_nil_of_passes (reportsOnly_errors part) (passes_allFindings.mpr ⟨?_, ?_⟩)
  · exact Nat.le_trans sub.length_le few
  · exact fun rule member => legal rule (sub.subset member)

end CorsRule

namespace Replication

variable {whole part : Replication}

theorem IsReducedTo.findings_sublist (reduced : whole.IsReducedTo part)
    (remaining : part.rules.isEmpty = false) (versioning : Option Bool) (encryption : Option Encryption) :
    (part.findings versioning encryption).Sublist (whole.findings versioning encryption) := by
  have asked : Scope.require { area := "replication" } (!part.rules.isEmpty) "rules"
      "replication requires at least one rule" = [] := by
    rw [remaining]
    rfl
  rw [findings, findings, reduced.role, asked]
  exact (((List.Sublist.refl _).append (List.nil_sublist _)).append (.refl _)).append
    reduced.rules.flatMap

/-- Fewer rules have no more priorities in common. -/
theorem IsReducedTo.isSettled (reduced : whole.IsReducedTo part) (settled : whole.IsSettled) :
    part.IsSettled := by
  have priorities : (part.rules.values.filterMap ReplicationRule.priority).Sublist
      (whole.rules.values.filterMap ReplicationRule.priority) :=
    (List.Sublist.map Prod.snd reduced.rules).filterMap _
  exact ⟨fun entry member => settled.complete entry (reduced.rules.subset member),
    priorities.nodup settled.unique⟩

theorem IsReducedTo.planFindings_sublist (reduced : whole.IsReducedTo part) (settled : whole.IsSettled) :
    part.planFindings.Sublist whole.planFindings := by
  rw [settled.planFindings_eq, (reduced.isSettled settled).planFindings_eq]
  exact reduced.rules.flatMap

end Replication

namespace Notifications

variable {whole part : Notifications}

theorem IsReducedTo.findings_sublist (reduced : whole.IsReducedTo part) :
    part.findings.Sublist whole.findings :=
  List.Sublist.flatMap (List.Sublist.map Prod.fst reduced.destinations) _

theorem IsReducedTo.classified_sublist (reduced : whole.IsReducedTo part) :
    part.classified.Sublist whole.classified :=
  List.Sublist.filterMap _ reduced.destinations

theorem IsReducedTo.keepsLimits (reduced : whole.IsReducedTo part) (keeps : whole.KeepsLimits) :
    part.KeepsLimits := by
  intro entry member
  have addresses : (part.addressesOf entry.1).Sublist (whole.addressesOf entry.1) :=
    (reduced.classified_sublist.filter _).map _
  exact Nat.le_trans addresses.length_le (keeps entry member)

theorem IsReducedTo.planFindings_sublist (reduced : whole.IsReducedTo part) (keeps : whole.KeepsLimits)
    (maxKeyLength : Int) :
    (part.planFindings maxKeyLength).Sublist (whole.planFindings maxKeyLength) := by
  rw [planFindings, planFindings, limitFindings_eq_nil keeps,
    limitFindings_eq_nil (reduced.keepsLimits keeps)]
  exact reduced.classified_sublist.flatMap _

end Notifications

namespace Descriptor

variable {d r : Descriptor}

/-- A replication that is asked for has some rule. -/
def HasReplicationRules (d : Descriptor) : Prop :=
  ∀ replication ∈ d.replication, replication.rules.isEmpty = false

/-- A check that lets a description pass has nothing to say of a part of it that it would not say of
the whole. -/
theorem IsReducedTo.findings_sublist (reduced : d.IsReducedTo r) (passes : Passes d.allFindings)
    (remaining : r.HasReplicationRules) (concern : Concern) :
    (r.findings concern).Sublist (d.findings concern) := by
  have own := d.passes_concern passes concern
  cases concern with
  | tags => exact tagFindings_sublist reduced.tags own
  | cors =>
    rw [findings, CorsRule.allFindings_eq_nil_of_sublist reduced.corsRules own]
    exact List.nil_sublist _
  | replication =>
    rw [findings, findings, reduced.versioning_eq, reduced.encryption_eq]
    exact flatMap_toList_sublist reduced.replication fun _ _ part given rel =>
      rel.findings_sublist (remaining part given) _ _
  | notifications =>
    exact flatMap_toList_sublist reduced.notifications fun _ _ _ _ rel => rel.findings_sublist
  | _ =>
    rw [reduced.others]
    exact .refl _

theorem IsReducedTo.allFindings_sublist (reduced : d.IsReducedTo r) (passes : Passes d.allFindings)
    (remaining : r.HasReplicationRules) : r.allFindings.Sublist d.allFindings :=
  .flatMap_right _ fun concern _ => reduced.findings_sublist passes remaining concern

/-- So it is with the planning of the rules, where they are not at odds with each other. -/
theorem IsReducedTo.ruleFindings_sublist (reduced : d.IsReducedTo r) (settled : d.IsSettled)
    (options : Options) : (r.ruleFindings options).Sublist (d.ruleFindings options) := by
  refine .flatMap_right _ fun stage _ => ?_
  cases stage with
  | lifecycle =>
    rw [planFindings, planFindings, reduced.versioning_eq]
    exact reduced.lifecycleRules.flatMap
  | replication =>
    exact flatMap_toList_sublist reduced.replication fun whole given _ _ rel =>
      rel.planFindings_sublist (settled.replication whole given)
  | notification =>
    exact flatMap_toList_sublist reduced.notifications fun whole given _ _ rel =>
      rel.planFindings_sublist (settled.notifications whole given) options.maxKeyLength
  | inventory => exact reduced.inventoryRules.flatMap
  | tiering => exact reduced.tieringRules.flatMap
  | validate => exact .refl _
  | defaults => exact .refl _

end Descriptor

end BucketPlan
