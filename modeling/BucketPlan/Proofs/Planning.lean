import BucketPlan.Run.Compilation
import BucketPlan.Proofs.Fallible
import BucketPlan.Proofs.Passes

namespace BucketPlan

theorem isSome_of_isFilled {text : Option String} (filled : isFilled text = true) :
    text.isSome = true := by
  cases text with
  | none => cases filled
  | some _ => rfl

theorem isSome_of_strip {text : Option String} (filled : strip (text.getD "") ≠ "") :
    text.isSome = true := by
  cases text with
  | none => exact absurd (by decide) filled
  | some _ => rfl

namespace ReplicationRule

/-- What a rule needs so that it can be planned: a destination, an account where ownership is handed
over, and a priority. -/
structure IsPlannable (rule : ReplicationRule) : Prop where
  destination : rule.destination.isSome = true
  account : ∀ transfer ∈ rule.transfer, transfer.accountId.isSome = true
  priority : rule.priority.isSome = true

theorem IsPlannable.parts {rule : ReplicationRule} (plannable : rule.IsPlannable) :
    ∃ parts, rule.parts = .ok parts := by
  obtain ⟨destination, destinationEq⟩ := Option.isSome_iff_exists.mp plannable.destination
  cases transferEq : rule.transfer with
  | none => exact ⟨(destination, none), by simp only [ReplicationRule.parts, destinationEq, transferEq]⟩
  | some transfer =>
    obtain ⟨account, accountEq⟩ := Option.isSome_iff_exists.mp (plannable.account transfer transferEq)
    refine ⟨(destination, some (strip account)), ?_⟩
    simp only [ReplicationRule.parts, destinationEq, transferEq, accountEq]

theorem IsPlannable.plan {rule : ReplicationRule} (plannable : rule.IsPlannable) (name : String) :
    ∃ plan, rule.plan name = .ok plan := by
  obtain ⟨⟨destination, account⟩, partsEq⟩ := plannable.parts
  obtain ⟨priority, priorityEq⟩ := Option.isSome_iff_exists.mp plannable.priority
  refine ⟨rule.planWith name destination account priority, ?_⟩
  simp only [ReplicationRule.plan, partsEq, priorityEq]
  rfl

/-- A rule that passes its checks can be planned, also once it is resolved. -/
theorem isPlannable_of_passes {rule : ReplicationRule} {scope : Scope} {keyBased : Bool}
    (passes : Passes (rule.findings scope keyBased)) : rule.resolve.IsPlannable := by
  simp only [findings, reportsOnly_append, priorityFindings, Scope.passes_require] at passes
  obtain ⟨⟨⟨⟨⟨destination, priority, _⟩, _⟩, transfer⟩, _⟩, _⟩ := passes
  refine ⟨isSome_of_isFilled destination, fun handover transferEq => ?_, priority⟩
  rw [transferFindings, show rule.transfer = some handover from transferEq] at transfer
  exact isSome_of_strip (of_decide_eq_true (Scope.passes_require.mp transfer))

end ReplicationRule

namespace Replication

theorem plan_returns {replication : Replication}
    (plannable : ∀ rule ∈ replication.rules.values, rule.IsPlannable) :
    ∃ plan, replication.plan = .ok plan := by
  refine returns_iff_not_error.mpr fun fault failed => ?_
  obtain incomplete | ⟨_, _, rest⟩ := steps_of_bind_error failed
  · obtain ⟨rule, member, fails⟩ := mem_of_mapM_error incomplete
    obtain ⟨parts, complete⟩ := (plannable rule member).parts
    cases fails.symm.trans complete
  · obtain unplanned | ⟨_, _, ended⟩ := steps_of_bind_error rest
    · obtain ⟨⟨name, rule⟩, member, fails⟩ := mem_of_mapM_error unplanned
      obtain ⟨plan, planned⟩ := (plannable rule (List.mem_map_of_mem member)).plan name
      cases fails.symm.trans planned
    · cases ended

/-- Every rule of a replication that passes its checks can be planned, once it is resolved. -/
theorem isPlannable_of_passes {replication : Replication} {versioning : Option Bool}
    {encryption : Option Encryption} (passes : Passes (replication.findings versioning encryption)) :
    ∀ rule ∈ replication.resolve.rules.values, rule.IsPlannable := by
  simp only [findings, reportsOnly_append, reportsOnly_flatMap] at passes
  intro rule member
  obtain ⟨entry, inRules, rfl⟩ := List.mem_map.mp member
  obtain ⟨⟨name, given⟩, inGiven, rfl⟩ := List.mem_map.mp inRules
  exact ReplicationRule.isPlannable_of_passes (passes.2 (name, given) inGiven)

theorem plan_resolve_returns {replication : Replication} {versioning : Option Bool}
    {encryption : Option Encryption} (passes : Passes (replication.findings versioning encryption)) :
    ∃ plan, replication.resolve.plan = .ok plan :=
  plan_returns (isPlannable_of_passes passes)

end Replication

theorem WebsitePlan.ofWebsite_returns {website : Website} (passes : Passes website.findings) :
    ∃ plan, WebsitePlan.ofWebsite website = .ok plan := by
  obtain ⟨redirect, site⟩ := website
  cases redirect with
  | some redirect => exact ⟨.redirect redirect, rfl⟩
  | none =>
    cases site with
    | some site => exact ⟨.static site, rfl⟩
    | none => exact absurd passes Scope.passes_error

theorem Concern.mem_all (concern : Concern) : concern ∈ all := by
  cases concern <;> decide

/-- The stages in which rules are planned. -/
def Stage.planning : List Stage :=
  [.lifecycle, .replication, .notification, .inventory, .tiering]

namespace Descriptor

/-- What the planning of the rules has to report, one kind of rules after the other. -/
def ruleFindings (d : Descriptor) (options : Options) : List Finding :=
  Stage.planning.flatMap (d.planFindings options)

theorem ruleFindings_eq (d : Descriptor) (options : Options) :
    d.ruleFindings options =
      (d.planFindings options .lifecycle ++ d.planFindings options .replication) ++
      (d.planFindings options .notification ++ d.planFindings options .inventory ++
        d.planFindings options .tiering) := by
  simp [ruleFindings, Stage.planning]

theorem passes_concern {d : Descriptor} (passes : Passes d.allFindings) (concern : Concern) :
    Passes (d.findings concern) :=
  reportsOnly_flatMap.mp passes concern concern.mem_all

theorem replicationPlan_returns {d : Descriptor} (passes : Passes d.allFindings) :
    ∃ replication, d.resolve.replicationPlan = .ok replication := by
  have concern := d.passes_concern passes .replication
  simp only [findings, reportsOnly_flatMap, Option.mem_toList] at concern
  cases given : d.replication with
  | none => exact ⟨none, by simp [replicationPlan, resolve, given]⟩
  | some replication =>
    obtain ⟨plan, planned⟩ := Replication.plan_resolve_returns (concern replication given)
    refine ⟨some plan, ?_⟩
    simp only [replicationPlan, resolve, given, Option.map_some, planned]
    rfl

/-- A description that passes its checks has a plan, whatever the plans of its rules are. -/
theorem plan_returns {d : Descriptor} (passes : Passes d.allFindings) (rules : RulePlans) :
    ∃ plan, d.resolve.plan rules = .ok plan := by
  have concern := d.passes_concern passes .website
  simp only [findings, reportsOnly_flatMap, Option.mem_toList] at concern
  refine returns_iff_not_error.mpr fun fault failed => ?_
  obtain unplanned | ⟨_, _, ended⟩ := steps_of_bind_error failed
  · cases given : d.website with
    | none => simp [websitePlan, resolve, given] at unplanned
    | some website =>
      obtain ⟨plan, planned⟩ := WebsitePlan.ofWebsite_returns (concern website given)
      simp only [websitePlan, resolve, given, planned] at unplanned
      cases unplanned
  · cases ended

end Descriptor

end BucketPlan
