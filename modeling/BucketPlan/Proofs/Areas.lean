import BucketPlan.Descriptor.Checks
import BucketPlan.Proofs.Passes

namespace BucketPlan

namespace Scope

variable {scope : Scope} {property : Violation → Prop} {field message : String}

theorem reportsOnly_error {code : Code} : ReportsOnly property (scope.error field code message) ↔
    property (scope.violation field code message) := by
  simp [ReportsOnly, error, Finding.reported]

theorem reportsOnly_warning {code : Code} : ReportsOnly property (scope.warning field code message) ↔
    property (scope.violation field code message .warning) := by
  simp [ReportsOnly, warning, Finding.reported]

theorem reportsOnly_require {given : Bool}
    (holds : given = false → ∀ text, property (scope.violation field .requiresField text)) :
    ReportsOnly property (scope.require given field message) := by
  cases given with
  | true => exact reportsOnly_nil
  | false => simpa [ReportsOnly, require, Finding.reported] using holds rfl _

theorem reportsOnly_oneOf {value : Option String} {allowed : List String}
    (holds : ∀ text, property (scope.violation field .invalidEnumValue text)) :
    ReportsOnly property (scope.oneOf value allowed field) := by
  cases value with
  | none => exact reportsOnly_nil
  | some text => exact .ifFalse (reportsOnly_error.mpr (holds _))

theorem reportsOnly_inRange {value least most : Option Int}
    (holds : ∀ text, property (scope.violation field .outOfRange text)) :
    ReportsOnly property (scope.inRange value field least most) := by
  cases value with
  | none => exact reportsOnly_nil
  | some number => exact .ifFalse (reportsOnly_error.mpr (holds _))

end Scope

/-- Checks that report for areas of a list only. -/
abbrev InAreas (areas : List String) (findings : List Finding) : Prop :=
  ReportsOnly (fun v => v.area ∈ areas) findings

namespace Scope

variable {scope : Scope} {areas : List String} {field message : String}

@[simp]
theorem inAreas_error {code : Code} (known : scope.area ∈ areas) :
    InAreas areas (scope.error field code message) :=
  reportsOnly_error.mpr known

@[simp]
theorem inAreas_require {given : Bool} (known : scope.area ∈ areas) :
    InAreas areas (scope.require given field message) :=
  reportsOnly_require fun _ _ => known

@[simp]
theorem inAreas_oneOf {value : Option String} {allowed : List String} (known : scope.area ∈ areas) :
    InAreas areas (scope.oneOf value allowed field) :=
  reportsOnly_oneOf fun _ => known

@[simp]
theorem inAreas_inRange {value least most : Option Int} (known : scope.area ∈ areas) :
    InAreas areas (scope.inRange value field least most) :=
  reportsOnly_inRange fun _ => known

end Scope

section

variable {areas : List String}

theorem BucketName.inAreas_findings {name : Option String} (known : "name" ∈ areas) :
    InAreas areas (findings name) := by
  have warned {code : Code} {message : String} :
      InAreas areas (Scope.warning { area := "name" } "" code message) :=
    Scope.reportsOnly_warning.mpr known
  exact .ite (.ite warned (.ite warned (.ifTrue warned))) (Scope.inAreas_require known)

theorem inAreas_tagFindings {tags : Keyed String} (known : "tags" ∈ areas) :
    InAreas areas (tagFindings tags) := by
  simp [tagFindings, known]

theorem Retention.inAreas_findings {r : Retention} {amends : Bool} (known : "object_lock" ∈ areas) :
    InAreas areas (r.findings amends) := by
  simp [findings, known]

theorem ObjectLock.inAreas_findings {lock : Option ObjectLock} {enabled versioning : Option Bool}
    (versions : "versioning_enabled" ∈ areas) (switch : "enables_object_lock" ∈ areas)
    (known : "object_lock" ∈ areas) : InAreas areas (findings lock enabled versioning) := by
  cases lock with
  | none => simp [findings, versions]
  | some lock =>
    obtain ⟨token, retention⟩ := lock
    cases retention with
    | none => simp [findings, versions, switch]
    | some retention => simp [findings, versions, switch, Retention.inAreas_findings known]

theorem Encryption.inAreas_findings {e : Encryption} (known : "encryption" ∈ areas) :
    InAreas areas e.findings := by
  simp [findings, known]

theorem inAreas_ownershipFindings {ownership : Option String} (known : "object_ownership" ∈ areas) :
    InAreas areas (ownershipFindings ownership) := by
  simp [ownershipFindings, known]

theorem inAreas_requesterPaysFindings {requesterPays : Option Bool} {account : Option String}
    (known : "bucket_owner_account_id" ∈ areas) :
    InAreas areas (requesterPaysFindings requesterPays account) := by
  simp [requesterPaysFindings, known]

theorem Website.inAreas_findings {website : Website} (known : "website" ∈ areas) :
    InAreas areas website.findings := by
  have shared : websiteScope.area ∈ areas := known
  obtain ⟨redirect, site⟩ := website
  cases redirect with
  | none =>
    cases site with
    | none => simp [findings, shared]
    | some site =>
      simp [findings, StaticSite.findings, StaticSite.indexFindings, RoutingRule.findings, shared]
  | some redirect => cases site <;> simp [findings, Redirect.findings, shared]

theorem CorsRule.inAreas_allFindings {rules : List CorsRule} (known : "cors_rules" ∈ areas) :
    InAreas areas (allFindings rules) := by
  simp [allFindings, findings, known]

theorem ReplicationRule.inAreas_findings {rule : ReplicationRule} {scope : Scope} {keyBased : Bool}
    (known : scope.area ∈ areas) : InAreas areas (rule.findings scope keyBased) := by
  have transfer : InAreas areas (rule.transferFindings scope) := by
    unfold transferFindings
    cases rule.transfer <;> simp [known]
  have encrypted : InAreas areas (rule.encryptedFindings scope keyBased) := by
    unfold encryptedFindings
    cases rule.encrypted <;> simp [known]
  have features : InAreas areas (rule.featureFindings scope) := by
    unfold featureFindings
    cases rule.features <;> simp [known]
  simp [findings, priorityFindings, transfer, encrypted, features, known]

theorem Replication.inAreas_findings {replication : Replication} {versioning : Option Bool}
    {encryption : Option Encryption} (versions : "versioning_enabled" ∈ areas)
    (known : "replication" ∈ areas) (rules : "replication.rules" ∈ areas) :
    InAreas areas (replication.findings versioning encryption) := by
  simp only [findings, reportsOnly_append, reportsOnly_flatMap]
  refine ⟨⟨⟨Scope.inAreas_require known, Scope.inAreas_require known⟩, by simp [versions]⟩, ?_⟩
  exact fun _ _ => ReplicationRule.inAreas_findings rules

theorem Notifications.inAreas_findings {notifications : Notifications}
    (known : "notifications.destinations" ∈ areas) : InAreas areas notifications.findings := by
  simp [findings, known]

end

namespace Concern

/-- The areas that a concern reports for. -/
def areas : Concern → List String
  | name => ["name"]
  | tags => ["tags"]
  | objectLock => ["versioning_enabled", "enables_object_lock", "object_lock"]
  | encryption => ["encryption"]
  | ownership => ["object_ownership"]
  | requesterPays => ["bucket_owner_account_id"]
  | website => ["website"]
  | cors => ["cors_rules"]
  | replication => ["versioning_enabled", "replication", "replication.rules"]
  | notifications => ["notifications.destinations"]

end Concern

theorem Descriptor.inAreas_findings (d : Descriptor) (concern : Concern) :
    InAreas concern.areas (d.findings concern) := by
  cases concern with
  | name => exact BucketName.inAreas_findings (by decide)
  | tags => exact inAreas_tagFindings (by decide)
  | objectLock => exact ObjectLock.inAreas_findings (by decide) (by decide) (by decide)
  | encryption => exact reportsOnly_flatMap.mpr fun _ _ => Encryption.inAreas_findings (by decide)
  | ownership => exact inAreas_ownershipFindings (by decide)
  | requesterPays => exact inAreas_requesterPaysFindings (by decide)
  | website => exact reportsOnly_flatMap.mpr fun _ _ => Website.inAreas_findings (by decide)
  | cors => exact CorsRule.inAreas_allFindings (by decide)
  | replication =>
    exact reportsOnly_flatMap.mpr fun _ _ =>
      Replication.inAreas_findings (by decide) (by decide) (by decide)
  | notifications => exact reportsOnly_flatMap.mpr fun _ _ => Notifications.inAreas_findings (by decide)

end BucketPlan
