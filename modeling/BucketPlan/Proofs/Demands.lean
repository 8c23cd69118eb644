import BucketPlan.Proofs.Shape.Complete
import BucketPlan.Proofs.Verdict

namespace BucketPlan

/-- The path at which a finding asks for a value whatever is reported there already. -/
def Finding.demand? : Finding → Option String
  | violation v => if v.code = .requiresField ∧ v.isError = true then some v.path else none
  | absence _ => none

/-- The paths at which findings ask for values whatever is reported there already. -/
def demands (findings : List Finding) : List String :=
  findings.filterMap Finding.demand?

@[simp]
theorem demands_nil : demands [] = [] := rfl

@[simp]
theorem demands_append (first second : List Finding) :
    demands (first ++ second) = demands first ++ demands second :=
  List.filterMap_append

@[simp]
theorem demands_flatMap {α : Type} (items : List α) (check : α → List Finding) :
    demands (items.flatMap check) = items.flatMap fun item => demands (check item) :=
  List.filterMap_flatMap

@[simp]
theorem demands_ite {condition : Prop} [Decidable condition] (first second : List Finding) :
    demands (if condition then first else second) =
      if condition then demands first else demands second :=
  apply_ite demands condition first second

theorem mem_demands {findings : List Finding} {path : String} : path ∈ demands findings ↔
    ∃ v, .violation v ∈ findings ∧ v.code = .requiresField ∧ v.isError = true ∧ v.path = path := by
  rw [demands, List.mem_filterMap]
  constructor
  · rintro ⟨finding, member, demanded⟩
    cases finding with
    | absence => cases demanded
    | violation v =>
      obtain ⟨⟨code, error⟩, same⟩ := Option.ite_none_right_eq_some.mp demanded
      exact ⟨v, member, code, error, Option.some.inj same⟩
  · rintro ⟨v, member, code, error, rfl⟩
    exact ⟨_, member, if_pos ⟨code, error⟩⟩

namespace Scope

variable (scope : Scope) (field message : String)

@[simp]
theorem demands_error (code : Code) : demands (scope.error field code message) =
    if code = .requiresField then [scope.path field] else [] := by
  by_cases asks : code = .requiresField <;>
    simp [demands, error, Finding.demand?, violation, Violation.isError, Violation.path, path, asks]

@[simp]
theorem demands_warning (code : Code) : demands (scope.warning field code message) = [] := by
  simp [demands, warning, Finding.demand?, violation, Violation.isError]

@[simp]
theorem demands_require (given : Bool) : demands (scope.require given field message) = [] := by
  cases given <;> rfl

@[simp]
theorem demands_oneOf (value : Option String) (allowed : List String) :
    demands (scope.oneOf value allowed field) = [] := by
  cases value with
  | none => rfl
  | some text => simp [oneOf, unlisted]

@[simp]
theorem demands_inRange (value least most : Option Int) :
    demands (scope.inRange value field least most) = [] := by
  cases value with
  | none => rfl
  | some number => simp [inRange]

end Scope

theorem BucketName.demands_findings (name : Option String) : demands (findings name) = [] := by
  simp only [findings, demands_ite, demands_nil, Scope.demands_warning, Scope.demands_require, ite_self]

theorem demands_tagFindings (tags : Keyed String) : demands (tagFindings tags) = [] := by
  simp [tagFindings]

theorem Encryption.demands_findings (e : Encryption) : demands e.findings = [] := by
  simp [findings]

theorem demands_ownershipFindings (ownership : Option String) :
    demands (ownershipFindings ownership) = [] := by
  simp [ownershipFindings]

theorem demands_requesterPaysFindings (requesterPays : Option Bool) (account : Option String) :
    demands (requesterPaysFindings requesterPays account) = [] := by
  simp [requesterPaysFindings]

theorem CorsRule.demands_allFindings (rules : List CorsRule) : demands (allFindings rules) = [] := by
  simp [allFindings, findings]

theorem Notifications.demands_findings (notifications : Notifications) :
    demands notifications.findings = [] := by
  simp [findings]

section

variable {path : String}

theorem Retention.demands_findings (r : Retention) (amends : Bool) : demands (r.findings amends) =
    if amends = false ∧ r.days = none ∧ r.years = none then
      ["object_lock.default_retention.retention_days"] else [] := by
  have placed : Scope.path { area := "object_lock" } "default_retention.retention_days" =
      "object_lock.default_retention.retention_days" := rfl
  cases amends <;> simp [findings, placed]

theorem ObjectLock.mem_demands_findings {lock : Option ObjectLock} {enabled versioning : Option Bool} :
    path ∈ demands (findings lock enabled versioning) ↔
      (path = "versioning_enabled" ∧ enabled = some true ∧ versioning = some false) ∨
      (path = "enables_object_lock" ∧ lock.isSome = true ∧ enabled ≠ some true) ∨
      (path = "object_lock.default_retention.retention_days" ∧ ∃ given, lock = some given ∧
        given.token = none ∧ ∃ kept, given.retention = some kept ∧
          kept.days = none ∧ kept.years = none) := by
  have versions : Scope.path { area := "versioning_enabled" } "" = "versioning_enabled" := rfl
  have switch : Scope.path { area := "enables_object_lock" } "" = "enables_object_lock" := rfl
  cases lock with
  | none => simp [findings, versions, and_comm]
  | some lock =>
    obtain ⟨token, retention⟩ := lock
    cases retention with
    | none => simp [findings, versions, switch, and_comm]
    | some kept =>
      simp [findings, versions, switch, Retention.demands_findings, and_comm, and_assoc]

theorem RoutingRule.demands_findings (rule : RoutingRule) (field : String) :
    demands (rule.findings field) =
      if rule.hasTarget = true then [] else [websiteScope.path field] := by
  simp [findings]

theorem path_routingRule (i : Nat) : websiteScope.path s!"static_website.routing_rules.{i}" =
    s!"website.static_website.routing_rules.{i}" := by
  have spelled : websiteScope.path s!"static_website.routing_rules.{i}" =
      "website." ++ ("static_website.routing_rules." ++ toString i) := by
    simp [Scope.path, websiteScope, dottedPath, toString]
  rw [spelled, ← String.append_assoc]
  rfl

theorem Website.mem_demands_findings {website : Website} : path ∈ demands website.findings ↔
    website.redirect = none ∧ ((path = "website" ∧ website.static = none) ∨
      ∃ (site : StaticSite) (i : Nat) (rule : RoutingRule), website.static = some site ∧
        site.routingRules[i]? = some rule ∧ rule.hasTarget = false ∧ path = s!"website.static_website.routing_rules.{i}") := by
  have whole : websiteScope.path "" = "website" := rfl
  obtain ⟨redirect, site⟩ := website
  cases redirect with
  | some redirect => cases site <;> simp [findings, Redirect.findings]
  | none =>
    cases site with
    | none => simp [findings, whole]
    | some site =>
      have index : demands site.indexFindings = [] := by
        simp [StaticSite.indexFindings]
      simp only [findings, StaticSite.findings, demands_append, index, List.nil_append,
        demands_flatMap, RoutingRule.demands_findings, path_routingRule, List.mem_flatMap, Prod.exists,
        List.mem_zipIdx_iff_getElem?, List.mem_ite_nil_left, List.mem_singleton, Bool.not_eq_true,
        Option.some.injEq, true_and, reduceCtorEq, and_false, false_or]
      constructor
      · rintro ⟨rule, i, listed, aimless, same⟩
        exact ⟨site, i, rule, rfl, listed, aimless, same⟩
      · rintro ⟨_, i, rule, rfl, listed, aimless, same⟩
        exact ⟨rule, i, listed, aimless, same⟩

theorem ReplicationRule.mem_demands_findings {rule : ReplicationRule} {scope : Scope}
    {keyBased : Bool} : path ∈ demands (rule.findings scope keyBased) ↔
      (path = scope.path "replicate_kms_encrypted_objects" ∧ rule.encrypted.isSome = true ∧
        keyBased = false) ∨
      (path = scope.path "features.metrics" ∧ ∃ features, rule.features = some features ∧
        features.timeControl = some true ∧ features.metrics = some false) := by
  have encrypted : demands (rule.encryptedFindings scope keyBased) =
      if rule.encrypted.isSome = true ∧ keyBased = false then
        [scope.path "replicate_kms_encrypted_objects"] else [] := by
    unfold encryptedFindings
    cases rule.encrypted <;> cases keyBased <;> simp
  have transfer : demands (rule.transferFindings scope) = [] := by
    unfold transferFindings
    cases rule.transfer <;> simp
  have features : path ∈ demands (rule.featureFindings scope) ↔
      path = scope.path "features.metrics" ∧ ∃ features, rule.features = some features ∧
        features.timeControl = some true ∧ features.metrics = some false := by
    unfold featureFindings
    cases rule.features <;> simp [and_comm]
  simp [findings, priorityFindings, encrypted, transfer, features, and_comm]

theorem Replication.mem_demands_findings {replication : Replication} {versioning : Option Bool}
    {encryption : Option Encryption} : path ∈ demands (replication.findings versioning encryption) ↔
      (path = "versioning_enabled" ∧ versioning = some false) ∨
      ∃ name rule, (name, rule) ∈ replication.rules.entries ∧
        path ∈ demands (rule.findings { area := "replication.rules", rule := name }
          (Encryption.isKeyBased encryption)) := by
  have versions : Scope.path { area := "versioning_enabled" } "" = "versioning_enabled" := rfl
  simp [findings, versions, and_comm]

end

namespace Descriptor

/-- The paths at which the checks of a description ask for a value even where one of a wrong kind is
reported already. -/
inductive InsistsOn (d : Descriptor) : String → Prop
  | lockSwitch (locked : d.objectLock.isSome = true) (off : d.lockEnabled ≠ some true) :
      InsistsOn d "enables_object_lock"
  | period {lock : ObjectLock} {retention : Retention} (locked : d.objectLock = some lock)
      (new : lock.token = none) (kept : lock.retention = some retention)
      (endless : retention.days = none ∧ retention.years = none) :
      InsistsOn d "object_lock.default_retention.retention_days"
  | target {website : Website} {site : StaticSite} {i : Nat} {rule : RoutingRule}
      (given : d.website = some website) (serving : website.redirect = none)
      (static : website.static = some site) (listed : site.routingRules[i]? = some rule)
      (aimless : rule.hasTarget = false) :
      InsistsOn d s!"website.static_website.routing_rules.{i}"
  | keyScheme {replication : Replication} {name : String} {rule : ReplicationRule}
      (given : d.replication = some replication) (listed : (name, rule) ∈ replication.rules.entries)
      (encrypted : rule.encrypted.isSome = true)
      (keyless : Encryption.isKeyBased d.encryption = false) :
      InsistsOn d (dottedPath ["replication.rules", name, "replicate_kms_encrypted_objects"])
  | metrics {replication : Replication} {name : String} {rule : ReplicationRule}
      {features : ReplicationFeatures} (given : d.replication = some replication)
      (listed : (name, rule) ∈ replication.rules.entries) (featured : rule.features = some features)
      (timed : features.timeControl = some true) (unmeasured : features.metrics = some false) :
      InsistsOn d (dottedPath ["replication.rules", name, "features.metrics"])

theorem mem_demands_allFindings {d : Descriptor} {path : String} : path ∈ demands d.allFindings ↔
    (path = "versioning_enabled" ∧ d.versioning = some false ∧
      (d.lockEnabled = some true ∨ d.replication.isSome = true)) ∨
    (path = "website" ∧ ∃ website, d.website = some website ∧ website.redirect = none ∧
      website.static = none) ∨
    d.InsistsOn path := by
  have asking : path ∈ demands d.allFindings ↔
      path ∈ demands (d.findings .objectLock) ∨ path ∈ demands (d.findings .website) ∨
        path ∈ demands (d.findings .replication) := by
    simp [allFindings, Concern.all, findings, BucketName.demands_findings, demands_tagFindings,
      Encryption.demands_findings, demands_ownershipFindings, demands_requesterPaysFindings,
      CorsRule.demands_allFindings, Notifications.demands_findings]
  rw [asking]
  simp only [findings, demands_flatMap, List.mem_flatMap, Option.mem_toList,
    ObjectLock.mem_demands_findings, Website.mem_demands_findings, Replication.mem_demands_findings,
    ReplicationRule.mem_demands_findings]
  constructor
  · rintro ((⟨rfl, locked, unversioned⟩ | ⟨rfl, locked, off⟩ |
        ⟨rfl, lock, locked, new, retention, kept, endless⟩) |
      ⟨website, given, serving, ⟨rfl, static⟩ | ⟨site, i, rule, static, listed, aimless, rfl⟩⟩ |
      ⟨replication, given, ⟨rfl, unversioned⟩ |
        ⟨name, rule, listed, ⟨rfl, encrypted, keyless⟩ | ⟨rfl, features, featured, timed, unmeasured⟩⟩⟩)
    · exact .inl ⟨rfl, unversioned, .inl locked⟩
    · exact .inr (.inr (.lockSwitch locked off))
    · exact .inr (.inr (.period locked new kept endless))
    · exact .inr (.inl ⟨rfl, website, given, serving, static⟩)
    · exact .inr (.inr (.target given serving static listed aimless))
    · exact .inl ⟨rfl, unversioned, .inr (Option.isSome_iff_exists.mpr ⟨replication, given⟩)⟩
    · exact .inr (.inr (.keyScheme given listed encrypted keyless))
    · exact .inr (.inr (.metrics given listed featured timed unmeasured))
  · rintro (⟨rfl, unversioned, locked | replicated⟩ | ⟨rfl, website, given, serving, static⟩ | insists)
    · exact .inl (.inl ⟨rfl, locked, unversioned⟩)
    · obtain ⟨replication, given⟩ := Option.isSome_iff_exists.mp replicated
      exact .inr (.inr ⟨replication, given, .inl ⟨rfl, unversioned⟩⟩)
    · exact .inr (.inl ⟨website, given, serving, .inl ⟨rfl, static⟩⟩)
    · cases insists with
      | lockSwitch locked off => exact .inl (.inr (.inl ⟨rfl, locked, off⟩))
      | period locked new kept endless =>
        exact .inl (.inr (.inr ⟨rfl, _, locked, new, _, kept, endless⟩))
      | target given serving static listed aimless =>
        exact .inr (.inl ⟨_, given, serving, .inr ⟨_, _, _, static, listed, aimless, rfl⟩⟩)
      | keyScheme given listed encrypted keyless =>
        exact .inr (.inr ⟨_, given, .inr ⟨_, _, listed, .inl ⟨rfl, encrypted, keyless⟩⟩⟩)
      | metrics given listed featured timed unmeasured =>
        exact .inr (.inr ⟨_, given, .inr ⟨_, _, listed, .inr ⟨rfl, _, featured, timed, unmeasured⟩⟩⟩)

end Descriptor

end BucketPlan
