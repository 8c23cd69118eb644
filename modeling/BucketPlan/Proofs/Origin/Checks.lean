import BucketPlan.Descriptor.Checks
import BucketPlan.Proofs.Origin.Path

namespace BucketPlan

variable {names : String → Prop}

/-- The odd numbers in the place of a violation are parts of names. -/
structure Violation.IsTraced (names : String → Prop) (v : Violation) : Prop where
  area : TracesTo names v.area
  rule : TracesTo names v.rule
  field : TracesTo names v.field

structure Scope.IsTraced (names : String → Prop) (scope : Scope) : Prop where
  area : TracesTo names scope.area
  rule : TracesTo names scope.rule

abbrev Traced (names : String → Prop) (findings : List Finding) : Prop :=
  ReportsOnly (Violation.IsTraced names) findings

namespace Scope

variable {scope : Scope} {field message : String}

theorem isTraced_of_area {area : String} (plain : TracesTo names area) :
    IsTraced names { area := area } :=
  ⟨plain, tracesTo_empty⟩

theorem isTraced_of_name {area name : String} (given : names name) (plain : TracesTo names area) :
    IsTraced names { area := area, rule := name } :=
  ⟨plain, tracesTo_of_name given⟩

theorem isTraced_of_mem {α : Type} {map : Keyed α} {area name : String} {item : α}
    (given : ∀ key ∈ map.names, names key) (member : (name, item) ∈ map.entries)
    (plain : TracesTo names area) : IsTraced names { area := area, rule := name } :=
  isTraced_of_name (given name (List.mem_map_of_mem member)) plain

theorem IsTraced.violation (traced : scope.IsTraced names) (inField : TracesTo names field)
    (code : Code) (severity : Severity) :
    (scope.violation field code message severity).IsTraced names :=
  ⟨traced.area, traced.rule, inField⟩

theorem IsTraced.error (traced : scope.IsTraced names) (inField : TracesTo names field)
    {code : Code} : Traced names (scope.error field code message) := by
  intro finding member
  cases List.mem_singleton.mp member
  exact traced.violation inField code .error

theorem IsTraced.warning (traced : scope.IsTraced names) (inField : TracesTo names field)
    {code : Code} : Traced names (scope.warning field code message) := by
  intro finding member
  cases List.mem_singleton.mp member
  exact traced.violation inField code .warning

theorem IsTraced.require (traced : scope.IsTraced names) (inField : TracesTo names field)
    {given : Bool} : Traced names (scope.require given field message) := by
  intro finding member
  cases given with
  | true => cases member
  | false =>
    cases List.mem_singleton.mp member
    exact traced.violation inField .requiresField .error

theorem IsTraced.oneOf (traced : scope.IsTraced names) (inField : TracesTo names field)
    {value : Option String} {allowed : List String} :
    Traced names (scope.oneOf value allowed field) := by
  cases value with
  | none => exact reportsOnly_nil
  | some text => exact .ifFalse (traced.error inField)

theorem IsTraced.inRange (traced : scope.IsTraced names) (inField : TracesTo names field)
    {value least most : Option Int} : Traced names (scope.inRange value field least most) := by
  cases value with
  | none => exact reportsOnly_nil
  | some number => exact .ifFalse (traced.error inField)

end Scope

theorem BucketName.traced_findings {name : Option String} : Traced names (findings name) := by
  have traced : Scope.IsTraced names { area := "name" } := Scope.isTraced_of_area (.ofList rfl)
  unfold findings
  by_cases filled : isFilled name = true
  · have warned {code : Code} {message : String} : Traced names (Scope.warning _ "" code message) :=
      traced.warning tracesTo_empty
    rw [if_pos filled]
    exact .ite warned (.ite warned (.ifTrue warned))
  · rw [if_neg filled]
    exact traced.require tracesTo_empty

theorem traced_tagFindings {tags : Keyed String} (given : ∀ key ∈ tags.names, names key) :
    Traced names (tagFindings tags) := by
  have whole : Scope.IsTraced names { area := "tags" } := Scope.isTraced_of_area (.ofList rfl)
  simp only [tagFindings, reportsOnly_append, reportsOnly_flatMap]
  refine ⟨.ifTrue (whole.error (.ofList rfl)), ?_⟩
  intro entry member
  obtain ⟨key, value⟩ := entry
  have traced : Scope.IsTraced names { area := "tags", rule := key } :=
    Scope.isTraced_of_mem given member (.ofList rfl)
  exact ⟨.ifTrue (traced.error (.ofList rfl)), .ifTrue (traced.error (.ofList rfl))⟩

theorem Retention.traced_findings {r : Retention} {amends : Bool} :
    Traced names (r.findings amends) := by
  have traced : Scope.IsTraced names { area := "object_lock" } := Scope.isTraced_of_area (.ofList rfl)
  have mode : TracesTo names "default_retention.retention_mode" := .ofList rfl
  have days : TracesTo names "default_retention.retention_days" := .ofList rfl
  have years : TracesTo names "default_retention.retention_years" := .ofList rfl
  simp only [findings, reportsOnly_append]
  refine ⟨⟨⟨⟨traced.oneOf mode, traced.inRange days⟩, traced.inRange years⟩, ?_⟩, .ifFalse ?_⟩
  · exact .ifTrue (traced.error (.ofList rfl))
  · exact reportsOnly_append.mpr ⟨traced.require mode, .ifTrue (traced.error days)⟩

theorem ObjectLock.traced_findings {lock : Option ObjectLock} {enabled versioning : Option Bool} :
    Traced names (findings lock enabled versioning) := by
  have unversioned : Scope.IsTraced names { area := "versioning_enabled" } :=
    Scope.isTraced_of_area (.ofList rfl)
  have disabled : Scope.IsTraced names { area := "enables_object_lock" } :=
    Scope.isTraced_of_area (.ofList rfl)
  refine reportsOnly_append.mpr ⟨.ifTrue (unversioned.error (.ofList rfl)), ?_⟩
  cases lock with
  | none => exact reportsOnly_nil
  | some lock =>
    refine reportsOnly_append.mpr ⟨.ifFalse (disabled.error (.ofList rfl)), ?_⟩
    cases lock.retention with
    | none => exact reportsOnly_nil
    | some retention => exact Retention.traced_findings

theorem Encryption.traced_findings {e : Encryption} : Traced names e.findings := by
  have traced : Scope.IsTraced names { area := "encryption" } := Scope.isTraced_of_area (.ofList rfl)
  exact reportsOnly_append.mpr ⟨traced.oneOf (.ofList rfl), .ifTrue (traced.error (.ofList rfl))⟩

theorem traced_ownershipFindings {ownership : Option String} :
    Traced names (ownershipFindings ownership) := by
  have traced : Scope.IsTraced names { area := "object_ownership" } :=
    Scope.isTraced_of_area (.ofList rfl)
  exact traced.oneOf (.ofList rfl)

theorem traced_requesterPaysFindings {requesterPays : Option Bool} {account : Option String} :
    Traced names (requesterPaysFindings requesterPays account) := by
  have traced : Scope.IsTraced names { area := "bucket_owner_account_id" } :=
    Scope.isTraced_of_area (.ofList rfl)
  exact .ifTrue (traced.require (.ofList rfl))

theorem isTraced_websiteScope : websiteScope.IsTraced names :=
  Scope.isTraced_of_area (.ofList rfl)

theorem Redirect.traced_findings {redirect : Redirect} : Traced names redirect.findings :=
  reportsOnly_append.mpr
    ⟨isTraced_websiteScope.require (.ofList rfl), isTraced_websiteScope.oneOf (.ofList rfl)⟩

theorem RoutingRule.traced_findings {rule : RoutingRule} {field : String} (plain : IsPlain field) :
    Traced names (rule.findings field) := by
  have protocol : IsPlain (field ++ ".redirect_protocol") := plain.append (.ofList rfl)
  simp only [findings, reportsOnly_append]
  exact ⟨⟨.ifTrue (isTraced_websiteScope.error plain.tracesTo),
    .ifFalse (isTraced_websiteScope.error plain.tracesTo)⟩,
    isTraced_websiteScope.oneOf protocol.tracesTo⟩

theorem StaticSite.traced_findings {site : StaticSite} : Traced names site.findings := by
  have index : TracesTo names "static_website.index_document" := .ofList rfl
  have rules : IsPlain "static_website.routing_rules." := .ofList rfl
  simp only [findings, reportsOnly_append, reportsOnly_flatMap]
  constructor
  · exact .ite (.ifTrue (isTraced_websiteScope.error index)) (isTraced_websiteScope.require index)
  · intro item _
    obtain ⟨rule, i⟩ := item
    exact RoutingRule.traced_findings (rules.append (isPlain_toString i))

theorem Website.traced_findings {website : Website} : Traced names website.findings := by
  obtain ⟨redirect, site⟩ := website
  cases redirect with
  | none =>
    cases site with
    | none => exact isTraced_websiteScope.error (.ofList rfl)
    | some site => exact StaticSite.traced_findings
  | some redirect =>
    cases site with
    | none => exact Redirect.traced_findings
    | some site => exact isTraced_websiteScope.error (.ofList rfl)

theorem CorsRule.traced_findings {rule : CorsRule} {scope : Scope} (traced : scope.IsTraced names) :
    Traced names (rule.findings scope) := by
  simp only [findings, reportsOnly_append, reportsOnly_flatMap]
  refine ⟨⟨⟨traced.require (.ofList rfl), traced.require (.ofList rfl)⟩, fun method _ => ?_⟩,
    traced.inRange (.ofList rfl)⟩
  exact traced.oneOf (.ofList rfl)

theorem CorsRule.traced_allFindings {rules : List CorsRule} : Traced names (allFindings rules) := by
  have whole : Scope.IsTraced names { area := "cors_rules" } := Scope.isTraced_of_area (.ofList rfl)
  simp only [allFindings, reportsOnly_append, reportsOnly_flatMap]
  refine ⟨.ifTrue (whole.error (.ofList rfl)), ?_⟩
  intro item _
  obtain ⟨rule, i⟩ := item
  exact traced_findings ⟨whole.area, (isPlain_toString i).tracesTo⟩

theorem ReplicationRule.traced_findings {rule : ReplicationRule} {scope : Scope} {keyBased : Bool}
    (traced : scope.IsTraced names) : Traced names (rule.findings scope keyBased) := by
  have priority : TracesTo names "priority" := .ofList rfl
  have transfer : Traced names (rule.transferFindings scope) := by
    unfold transferFindings
    cases rule.transfer with
    | none => exact reportsOnly_nil
    | some transfer => exact traced.require (.ofList rfl)
  have encrypted : Traced names (rule.encryptedFindings scope keyBased) := by
    unfold encryptedFindings
    cases rule.encrypted with
    | none => exact reportsOnly_nil
    | some encrypted =>
      exact reportsOnly_append.mpr
        ⟨traced.require (.ofList rfl), .ifFalse (traced.error (.ofList rfl))⟩
  have features : Traced names (rule.featureFindings scope) := by
    unfold featureFindings
    cases rule.features with
    | none => exact reportsOnly_nil
    | some features => exact .ifTrue (traced.error (.ofList rfl))
  simp only [findings, priorityFindings, reportsOnly_append]
  exact ⟨⟨⟨⟨⟨traced.require (.ofList rfl), traced.require priority, traced.inRange priority⟩,
    traced.oneOf (.ofList rfl)⟩, transfer⟩, encrypted⟩, features⟩

theorem Replication.traced_findings {replication : Replication} {versioning : Option Bool}
    {encryption : Option Encryption} (given : ∀ name ∈ replication.rules.names, names name) :
    Traced names (replication.findings versioning encryption) := by
  have whole : Scope.IsTraced names { area := "replication" } := Scope.isTraced_of_area (.ofList rfl)
  have unversioned : Scope.IsTraced names { area := "versioning_enabled" } :=
    Scope.isTraced_of_area (.ofList rfl)
  simp only [findings, reportsOnly_append, reportsOnly_flatMap]
  refine ⟨⟨⟨whole.require (.ofList rfl), whole.require (.ofList rfl)⟩, ?_⟩, ?_⟩
  · exact .ifTrue (unversioned.error tracesTo_empty)
  · intro entry member
    obtain ⟨name, rule⟩ := entry
    exact ReplicationRule.traced_findings (Scope.isTraced_of_mem given member (.ofList rfl))

theorem Notifications.traced_findings {notifications : Notifications}
    (given : ∀ address ∈ notifications.destinations.names, names address) :
    Traced names notifications.findings := by
  simp only [findings, reportsOnly_flatMap]
  intro address member
  have traced : Scope.IsTraced names { area := "notifications.destinations", rule := address } :=
    Scope.isTraced_of_name (given address member) (.ofList rfl)
  exact .ifFalse (traced.error (.ofList rfl))

end BucketPlan
