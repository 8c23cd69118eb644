import BucketPlan.Proofs.Areas
import BucketPlan.Proofs.Origin.Names
import BucketPlan.Proofs.Shape.Complete
import BucketPlan.Proofs.Shape.Segments

namespace BucketPlan

/-- The maps of a list are read in their order, and counted without what stands between them. -/
theorem exists_of_getElem?_filterMap {α : Type} {read : Value → α} {items : List Value} {i : Nat}
    {a : α} (listed : (items.filterMap (Value.record? read))[i]? = some a) :
    ∃ j item, items[j]? = some item ∧ item.isMap = true ∧ (items.take j).countP Value.isMap = i ∧
      a = read item := by
  induction items generalizing i with
  | nil => simp at listed
  | cons first rest ih =>
    cases isMap : first.isMap with
    | false =>
      -- What is no map takes no number: the item stands one further on, the count stays.
      have skipped : Value.record? read first = none := by simp [Value.record?, isMap]
      rw [List.filterMap_cons_none skipped] at listed
      obtain ⟨j, item, atJ, isRecord, counted, same⟩ := ih listed
      exact ⟨j + 1, item, atJ, isRecord, by simp [isMap, counted], same⟩
    | true =>
      have kept : Value.record? read first = some (read first) := by simp [Value.record?, isMap]
      rw [List.filterMap_cons_some kept] at listed
      cases i with
      | zero => exact ⟨0, first, rfl, isMap, rfl, (Option.some.inj listed).symm⟩
      | succ i =>
        obtain ⟨j, item, atJ, isRecord, counted, same⟩ := ih listed
        exact ⟨j + 1, item, atJ, isRecord, by simp [isMap, counted], same⟩

theorem Value.exists_of_getElem?_records {α : Type} {read : Value → α} {value : Value} {i : Nat}
    {a : α} (listed : (value.records read)[i]? = some a) :
    ∃ items j item, value.sequence? = some items ∧ items[j]? = some item ∧ item.isMap = true ∧
      (items.take j).countP Value.isMap = i ∧ a = read item := by
  cases sequence : value.sequence? with
  | none => simp [records, sequence] at listed
  | some items =>
    rw [records, sequence] at listed
    obtain ⟨j, item, found⟩ := exists_of_getElem?_filterMap listed
    exact ⟨items, j, item, rfl, found⟩

/-- An item is counted at its own index, unless something before it is not counted. -/
theorem eq_or_lt_of_countP {items : List Value} {i j : Nat} {item : Value}
    (listed : items[j]? = some item) (counted : (items.take j).countP Value.isMap = i) :
    j = i ∨ i < j ∧ ∃ earlier ∈ items.take j, earlier.isMap = false := by
  obtain ⟨within, _⟩ := List.getElem?_eq_some_iff.mp listed
  have length : (items.take j).length = j := List.length_take_of_le (Nat.le_of_lt within)
  by_cases all : ∀ earlier ∈ items.take j, earlier.isMap = true
  · exact Or.inl (by rw [← counted, List.countP_eq_length.mpr all, length])
  · have fewer : (items.take j).countP Value.isMap ≠ (items.take j).length :=
      fun same => all (List.countP_eq_length.mp same)
    have most : (items.take j).countP Value.isMap ≤ (items.take j).length := List.countP_le_length
    push Not at all
    obtain ⟨earlier, member, other⟩ := all
    exact Or.inr ⟨by omega, earlier, member, Bool.eq_false_iff.mpr other⟩

/-- Which item of a list gives rise to a violation at the `i`th place of the list: the `i`th item, if
that has not the form it should have, or else the item that is the `i`th map of the list. -/
inductive ListedBy (items : List Value) (shape : Shape) (place : Place)
    (findings : Value → List Finding) (v : Violation) (i : Nat) : Nat → Value → Prop
  | mismatch {item : Value} (listed : items[i]? = some item)
      (mismatched : v ∈ shape.mismatches place item) :
      ListedBy items shape place findings v i i item
  | finding {j : Nat} {item : Value} {finding : Finding} (listed : items[j]? = some item)
      (isMap : item.isMap = true) (counted : (items.take j).countP Value.isMap = i)
      (found : finding ∈ findings item) (reported : finding.reported = v) :
      ListedBy items shape place findings v i j item

namespace ListedBy

variable {items : List Value} {shape : Shape} {place : Place} {findings : Value → List Finding}
  {v : Violation} {i j : Nat} {item : Value}

theorem eq_or_lt (origin : ListedBy items shape place findings v i j item) :
    j = i ∨ i < j ∧ ∃ earlier ∈ items.take j, earlier.isMap = false := by
  cases origin with
  | mismatch => exact Or.inl rfl
  | finding listed _ counted => exact eq_or_lt_of_countP listed counted

/-- An item is asked for something only if it is a map, by a finding of its own. -/
theorem finding_of_requiresField (origin : ListedBy items shape place findings v i j item)
    {depth : Depth} {keyed : Bool} (orderly : shape.isOrderly depth keyed = true) (asked : v.code = .requiresField) :
    item.isMap = true ∧ ∃ finding ∈ findings item, finding.reported = v := by
  cases origin with
  | mismatch _ mismatched => cases (Shape.code_of_mem orderly mismatched).symm.trans asked
  | finding _ isMap _ found reported => exact ⟨isMap, _, found, reported⟩

end ListedBy

namespace Concern

/-- Websites and the rules for other origins have areas of their own. -/
theorem head_segments (concern : Concern) : ∀ area ∈ concern.areas,
    (segments area).head?.isSome = true ∧
    ((segments area).head? = some "cors_rules" → concern = .cors) ∧
    ((segments area).head? = some "website" → concern = .website) := by
  cases concern <;> decide +kernel

end Concern

namespace Descriptor

theorem mem_findings_of_first {d : Descriptor} {finding : Finding} (member : finding ∈ d.allFindings)
    {first : String} {rest : List String}
    (ahead : first :: rest <+: segments finding.reported.path) :
    (first = "cors_rules" → finding ∈ d.findings .cors) ∧
      (first = "website" → finding ∈ d.findings .website) := by
  obtain ⟨concern, _, found⟩ := List.mem_flatMap.mp member
  obtain ⟨given, cors, website⟩ := concern.head_segments _ (d.inAreas_findings concern finding found)
  have head : (segments finding.reported.area).head? = some first := by
    obtain ⟨tail, same⟩ := ahead
    rw [Violation.segments_path, Violation.parts, List.append_assoc] at same
    cases area : segments finding.reported.area with
    | nil => simp [area] at given
    | cons name _ =>
      rw [area] at same
      simpa using (List.cons.inj same).1.symm
  constructor
  · rintro rfl
    exact cors head ▸ found
  · rintro rfl
    exact website head ▸ found

end Descriptor

namespace CorsRule

theorem isOrderly_shape : shape.isOrderly .area true = true := by
  decide +kernel

/-- A rule is reported in its scope, and only members that list nothing are asked for. -/
theorem reportsOnly_findings (rule : CorsRule) (scope : Scope) :
    ReportsOnly (fun v => v.area = scope.area ∧ v.rule = scope.rule ∧ (v.code = .requiresField →
      v.field = "allowed_origins" ∧ rule.origins = [] ∨
        v.field = "allowed_methods" ∧ rule.methods = [])) (rule.findings scope) := by
  simp only [findings, reportsOnly_append, reportsOnly_flatMap]
  refine ⟨⟨⟨?_, ?_⟩, fun method _ => ?_⟩, ?_⟩
  · refine Scope.reportsOnly_require fun absent _ => ⟨rfl, rfl, fun _ => Or.inl ⟨rfl, ?_⟩⟩
    simpa using absent
  · refine Scope.reportsOnly_require fun absent _ => ⟨rfl, rfl, fun _ => Or.inr ⟨rfl, ?_⟩⟩
    simpa using absent
  · exact Scope.reportsOnly_oneOf fun _ => ⟨rfl, rfl, fun asked => by cases asked⟩
  · exact Scope.reportsOnly_inRange fun _ => ⟨rfl, rfl, fun asked => by cases asked⟩

theorem exists_of_index {rules : List CorsRule} {finding : Finding} {i : Nat}
    (member : finding ∈ allFindings rules)
    (ahead : ["cors_rules", toString i] <+: segments finding.reported.path) :
    ∃ rule, rules[i]? = some rule ∧
      finding ∈ rule.findings { area := "cors_rules", rule := toString i } := by
  rcases List.mem_append.mp member with whole | single
  · split at whole
    · cases List.mem_singleton.mp whole
      have alone : segments (dottedPath ["cors_rules", "", ""]) = ["cors_rules"] := by decide
      exact absurd (alone ▸ ahead).length_le (by simp)
    · cases whole
  · obtain ⟨⟨rule, k⟩, listed, found⟩ := List.mem_flatMap.mp single
    obtain ⟨area, index, _⟩ := rule.reportsOnly_findings _ finding found
    have start : segments "cors_rules" = ["cors_rules"] := by decide
    have second : segments (toString k) = [toString k] := isSegment_toString k
    rw [Violation.segments_path, Violation.parts, area, index, start, second] at ahead
    have same : toString i = toString k := by simpa using ahead
    cases index_eq_of_toString same
    exact ⟨rule, List.mem_zipIdx_iff_getElem?.mp listed, found⟩

end CorsRule

namespace RoutingRule

theorem isOrderly_shape : shape.isOrderly .field false = true := by
  decide +kernel

/-- A rule is reported at its own place, or at the protocol there, and asked for a target if it has
none. -/
theorem reportsOnly_findings (rule : RoutingRule) (field : String) :
    ReportsOnly (fun v => segments field <+: segments v.field ∧ v.area = "website" ∧ v.rule = "" ∧
      (v.code = .requiresField → rule.hasTarget = false)) (rule.findings field) := by
  have protocol : segments field <+: segments (field ++ ".redirect_protocol") := by
    have split : field ++ ".redirect_protocol" = field ++ "." ++ "redirect_protocol" :=
      (@String.append_assoc field "." "redirect_protocol").symm
    rw [split, segments_dot]
    exact List.prefix_append _ _
  simp only [findings, reportsOnly_append]
  refine ⟨⟨.ifTrue ?_, ?_⟩, ?_⟩
  · exact Scope.reportsOnly_error.mpr ⟨List.prefix_rfl, rfl, rfl, fun asked => by cases asked⟩
  · refine reportsOnly_ite.mpr ⟨fun _ => reportsOnly_nil, fun aimless => ?_⟩
    exact Scope.reportsOnly_error.mpr
      ⟨List.prefix_rfl, rfl, rfl, fun _ => Bool.eq_false_iff.mpr aimless⟩
  · exact Scope.reportsOnly_oneOf fun _ => ⟨protocol, rfl, rfl, fun asked => by cases asked⟩

end RoutingRule

namespace Website

/-- The start of the paths of routing rules. -/
def routingPath : List String := ["website", "static_website", "routing_rules"]

/-- A violation of something else than a routing rule. -/
def IsApart (v : Violation) : Prop :=
  (segments v.path).take 3 ≠ routingPath

theorem isApart_violation {field : String}
    (other : (segments (websiteScope.path field)).take 3 ≠ routingPath) (code : Code)
    (message : String) : IsApart (websiteScope.violation field code message) := other

theorem isApart_redirect (redirect : Redirect) : ReportsOnly IsApart redirect.findings :=
  reportsOnly_append.mpr
    ⟨Scope.reportsOnly_require fun _ => isApart_violation (by decide) _,
      Scope.reportsOnly_oneOf (isApart_violation (by decide) _)⟩

theorem isApart_index (site : StaticSite) : ReportsOnly IsApart site.indexFindings :=
  .ite (.ifTrue (Scope.reportsOnly_error.mpr (isApart_violation (by decide) _ _)))
    (Scope.reportsOnly_require fun _ => isApart_violation (by decide) _)

theorem segments_routingRule (i : Nat) : segments s!"static_website.routing_rules.{i}" =
    ["static_website", "routing_rules", toString i] := by
  have start : segments "static_website.routing_rules" = ["static_website", "routing_rules"] := by
    decide
  have index : segments (toString i) = [toString i] := isSegment_toString i
  have split : s!"static_website.routing_rules.{i}" =
      "static_website.routing_rules" ++ "." ++ toString i := rfl
  rw [split, segments_dot, start, index]
  rfl

theorem exists_of_index {website : Website} {finding : Finding} {i : Nat}
    (member : finding ∈ website.findings)
    (ahead : routingPath ++ [toString i] <+: segments finding.reported.path) :
    ∃ site rule, website.static = some site ∧ site.routingRules[i]? = some rule ∧
      finding ∈ rule.findings s!"static_website.routing_rules.{i}" := by
  have near : ¬IsApart finding.reported := not_not_intro
    (List.prefix_iff_eq_take.mp ((List.prefix_append routingPath _).trans ahead)).symm
  have whole {code : Code} {message : String} :
      ReportsOnly IsApart (websiteScope.error "" code message) :=
    Scope.reportsOnly_error.mpr (isApart_violation (by decide) _ _)
  obtain ⟨redirect, site⟩ := website
  cases redirect with
  | some redirect =>
    cases site with
    | some site => exact absurd (whole finding member) near
    | none => exact absurd (isApart_redirect redirect finding member) near
  | none =>
    cases site with
    | none => exact absurd (whole finding member) near
    | some site =>
      rcases List.mem_append.mp member with index | rules
      · exact absurd (isApart_index site finding index) near
      · obtain ⟨⟨rule, k⟩, listed, found⟩ := List.mem_flatMap.mp rules
        obtain ⟨field, area, noRule, _⟩ := rule.reportsOnly_findings _ finding found
        have own : routingPath ++ [toString k] <+: segments finding.reported.path := by
          have start : segments "website" ++ segments "" = ["website"] := by decide
          rw [Violation.segments_path, Violation.parts, area, noRule, start]
          rw [segments_routingRule] at field
          simpa [routingPath] using field
        -- Two ways to go on from the same start, of one length, along the same path.
        have same := (List.prefix_of_prefix_length_le own ahead (by simp)).eq_of_length (by simp)
        cases index_eq_of_toString (List.singleton_inj.mp (List.append_cancel_left same))
        exact ⟨site, rule, rfl, List.mem_zipIdx_iff_getElem?.mp listed, found⟩

end Website

namespace Descriptor

variable {value : Value} {v : Violation} {i : Nat}

/-- What is logged at an index of the rules for other origins comes from one of their items. -/
theorem cors_listedBy (logged : v ∈ (mismatches value).record (ofValue value).allFindings)
    (ahead : ["cors_rules", toString i] <+: segments v.path) :
    ∃ items j item, (value.get "cors_rules").sequence? = some items ∧
      ListedBy items CorsRule.shape { area := "cors_rules", rule := toString i }
        (fun item => (CorsRule.ofValue item).findings { area := "cors_rules", rule := toString i })
        v i j item := by
  rcases Log.mem_or_reported logged with mismatched | ⟨finding, found, rfl⟩
  · have rules : (Shape.optional (.listOfEntries CorsRule.shape)).Reports _ ["cors_rules"]
        (value.get "cors_rules") v :=
      .ofMember (reports_of_mem mismatched) (named_parts value) (by simp)
        (List.IsPrefix.trans (List.prefix_append _ _) ahead)
    have entries : (Shape.listOfEntries CorsRule.shape).parts (value.get "cors_rules") =
        (value.get "cors_rules").itemParts (fun k => .entry k (toString k)) CorsRule.shape := rfl
    obtain ⟨items, item, sequence, listed, own⟩ :=
      rules.given.ofItem entries (fun k => if_neg Nat.repr_ne_empty) ahead
    exact ⟨items, i, item, sequence, .mismatch listed own.member⟩
  · have inCors := (mem_findings_of_first found ahead).1 rfl
    obtain ⟨rule, listed, own⟩ := CorsRule.exists_of_index inCors ahead
    obtain ⟨items, j, item, sequence, atJ, isMap, counted, rfl⟩ :=
      Value.exists_of_getElem?_records listed
    exact ⟨items, j, item, sequence, .finding atJ isMap counted own rfl⟩

/-- What is logged at an index of the routing rules comes from one of their items. -/
theorem routing_listedBy (logged : v ∈ (mismatches value).record (ofValue value).allFindings)
    (ahead : ["website", "static_website", "routing_rules", toString i] <+: segments v.path) :
    ∃ items j item,
      (((value.get "website").get "static_website").get "routing_rules").sequence? = some items ∧
      ListedBy items RoutingRule.shape
        { area := "website", field := s!"static_website.routing_rules.{i}" }
        (fun item => (RoutingRule.ofValue item).findings s!"static_website.routing_rules.{i}")
        v i j item := by
  rcases Log.mem_or_reported logged with mismatched | ⟨finding, found, rfl⟩
  · have website : (Shape.optional Website.shape).Reports _ ["website"] (value.get "website") v :=
      .ofMember (reports_of_mem mismatched) (named_parts value) (by simp)
        (List.IsPrefix.trans (List.prefix_append _ _) ahead)
    have static : (Shape.optional StaticSite.shape).Reports _ ["website", "static_website"]
        ((value.get "website").get "static_website") v :=
      .ofMember website.given (Shape.named_of_recordOf (by decide +kernel)) (by simp)
        (List.IsPrefix.trans (List.prefix_append _ _) ahead)
    have rules : (Shape.optional (.listOf RoutingRule.shape)).Reports _
        ["website", "static_website", "routing_rules"]
        (((value.get "website").get "static_website").get "routing_rules") v :=
      .ofMember static.given (Shape.named_of_recordOf (by decide +kernel)) (by simp)
        (List.IsPrefix.trans (List.prefix_append _ _) ahead)
    have items : (Shape.listOf RoutingRule.shape).parts
        (((value.get "website").get "static_website").get "routing_rules") =
        Value.itemParts _ .item RoutingRule.shape := rfl
    obtain ⟨items, item, sequence, listed, own⟩ := rules.given.ofItem items (fun _ => rfl) ahead
    have place : Place.turn { area := "website", field := "static_website.routing_rules" } (.item i) =
        { area := "website", field := s!"static_website.routing_rules.{i}" } := rfl
    exact ⟨items, i, item, sequence, .mismatch listed (place ▸ own.member)⟩
  · have inWebsite := (mem_findings_of_first found ahead).2 rfl
    obtain ⟨website, given, said⟩ := List.mem_flatMap.mp inWebsite
    obtain ⟨site, rule, static, listed, own⟩ := Website.exists_of_index said ahead
    obtain rfl := Value.eq_of_mem_record? (Option.mem_toList.mp given)
    obtain rfl := Value.eq_of_mem_record? static
    obtain ⟨items, j, item, sequence, atJ, isMap, counted, rfl⟩ :=
      Value.exists_of_getElem?_records listed
    exact ⟨items, j, item, sequence, .finding atJ isMap counted own rfl⟩

/-- What is logged at an index of a list comes from the item at this index, if all items before the one
it comes from are maps: a mismatch always does, while a finding comes from the map of this number. What
is asked for is missing in the item that the violation comes from. -/
theorem listed_violations (logged : v ∈ (mismatches value).record (ofValue value).allFindings)
    (i : Nat) :
    (["cors_rules", toString i] <+: segments v.path →
      ∃ items j item, (value.get "cors_rules").sequence? = some items ∧
        ListedBy items CorsRule.shape { area := "cors_rules", rule := toString i }
          (fun item => (CorsRule.ofValue item).findings { area := "cors_rules", rule := toString i })
          v i j item ∧
        (j = i ∨ i < j ∧ ∃ earlier ∈ items.take j, earlier.isMap = false) ∧
        (v.code = .requiresField → item.isMap = true ∧
          ∃ field ∈ ["allowed_methods", "allowed_origins"], v.field = field ∧
            (item.get field).texts = [])) ∧
    (["website", "static_website", "routing_rules", toString i] <+: segments v.path →
      ∃ items j item,
        (((value.get "website").get "static_website").get "routing_rules").sequence? = some items ∧
        ListedBy items RoutingRule.shape
          { area := "website", field := s!"static_website.routing_rules.{i}" }
          (fun item => (RoutingRule.ofValue item).findings s!"static_website.routing_rules.{i}")
          v i j item ∧
        (j = i ∨ i < j ∧ ∃ earlier ∈ items.take j, earlier.isMap = false) ∧
        (v.code = .requiresField →
          item.isMap = true ∧ (RoutingRule.ofValue item).hasTarget = false)) := by
  constructor
  · intro ahead
    obtain ⟨items, j, item, sequence, origin⟩ := cors_listedBy logged ahead
    refine ⟨items, j, item, sequence, origin, origin.eq_or_lt, fun asked => ?_⟩
    obtain ⟨isMap, finding, found, rfl⟩ :=
      origin.finding_of_requiresField CorsRule.isOrderly_shape asked
    obtain ⟨_, _, missing⟩ := CorsRule.reportsOnly_findings _ _ finding found
    refine ⟨isMap, ?_⟩
    rcases missing asked with ⟨field, none⟩ | ⟨field, none⟩
    · exact ⟨_, by simp, field, none⟩
    · exact ⟨_, by simp, field, none⟩
  · intro ahead
    obtain ⟨items, j, item, sequence, origin⟩ := routing_listedBy logged ahead
    refine ⟨items, j, item, sequence, origin, origin.eq_or_lt, fun asked => ?_⟩
    obtain ⟨isMap, finding, found, rfl⟩ :=
      origin.finding_of_requiresField RoutingRule.isOrderly_shape asked
    obtain ⟨_, _, _, aimless⟩ := RoutingRule.reportsOnly_findings _ _ finding found
    exact ⟨isMap, aimless asked⟩

/-- Two rules for other origins of which the first is a number. -/
def shiftedRules : Value :=
  .record [("name", .str "bucket-x"),
    ("cors_rules", .list [.int 5, .record [("allowed_methods", .list [.str "GET"])]])]

/-- What the log of that description asks for. -/
def shiftedAbsence : Violation :=
  ⟨"cors_rules", "0", "allowed_origins", .requiresField, "allowed_origins is required", .error⟩

theorem shiftedRules_listed :
    shiftedAbsence ∈ (mismatches shiftedRules).record (ofValue shiftedRules).allFindings ∧
      ∃ (items : List Value) (j : Nat) (item : Value),
        (shiftedRules.get "cors_rules").sequence? = some items ∧
        (j = 0 ∨ 0 < j ∧ ∃ earlier ∈ items.take j, earlier.isMap = false) ∧ item.isMap = true ∧
        (item.get "allowed_origins").texts = [] := by
  have logged : shiftedAbsence ∈
      (mismatches shiftedRules).record (ofValue shiftedRules).allFindings := by decide +kernel
  have ahead : ["cors_rules", toString 0] <+: segments shiftedAbsence.path :=
    List.prefix_iff_eq_take.mpr (by decide)
  obtain ⟨items, j, item, sequence, _, index, missing⟩ := (listed_violations logged 0).1 ahead
  obtain ⟨isMap, field, _, rfl, none⟩ := missing rfl
  exact ⟨logged, items, j, item, sequence, index, isMap, none⟩

theorem shiftedRules_misplaced :
    ∃ v ∈ (mismatches shiftedRules).record (ofValue shiftedRules).allFindings,
      v.code = .requiresField ∧ v.path = "cors_rules.0.allowed_origins" ∧
      ∃ items, (shiftedRules.get "cors_rules").sequence? = some items ∧
        ∀ item ∈ items[0]?, item.isMap = false := by
  refine ⟨shiftedAbsence, by decide +kernel, rfl, by decide, _, rfl, ?_⟩
  intro item first
  cases first
  rfl

end Descriptor

end BucketPlan
