import BucketPlan.Proofs.Rendered.Accepted
import BucketPlan.Proofs.Rendered.Calls
import BucketPlan.Proofs.Rendered.Destinations
import BucketPlan.Proofs.Rendered.Member

namespace BucketPlan

/-- An entry that says of a routing rule what it sets: it leads somewhere, and it does not replace a key
in two ways. -/
structure RoutingRule.IsStatedBy (rule : RoutingRule) (stated : Value) : Prop where
  leads : ∃ redirect, stated.member? "Redirect" = some redirect ∧ redirect.members ≠ []
  single : stated.memberAt? ["Redirect", "ReplaceKeyPrefixWith"] = none ∨
    stated.memberAt? ["Redirect", "ReplaceKeyWith"] = none
  host : stated.memberAt? ["Redirect", "HostName"] = rule.host.map .str
  protocol : stated.memberAt? ["Redirect", "Protocol"] = rule.protocol.map .str
  httpCode : stated.memberAt? ["Redirect", "HttpRedirectCode"] = rule.httpCode.map .str
  replacePrefix : stated.memberAt? ["Redirect", "ReplaceKeyPrefixWith"] = rule.replacePrefix.map .str
  replaceKey : stated.memberAt? ["Redirect", "ReplaceKeyWith"] = rule.replaceKey.map .str
  whenPrefix : stated.memberAt? ["Condition", "KeyPrefixEquals"] = rule.whenPrefix.map .str
  whenErrorCode :
    stated.memberAt? ["Condition", "HttpErrorCodeReturnedEquals"] = rule.whenErrorCode.map .str

/-- A configuration that either redirects to a host or serves documents, whichever the website asks for,
with one entry for each routing rule in their order. -/
structure Website.IsStatedBy (website : Website) (stated : Value) : Prop where
  choice : website.redirect.isSome ≠ website.static.isSome
  redirects : (stated.member? "RedirectAllRequestsTo").isSome = website.redirect.isSome
  serves : (stated.member? "IndexDocument").isSome = website.static.isSome
  host : ∀ redirect ∈ website.redirect, ∃ host ∈ redirect.host, host ≠ "" ∧
    stated.memberAt? ["RedirectAllRequestsTo", "HostName"] = some (.str host)
  index : ∀ site ∈ website.static, ∃ name ∈ site.indexDocument, name ≠ "" ∧ '/' ∉ name.toList ∧
    stated.memberAt? ["IndexDocument", "Suffix"] = some (.str name)
  routing : ∀ site ∈ website.static,
    List.Forall₂ RoutingRule.IsStatedBy site.routingRules (stated.itemsAt ["RoutingRules"])

/-- An entry that allows the methods of a rule, in upper case and each where it first occurs, to the
origins of the rule. -/
structure CorsRule.IsStatedBy (rule : CorsRule) (stated : Value) : Prop where
  methods : ∃ methods, stated.member? "AllowedMethods" = some (.list (methods.map .str)) ∧
    methods ≠ [] ∧ methods.Nodup ∧ (∀ method ∈ methods, method ∈ ["GET", "PUT", "POST", "DELETE", "HEAD"]) ∧
    (∀ method, method ∈ methods ↔ ∃ given ∈ rule.methods, upperCase given = method) ∧
    methods.Pairwise fun a b =>
      (rule.methods.map upperCase).idxOf a < (rule.methods.map upperCase).idxOf b
  origins : rule.origins ≠ [] ∧
    stated.member? "AllowedOrigins" = some (.list (rule.origins.map .str))

namespace RoutingRule

variable {rule : RoutingRule}

theorem IsLegal.redirectFields_ne_nil (legal : rule.IsLegal) : rule.redirectFields ≠ [] := by
  intro empty
  simp only [redirectFields, List.append_eq_nil_iff, fieldIfSet_eq_nil] at empty
  obtain ⟨⟨⟨⟨host, protocol⟩, httpCode⟩, replacePrefix⟩, replaceKey⟩ := empty
  simpa [host, protocol, httpCode, replacePrefix, replaceKey] using legal.target

theorem memberAt?_redirect (rule : RoutingRule) (name : String) :
    rule.request.memberAt? ["Redirect", name] = rule.redirectFields.lookup name := by
  simp [request]

theorem memberAt?_condition (rule : RoutingRule) (name : String) :
    rule.request.memberAt? ["Condition", name] = rule.conditionFields.lookup name := by
  cases fields : rule.conditionFields <;> simp [request, fields]

theorem IsLegal.isStatedBy_request (legal : rule.IsLegal) : rule.IsStatedBy rule.request where
  leads := ⟨.record rule.redirectFields, by simp [request],
    by simpa using legal.redirectFields_ne_nil⟩
  single := by
    rw [memberAt?_redirect, memberAt?_redirect]
    simpa [redirectFields] using legal.replacement
  host := (memberAt?_redirect ..).trans (by simp [redirectFields])
  protocol := (memberAt?_redirect ..).trans (by simp [redirectFields])
  httpCode := (memberAt?_redirect ..).trans (by simp [redirectFields])
  replacePrefix := (memberAt?_redirect ..).trans (by simp [redirectFields])
  replaceKey := (memberAt?_redirect ..).trans (by simp [redirectFields])
  whenPrefix := (memberAt?_condition ..).trans (by simp [conditionFields])
  whenErrorCode := (memberAt?_condition ..).trans (by simp [conditionFields])

end RoutingRule

namespace Website

variable {website : Website}

theorem isStatedBy_redirect {redirect : Redirect} (legal : redirect.IsLegal) :
    IsStatedBy ⟨some redirect, none⟩ (WebsitePlan.redirect redirect).request where
  choice := by simp
  redirects := by simp [WebsitePlan.request]
  serves := by simp [WebsitePlan.request]
  host := by
    intro own same
    cases same
    obtain ⟨host, given, nonempty⟩ := legal.host
    refine ⟨host, given, nonempty, ?_⟩
    simp [WebsitePlan.request, Option.mem_def.mp given]
  index := by simp
  routing := by simp

theorem isStatedBy_static {site : StaticSite} (legal : site.IsLegal) :
    IsStatedBy ⟨none, some site⟩ (WebsitePlan.static site).request where
  choice := by simp
  redirects := by simp [WebsitePlan.request]
  serves := by simp [WebsitePlan.request]
  host := by simp
  index := by
    intro own same
    cases same
    obtain ⟨name, given, nonempty, plainName⟩ := legal.index
    refine ⟨name, given, nonempty, plainName, ?_⟩
    simp [WebsitePlan.request, Option.mem_def.mp given]
  routing := by
    intro own same
    cases same
    have listed : (WebsitePlan.static site).request.itemsAt ["RoutingRules"] =
        site.routingRules.map RoutingRule.request := Value.itemsAt_record (by simp)
    rw [listed, List.forall₂_map_right_iff, List.forall₂_same]
    exact fun rule member => (legal.routing rule member).isStatedBy_request

/-- A legal website is planned in its own variant and stated as it is. -/
theorem IsLegal.isStatedBy_plan (legal : website.IsLegal) :
    ∃ planned, WebsitePlan.ofWebsite website = .ok planned ∧ website.IsStatedBy planned.request := by
  obtain ⟨redirect, static⟩ := website
  cases redirect with
  | some redirect =>
    cases static with
    | some site => exact absurd rfl legal.choice
    | none => exact ⟨_, rfl, isStatedBy_redirect (legal.redirect redirect rfl)⟩
  | none =>
    cases static with
    | some site => exact ⟨_, rfl, isStatedBy_static (legal.static site rfl)⟩
    | none => exact absurd rfl legal.choice

end Website

theorem CorsRule.IsLegal.isStatedBy_request {rule : CorsRule} (legal : rule.IsLegal) :
    rule.IsStatedBy rule.normalize.request where
  methods := by
    have occurs (method : String) : method ∈ rule.normalize.methods ↔
        ∃ given ∈ rule.methods, upperCase given = method :=
      List.mem_eraseDups.trans List.mem_map
    obtain ⟨given, member⟩ := List.exists_mem_of_ne_nil _ legal.methods
    refine ⟨rule.normalize.methods, by simp [request, plain],
      List.ne_nil_of_mem ((occurs _).mpr ⟨given, member, rfl⟩), nodup_eraseDups _, ?_, occurs,
      pairwise_idxOf_eraseDups _⟩
    intro method inPlan
    obtain ⟨own, named, rfl⟩ := (occurs method).mp inPlan
    exact legal.known own named
  origins := ⟨legal.origins, by simp [request, normalize, plain]⟩

namespace Descriptor.Yields

variable {d : Descriptor} {options : Options} {plan : Plan}

theorem corsRules_eq (yields : d.Yields options plan) :
    plan.corsRules = d.corsRules.map CorsRule.normalize := by
  obtain ⟨replication, _, made⟩ := yields.made
  obtain ⟨website, _, ended⟩ := steps_of_bind_ok made
  cases ended
  rfl

theorem websitePlan_eq (yields : d.Yields options plan) : d.websitePlan = .ok plan.website := by
  obtain ⟨replication, _, made⟩ := yields.made
  obtain ⟨website, planned, ended⟩ := steps_of_bind_ok made
  cases ended
  exact planned

end Descriptor.Yields

/-- The calls about the contents of a bucket: the website is configured as it is asked for, and every
rule for other origins is stated, in their order. -/
structure Descriptor.StatesContents (d : Descriptor) (requests : List Request) : Prop where
  website : ∀ website ∈ d.website, ∃ call stated, callsOf .putWebsite requests = [call] ∧
    call.params.memberAt? ["WebsiteConfiguration"] = some stated ∧ website.IsStatedBy stated
  noWebsite : d.website = none → callsOf .putWebsite requests = []
  cors : d.corsRules ≠ [] → ∃ call stated, callsOf .putCors requests = [call] ∧
    call.params.memberAt? ["CORSConfiguration", "CORSRules"] = some (.list stated) ∧
    List.Forall₂ CorsRule.IsStatedBy d.corsRules stated
  noCors : d.corsRules = [] → callsOf .putCors requests = []

namespace Descriptor.Yields

variable {d : Descriptor} {options : Options} {plan : Plan}

theorem statesContents (yields : d.Yields options plan) {minutes : Int} {requests : List Request}
    (rendered : plan.requests minutes = .ok requests) : d.StatesContents requests := by
  obtain ⟨cors, pages⟩ := Plan.callsOf_requests_contents rendered
  have planned := yields.websitePlan_eq
  rw [yields.corsRules_eq] at cors
  refine { website := fun website given => ?_, noWebsite := fun absent => ?_, cors := fun listed => ?_,
           noCors := fun absent => ?_ }
  · obtain ⟨own, made, stated⟩ := (yields.isValid.website website given).isStatedBy_plan
    simp only [websitePlan, Option.mem_def.mp given, made] at planned
    have kept : some own = plan.website := Except.ok.inj planned
    rw [← kept] at pages
    exact ⟨_, own.request, pages, by simp [Plan.call], stated⟩
  · simp only [websitePlan, absent] at planned
    rw [pages, ← Except.ok.inj planned]
    rfl
  · have given : (!(d.corsRules.map CorsRule.normalize).isEmpty) = true := by simpa using listed
    rw [given, List.map_map] at cors
    have rules : (plan.call .putCors [("CORSConfiguration", .record [("CORSRules",
        .list (d.corsRules.map (CorsRule.request ∘ CorsRule.normalize)))])]).params.memberAt?
          ["CORSConfiguration", "CORSRules"] =
        some (.list (d.corsRules.map (CorsRule.request ∘ CorsRule.normalize))) := by
      simp [Plan.call]
    refine ⟨_, _, cors, rules, ?_⟩
    rw [List.forall₂_map_right_iff, List.forall₂_same]
    exact fun rule member => (yields.isValid.cors.2 rule member).isStatedBy_request
  · rw [cors, absent]
    rfl

end Descriptor.Yields

/-- Whatever is compiled to its end is rendered to calls that configure its website, in the variant that
is asked for, and state its rules for other origins. -/
theorem compile_contents {value : Value} {options : Options} {result : Result}
    (returned : (compile value options).outcome = .ok result) (bundled : result.state = .bundled)
    (minutes : Int) :
    ∃ plan requests, result.plan = some plan ∧ plan.requests minutes = .ok requests ∧
      (Descriptor.ofValue value).StatesContents requests := by
  obtain ⟨plan, found, yields⟩ := compile_yields returned bundled
  obtain ⟨requests, rendered⟩ := yields.requests_return minutes
  exact ⟨plan, requests, found, rendered, yields.statesContents rendered⟩

/-- A site with two routing rules, one of which replaces a beginning by nothing, that is open to three
methods, one of them in two spellings and one with an old letter. -/
def routedSite : Value :=
  .record [("name", .str "site"),
    ("cors_rules", .list [.record [("allowed_origins", .list [.str "https://b", .str "https://a"]),
      ("allowed_methods", .list [.str "get", .str "poſt", .str "GET", .str "Put"])]]),
    ("website", .record [("static_website", .record [("index_document", .str "index.html"),
      ("routing_rules", .list [
        .record [("condition_key_prefix", .str "docs/"), ("replace_key_prefix_with", .str "")],
        .record [("condition_http_error_code", .str "404"), ("redirect_host_name", .str "help")]])])])]

theorem compile_routedSite_contents :
    ∃ result plan requests call page, (compile routedSite).outcome = .ok result ∧
      result.state = .bundled ∧ result.plan = some plan ∧ plan.requests = .ok requests ∧
      (Descriptor.ofValue routedSite).StatesContents requests ∧
      plan.corsRules.map CorsRule.methods = [["GET", "POST", "PUT"]] ∧
      callsOf .putWebsite requests = [call] ∧
      call.params.memberAt? ["WebsiteConfiguration"] = some page ∧
      (page.itemsAt ["RoutingRules"]).length = 2 := by
  have methods : ((compile routedSite).outcome.toOption.bind Result.plan).map
      (fun plan => plan.corsRules.map CorsRule.methods) = some [["GET", "POST", "PUT"]] := by
    decide +kernel
  have complete : (compile routedSite).outcome.toOption.map Result.state = some .bundled := by
    decide +kernel
  obtain ⟨result, returned, bundled⟩ := compile_returns_bundled complete
  obtain ⟨plan, requests, made, rendered, contents⟩ := compile_contents returned bundled
    ReplicationRulePlan.thresholdMinutes
  obtain ⟨call, page, single, configured, stated⟩ := contents.website _ (show _ ∈ some _ from rfl)
  rw [returned, Except.toOption, Option.bind_some, made] at methods
  exact ⟨result, plan, requests, call, page, returned, bundled, made, rendered, contents,
    Option.some.inj methods, single, configured, (stated.routing _ rfl).length_eq.symm⟩

end BucketPlan
