import BucketPlan.Proofs.Passes
import BucketPlan.Website.Checks
import BucketPlan.Website.Cors

namespace BucketPlan

namespace Redirect

structure IsLegal (redirect : Redirect) : Prop where
  host : ∃ host ∈ redirect.host, host ≠ ""
  protocol : ∀ protocol ∈ redirect.protocol, protocol ∈ ["http", "https"]

theorem passes_findings {redirect : Redirect} : Passes redirect.findings ↔ redirect.IsLegal := by
  simp only [findings, reportsOnly_append, Scope.passes_require, Scope.passes_oneOf, isFilled_iff]
  exact ⟨fun passes => ⟨passes.1, passes.2⟩, fun legal => ⟨legal.host, legal.protocol⟩⟩

end Redirect

namespace RoutingRule

/-- A request is sent elsewhere in one way at least, and a key is replaced as a whole or at its
beginning. An empty text leads nowhere, but may replace a key. -/
structure IsLegal (rule : RoutingRule) : Prop where
  replacement : rule.replacePrefix = none ∨ rule.replaceKey = none
  target : (∃ host ∈ rule.host, host ≠ "") ∨ (∃ code ∈ rule.httpCode, code ≠ "") ∨
    (∃ protocol ∈ rule.protocol, protocol ≠ "") ∨ rule.replacePrefix ≠ none ∨ rule.replaceKey ≠ none
  protocol : ∀ protocol ∈ rule.protocol, protocol ∈ ["http", "https"]

theorem hasTarget_iff {rule : RoutingRule} :
    rule.hasTarget = true ↔ (∃ host ∈ rule.host, host ≠ "") ∨ (∃ code ∈ rule.httpCode, code ≠ "") ∨
      (∃ protocol ∈ rule.protocol, protocol ≠ "") ∨ rule.replacePrefix ≠ none ∨
      rule.replaceKey ≠ none := by
  simp only [hasTarget, Bool.or_eq_true, isFilled_iff, Option.isSome_iff_ne_none, or_assoc]

theorem passes_findings {rule : RoutingRule} {field : String} :
    Passes (rule.findings field) ↔ rule.IsLegal := by
  have single : ¬(rule.replacePrefix.isSome && rule.replaceKey.isSome) = true ↔
      rule.replacePrefix = none ∨ rule.replaceKey = none := by
    cases rule.replacePrefix <;> simp
  simp only [findings, reportsOnly_append, reportsOnly_ite, Scope.passes_error, imp_false,
    Classical.not_not, reportsOnly_nil, implies_true, and_true, true_and, Scope.passes_oneOf, single,
    hasTarget_iff]
  exact ⟨fun passes => ⟨passes.1.1, passes.1.2, passes.2⟩, fun legal =>
    ⟨⟨legal.replacement, legal.target⟩, legal.protocol⟩⟩

end RoutingRule

namespace StaticSite

structure IsLegal (site : StaticSite) : Prop where
  index : ∃ name ∈ site.indexDocument, name ≠ "" ∧ '/' ∉ name.toList
  routing : ∀ rule ∈ site.routingRules, rule.IsLegal

theorem passes_indexFindings {site : StaticSite} :
    Passes site.indexFindings ↔ ∃ name ∈ site.indexDocument, name ≠ "" ∧ '/' ∉ name.toList := by
  unfold indexFindings
  cases site.indexDocument with
  | none => simp [isFilled]
  | some name =>
    by_cases empty : name = ""
    · simp [isFilled, empty]
    · simp [isFilled, empty]

theorem passes_findings {site : StaticSite} : Passes site.findings ↔ site.IsLegal := by
  simp only [findings, reportsOnly_append, reportsOnly_flatMap, passes_indexFindings,
    RoutingRule.passes_findings, forall_mem_zipIdx site.routingRules RoutingRule.IsLegal]
  exact ⟨fun passes => ⟨passes.1, passes.2⟩, fun legal => ⟨legal.index, legal.routing⟩⟩

end StaticSite

namespace Website

/-- One of the two variants, and not both. -/
structure IsLegal (website : Website) : Prop where
  choice : website.redirect.isSome ≠ website.static.isSome
  redirect : ∀ redirect ∈ website.redirect, redirect.IsLegal
  static : ∀ site ∈ website.static, site.IsLegal

theorem passes_findings {website : Website} : Passes website.findings ↔ website.IsLegal := by
  obtain ⟨redirect, static⟩ := website
  cases redirect with
  | none =>
    cases static with
    | none =>
      exact iff_of_false Scope.passes_error fun legal => legal.choice rfl
    | some site =>
      refine StaticSite.passes_findings.trans ⟨fun legal => ⟨by simp, by simp, ?_⟩, fun legal =>
        legal.static site rfl⟩
      simpa using legal
  | some redirect =>
    cases static with
    | none =>
      refine Redirect.passes_findings.trans ⟨fun legal => ⟨by simp, ?_, by simp⟩, fun legal =>
        legal.redirect redirect rfl⟩
      simpa using legal
    | some site =>
      exact iff_of_false Scope.passes_error fun legal => legal.choice rfl

end Website

namespace CorsRule

structure IsLegal (rule : CorsRule) : Prop where
  origins : rule.origins ≠ []
  methods : rule.methods ≠ []
  known : ∀ method ∈ rule.methods, upperCase method ∈ ["GET", "PUT", "POST", "DELETE", "HEAD"]
  age : ∀ seconds ∈ rule.maxAge, 0 ≤ seconds

theorem passes_findings {rule : CorsRule} {scope : Scope} :
    Passes (rule.findings scope) ↔ rule.IsLegal := by
  have given (texts : List String) : (!texts.isEmpty) = true ↔ texts ≠ [] := by simp
  simp only [findings, reportsOnly_append, reportsOnly_flatMap, Scope.passes_require, given,
    Scope.passes_oneOf, Option.mem_some, forall_eq', Scope.passes_inRange_from]
  constructor
  · intro passes
    obtain ⟨⟨⟨origins, methods⟩, known⟩, age⟩ := passes
    exact ⟨origins, methods, known, age⟩
  · intro legal
    exact ⟨⟨⟨legal.origins, legal.methods⟩, legal.known⟩, legal.age⟩

theorem passes_allFindings {rules : List CorsRule} :
    Passes (allFindings rules) ↔ rules.length ≤ 100 ∧ ∀ rule ∈ rules, rule.IsLegal := by
  simp only [allFindings, reportsOnly_append, reportsOnly_ite, Scope.passes_error, imp_false,
    Nat.not_lt, reportsOnly_nil, implies_true, and_true, reportsOnly_flatMap, passes_findings,
    forall_mem_zipIdx rules IsLegal]
  exact Iff.rfl

end CorsRule

end BucketPlan
