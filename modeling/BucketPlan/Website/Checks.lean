import BucketPlan.Website.Rule

namespace BucketPlan

def webProtocols : List String := ["http", "https"]

def websiteScope : Scope := { area := "website" }

namespace Redirect

def findings (redirect : Redirect) : List Finding :=
  websiteScope.require (isFilled redirect.host) "redirect_requests_for_an_object.host_name" ++
  websiteScope.oneOf redirect.protocol webProtocols "redirect_requests_for_an_object.protocol"

end Redirect

namespace RoutingRule

def hasTarget (rule : RoutingRule) : Bool :=
  isFilled rule.host || isFilled rule.httpCode || isFilled rule.protocol ||
    rule.replacePrefix.isSome || rule.replaceKey.isSome

def findings (rule : RoutingRule) (field : String) : List Finding :=
  (if rule.replacePrefix.isSome && rule.replaceKey.isSome then
    websiteScope.error field .mutuallyExclusive
      "replace_key_prefix_with and replace_key_with cannot both be set" else []) ++
  (if rule.hasTarget then []
    else websiteScope.error field .requiresField "routing rule requires a redirect target") ++
  websiteScope.oneOf rule.protocol webProtocols (field ++ ".redirect_protocol")

end RoutingRule

namespace StaticSite

/-- The index document is appended to paths, so it is one name and no path. -/
def indexFindings (site : StaticSite) : List Finding :=
  if isFilled site.indexDocument then
    if site.indexDocument.any fun name => name.toList.contains '/' then
      websiteScope.error "static_website.index_document" .outOfRange
        "index_document is a suffix and must not contain '/'"
    else []
  else websiteScope.require false "static_website.index_document"

def findings (site : StaticSite) : List Finding :=
  site.indexFindings ++
  site.routingRules.zipIdx.flatMap fun (rule, i) =>
    rule.findings s!"static_website.routing_rules.{i}"

end StaticSite

/-- A website either redirects or serves documents. -/
def Website.findings (website : Website) : List Finding :=
  match website.redirect, website.static with
  | some _, some _ =>
    websiteScope.error "" .mutuallyExclusive
      "redirect_requests_for_an_object and static_website cannot both be set"
  | none, none =>
    websiteScope.error "" .requiresField
      "website requires either redirect_requests_for_an_object or static_website"
  | some redirect, none => redirect.findings
  | none, some site => site.findings

end BucketPlan
