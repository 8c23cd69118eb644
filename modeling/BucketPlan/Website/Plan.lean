import BucketPlan.Fault
import BucketPlan.Website.Rule

namespace BucketPlan

/-- A website in one of its two variants. -/
inductive WebsitePlan where
  | redirect (target : Redirect)
  | static (site : StaticSite)
deriving DecidableEq, Repr

namespace WebsitePlan

def kindName : WebsitePlan → String
  | redirect _ => "redirect"
  | static _ => "static"

/-- The fields of both variants; those of the other one are empty. -/
def fields (redirect : Option Redirect) (site : StaticSite) : List (String × Value) :=
  [("redirect", plain redirect), ("index_document", plain site.indexDocument),
    ("error_document", plain site.errorDocument), ("routing_rules", plain site.routingRules)]

instance : Plain WebsitePlan where
  plain website := .record (("kind", plain website.kindName) :: match website with
    | redirect target => fields (some target) {}
    | static site => fields none site)

/-- The variant that a kind names; whatever is not a redirection is a static site. -/
def ofFields (kind : String) (target : Option Redirect) (site : StaticSite) :
    Except Fault WebsitePlan :=
  if kind = "redirect" then
    match target with
    | some target => .ok (redirect target)
    | none => .error (.partUnset "host_name")
  else .ok (static site)

/-- A redirection is preferred; without either variant there is nothing to plan. -/
def ofWebsite (website : Website) : Except Fault WebsitePlan :=
  match website.redirect, website.static with
  | some target, _ => .ok (redirect target)
  | none, some site => .ok (static site)
  | none, none => .error (.partUnset "index_document")

end WebsitePlan

namespace RoutingRule

def conditionFields (rule : RoutingRule) : List (String × Value) :=
  fieldIfSet "KeyPrefixEquals" rule.whenPrefix ++
  fieldIfSet "HttpErrorCodeReturnedEquals" rule.whenErrorCode

def redirectFields (rule : RoutingRule) : List (String × Value) :=
  fieldIfSet "HostName" rule.host ++ fieldIfSet "Protocol" rule.protocol ++
  fieldIfSet "HttpRedirectCode" rule.httpCode ++
  fieldIfSet "ReplaceKeyPrefixWith" rule.replacePrefix ++
  fieldIfSet "ReplaceKeyWith" rule.replaceKey

def request (rule : RoutingRule) : Value :=
  .record ([("Redirect", .record rule.redirectFields)] ++
    fieldsIf (!rule.conditionFields.isEmpty) [("Condition", .record rule.conditionFields)])

end RoutingRule

namespace WebsitePlan

def request : WebsitePlan → Value
  | redirect target =>
    .record [("RedirectAllRequestsTo", .record ([("HostName", plain target.host)] ++
      fieldsIf (isFilled target.protocol) [("Protocol", plain target.protocol)]))]
  | static site =>
    .record ([("IndexDocument", .record [("Suffix", plain site.indexDocument)])] ++
      fieldsIf (isFilled site.errorDocument)
        [("ErrorDocument", .record [("Key", plain site.errorDocument)])] ++
      fieldsIf (!site.routingRules.isEmpty)
        [("RoutingRules", .list (site.routingRules.map RoutingRule.request))])

end WebsitePlan

end BucketPlan
