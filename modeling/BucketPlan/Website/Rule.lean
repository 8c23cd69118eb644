import BucketPlan.Finding
import BucketPlan.Shape
import BucketPlan.Value.Plain

namespace BucketPlan

/-- Every request goes to another host. -/
structure Redirect where
  host : Option String := none
  protocol : Option String := none
deriving DecidableEq, Repr

/-- Requests under a condition go elsewhere. -/
structure RoutingRule where
  whenPrefix : Option String := none
  whenErrorCode : Option String := none
  host : Option String := none
  protocol : Option String := none
  httpCode : Option String := none
  replacePrefix : Option String := none
  replaceKey : Option String := none
deriving DecidableEq, Repr

structure StaticSite where
  indexDocument : Option String := none
  errorDocument : Option String := none
  routingRules : List RoutingRule := []
deriving DecidableEq, Repr

structure Website where
  redirect : Option Redirect := none
  static : Option StaticSite := none
deriving DecidableEq, Repr

namespace Redirect

def shape : Shape :=
  .recordOf [("host_name", .optional .text), ("protocol", .optional .text)]

def ofValue (value : Value) : Redirect where
  host := (value.get "host_name").text?
  protocol := (value.get "protocol").text?

instance : Plain Redirect where
  plain r := .record [("host_name", plain r.host), ("protocol", plain r.protocol)]

end Redirect

namespace RoutingRule

def shape : Shape :=
  .recordOf [("condition_key_prefix", .optional .text),
    ("condition_http_error_code", .optional .text), ("redirect_host_name", .optional .text),
    ("redirect_protocol", .optional .text), ("redirect_http_code", .optional .text),
    ("replace_key_prefix_with", .optional .text), ("replace_key_with", .optional .text)]

def ofValue (value : Value) : RoutingRule where
  whenPrefix := (value.get "condition_key_prefix").text?
  whenErrorCode := (value.get "condition_http_error_code").text?
  host := (value.get "redirect_host_name").text?
  protocol := (value.get "redirect_protocol").text?
  httpCode := (value.get "redirect_http_code").text?
  replacePrefix := (value.get "replace_key_prefix_with").text?
  replaceKey := (value.get "replace_key_with").text?

instance : Plain RoutingRule where
  plain r := .record [("condition_key_prefix", plain r.whenPrefix),
    ("condition_http_error_code", plain r.whenErrorCode), ("redirect_host_name", plain r.host),
    ("redirect_protocol", plain r.protocol), ("redirect_http_code", plain r.httpCode),
    ("replace_key_prefix_with", plain r.replacePrefix), ("replace_key_with", plain r.replaceKey)]

end RoutingRule

namespace StaticSite

def shape : Shape :=
  .recordOf [("index_document", .optional .text), ("error_document", .optional .text),
    ("routing_rules", .optional (.listOf RoutingRule.shape))]

def ofValue (value : Value) : StaticSite where
  indexDocument := (value.get "index_document").text?
  errorDocument := (value.get "error_document").text?
  routingRules := (value.get "routing_rules").records RoutingRule.ofValue

instance : Plain StaticSite where
  plain s := .record [("index_document", plain s.indexDocument),
    ("error_document", plain s.errorDocument), ("routing_rules", plain s.routingRules)]

end StaticSite

namespace Website

def shape : Shape :=
  .recordOf [("redirect_requests_for_an_object", .optional Redirect.shape),
    ("static_website", .optional StaticSite.shape)]

def ofValue (value : Value) : Website where
  redirect := (value.get "redirect_requests_for_an_object").record? Redirect.ofValue
  static := (value.get "static_website").record? StaticSite.ofValue

instance : Plain Website where
  plain w := .record [("redirect_requests_for_an_object", plain w.redirect),
    ("static_website", plain w.static)]

end Website

end BucketPlan
