import BucketPlan.Finding
import BucketPlan.Shape
import BucketPlan.Text.Upper
import BucketPlan.Value.Plain

namespace BucketPlan

/-- What pages of other origins may do with a bucket. -/
structure CorsRule where
  methods : List String := []
  origins : List String := []
  headers : List String := []
  exposed : List String := []
  maxAge : Option Int := none
  id : Option String := none
deriving DecidableEq, Repr

namespace CorsRule

def shape : Shape :=
  .recordOf [("allowed_methods", .texts), ("allowed_origins", .texts), ("allowed_headers", .texts),
    ("expose_headers", .texts), ("max_age_seconds", .optional .integer), ("id", .optional .text)]

def ofValue (value : Value) : CorsRule where
  methods := (value.get "allowed_methods").texts
  origins := (value.get "allowed_origins").texts
  headers := (value.get "allowed_headers").texts
  exposed := (value.get "expose_headers").texts
  maxAge := (value.get "max_age_seconds").int?
  id := (value.get "id").text?

instance : Plain CorsRule where
  plain r := .record [("allowed_methods", plain r.methods), ("allowed_origins", plain r.origins),
    ("allowed_headers", plain r.headers), ("expose_headers", plain r.exposed),
    ("max_age_seconds", plain r.maxAge), ("id", plain r.id)]

def httpMethods : List String := ["GET", "PUT", "POST", "DELETE", "HEAD"]

def maxRules : Nat := 100

def findings (rule : CorsRule) (scope : Scope) : List Finding :=
  scope.require (!rule.origins.isEmpty) "allowed_origins" ++
  scope.require (!rule.methods.isEmpty) "allowed_methods" ++
  (rule.methods.flatMap fun method =>
    scope.oneOf (some (upperCase method)) httpMethods "allowed_methods") ++
  scope.inRange rule.maxAge "max_age_seconds" (some 0)

def allFindings (rules : List CorsRule) : List Finding :=
  (if maxRules < rules.length then
    Scope.error { area := "cors_rules" } "" .outOfRange
      s!"at most {maxRules} CORS rules are allowed, got {rules.length}" else []) ++
  rules.zipIdx.flatMap fun (rule, i) => rule.findings { area := "cors_rules", rule := toString i }

/-- The rule with its methods in upper case, each once. -/
def normalize (rule : CorsRule) : CorsRule :=
  { rule with methods := (rule.methods.map upperCase).eraseDups }

def request (rule : CorsRule) : Value :=
  .record ([("AllowedMethods", plain rule.methods), ("AllowedOrigins", plain rule.origins)] ++
    fieldsIf (isFilled rule.id) [("ID", plain rule.id)] ++
    fieldsIf (!rule.headers.isEmpty) [("AllowedHeaders", plain rule.headers)] ++
    fieldsIf (!rule.exposed.isEmpty) [("ExposeHeaders", plain rule.exposed)] ++
    fieldIfSet "MaxAgeSeconds" rule.maxAge)

end CorsRule

end BucketPlan
