import BucketPlan.Filter

namespace BucketPlan

/-- Days after which objects that nobody reads move to an archive tier. -/
structure TieringRule where
  enabled : Bool := true
  filter : Option ObjectFilter := none
  tierings : Keyed Int := {}
deriving DecidableEq

namespace TieringRule

def shape : Shape :=
  .recordOf [("tierings", .unlessUntrue (.fields (.optional .integer))),
    ("enabled", .optional .boolean), ("filter", .optional ObjectFilter.shape)]

def ofValue (value : Value) : TieringRule where
  enabled := (value.get "enabled").bool?.getD true
  filter := (value.get "filter").record? ObjectFilter.ofValue
  tierings := (value.get "tierings").keyed Value.int?

instance : Plain TieringRule where
  plain rule := .record [("enabled", plain rule.enabled), ("filter", plain rule.filter),
    ("tierings", plain rule.tierings)]

end TieringRule

end BucketPlan
