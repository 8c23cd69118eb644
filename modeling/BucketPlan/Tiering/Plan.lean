import BucketPlan.Lifecycle.Request
import BucketPlan.Tiering.Rule

namespace BucketPlan

structure TieringPlan where
  name : String
  enabled : Bool
  filter : FilterPlan
  tierings : List (String × Int)
deriving DecidableEq, Repr

instance : Plain TieringPlan where
  plain rule := .record [("name", plain rule.name), ("enabled", plain rule.enabled),
    ("filter", plain rule.filter), ("tierings", plain rule.tierings)]

namespace TieringRule

/-- The archive tiers with the least and the greatest number of days for each. -/
def tiers : List (String × Int × Int) :=
  [("ARCHIVE_ACCESS", 90, 730), ("DEEP_ARCHIVE_ACCESS", 180, 730)]

def tierFindings (scope : Scope) (tier : String) (days : Int) : List Finding :=
  let field := "tierings." ++ tier
  match tiers.lookup tier with
  | some (least, most) => scope.inRange (some days) field (some least) (some most)
  | none => scope.oneOf (some tier) (tiers.map Prod.fst) field

/-- The deep archive is entered after the archive. -/
def orderFindings (rule : TieringRule) (scope : Scope) : List Finding :=
  match rule.tierings.get? "ARCHIVE_ACCESS", rule.tierings.get? "DEEP_ARCHIVE_ACCESS" with
  | some archive, some deep =>
    if deep ≤ archive then
      scope.error "tierings.DEEP_ARCHIVE_ACCESS" .nonMonotonicSequence
        s!"DEEP_ARCHIVE_ACCESS ({deep} days) must come after ARCHIVE_ACCESS ({archive} days)"
    else []
  | _, _ => []

def findings (rule : TieringRule) (scope : Scope) : List Finding :=
  FilterPlan.findings rule.filter scope false ++
  scope.require (!rule.tierings.isEmpty) "tierings" "tiering rule requires at least one access tier" ++
  (rule.tierings.entries.flatMap fun (tier, days) => tierFindings scope tier days) ++
  rule.orderFindings scope

/-- By days, and tiers of the same day by name. -/
def comesFirst (a b : String × Int) : Bool :=
  decide (a.2 < b.2) || (a.2 == b.2 && decide (a.1 ≤ b.1))

def plan (rule : TieringRule) (name : String) : TieringPlan where
  name := name
  enabled := rule.enabled
  filter := .ofFilter rule.filter false
  tierings := rule.tierings.entries.mergeSort comesFirst

end TieringRule

namespace TieringPlan

def ofRules (rules : Keyed TieringRule) : Keyed TieringPlan :=
  rules.mapValues fun name rule => rule.plan name

def findings (rules : Keyed TieringRule) : List Finding :=
  rules.entries.flatMap fun (name, rule) =>
    rule.findings { area := "intelligent_tiering_rules", rule := name }

def request (rule : TieringPlan) : Value :=
  .record ([("Id", plain rule.name), ("Status", statusText rule.enabled),
    ("Tierings", .list (rule.tierings.map fun (tier, days) =>
      .record [("Days", plain days), ("AccessTier", plain tier)]))] ++
    fieldsIf (!rule.filter.isEmpty) [("Filter", rule.filter.request)])

end TieringPlan

end BucketPlan
