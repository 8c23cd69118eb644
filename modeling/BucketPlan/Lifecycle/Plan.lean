import BucketPlan.Calendar
import BucketPlan.Lifecycle.Waterfall

namespace BucketPlan

namespace LifecycleAction

inductive Kind where
  | transition
  | expire
  | expireDeleteMarkers
  | noncurrentTransition
  | noncurrentExpire
  | abortUpload
  | unknown (name : String)
deriving DecidableEq, Repr

def Kind.name : Kind → String
  | transition => "transition"
  | expire => "expire"
  | expireDeleteMarkers => "expire_delete_markers"
  | noncurrentTransition => "noncurrent_transition"
  | noncurrentExpire => "noncurrent_expire"
  | abortUpload => "abort_multipart_upload"
  | unknown name => name

def Kind.known : List Kind :=
  [transition, expire, expireDeleteMarkers, noncurrentTransition, noncurrentExpire, abortUpload]

def Kind.ofName (name : String) : Kind :=
  (Kind.known.find? fun kind => kind.name == name).getD (unknown name)

end LifecycleAction

/-- One thing that happens to the objects of a rule. -/
structure LifecycleAction where
  kind : LifecycleAction.Kind
  days : Option Int := none
  storageClass : Option String := none
  date : Option String := none
  newerVersions : Option Int := none
deriving DecidableEq, Repr

instance : Plain LifecycleAction where
  plain action := .record [("action", plain action.kind.name), ("days", plain action.days),
    ("storage_class", plain action.storageClass), ("date", plain action.date),
    ("newer_noncurrent_versions", plain action.newerVersions)]

structure LifecyclePlan where
  name : String
  enabled : Bool
  filter : FilterPlan
  actions : List LifecycleAction
deriving DecidableEq, Repr

instance : Plain LifecyclePlan where
  plain rule := .record [("name", plain rule.name), ("enabled", plain rule.enabled),
    ("filter", plain rule.filter), ("actions", plain rule.actions)]

def LifecyclePlan.actionsOf (rule : LifecyclePlan) (kind : LifecycleAction.Kind) :
    List LifecycleAction :=
  rule.actions.filter (·.kind = kind)

namespace Expiration

def cleansUp (e : Expiration) : Bool :=
  e.deleteMarkers == some true

def actions (e : Expiration) : List LifecycleAction :=
  (e.days.toList.map fun days => { kind := .expire, days := some days }) ++
  (e.date.toList.map fun date => { kind := .expire, date := some date }) ++
  (if e.cleansUp then [{ kind := .expireDeleteMarkers }] else [])

def choiceFindings (e : Expiration) (scope : Scope) (hasTags : Bool) : List Finding :=
  (if e.cleansUp && (e.days.isSome || e.date.isSome) then
    scope.error "expiration.clean_up_expired_object_delete_markers" .mutuallyExclusive
      "clean_up_expired_object_delete_markers cannot be combined with a dated expiration" else []) ++
  (if e.cleansUp && hasTags then
    scope.error "expiration.clean_up_expired_object_delete_markers" .mutuallyExclusive
      "clean_up_expired_object_delete_markers cannot be combined with a tag filter" else []) ++
  (if e.days.isSome && e.date.isSome then
    scope.error "expiration.date" .mutuallyExclusive
      "expiration date and days_after_object_creation cannot both be set" else []) ++
  (if e.days.isNone && e.date.isNone && !e.cleansUp then
    scope.error "expiration" .requiresField "expiration requires at least one action" else [])

def dayFindings (days : Int) (steps : List Step) (scope : Scope) : List Finding :=
  if 1 ≤ days then
    Step.afterLast steps days fun last =>
      scope.error "expiration.days_after_object_creation" .nonMonotonicSequence
        s!"expiration at day {days} must come after the last transition at day {last}"
  else scope.inRange (some days) "expiration.days_after_object_creation" (some 1)

def dateFindings (date : String) (scope : Scope) : List Finding :=
  match Date.parse date with
  | .ok _ => []
  | .error _ =>
    scope.error "expiration.date" .outOfRange (quoted date ++ " is not an ISO-8601 date")

def findings (e : Expiration) (steps : List Step) (scope : Scope) (hasTags : Bool) : List Finding :=
  e.choiceFindings scope hasTags ++
  (e.days.toList.flatMap fun days => dayFindings days steps scope) ++
  (e.date.toList.flatMap fun date => dateFindings date scope)

end Expiration

namespace NoncurrentExpiration

def actions (e : NoncurrentExpiration) : List LifecycleAction :=
  e.days.toList.map fun days =>
    { kind := .noncurrentExpire, days := some days, newerVersions := e.newerVersions }

def dayFindings (days : Int) (steps : List Step) (scope : Scope) : List Finding :=
  if 1 ≤ days then
    Step.afterLast steps days fun last =>
      scope.error "noncurrent_version_expiration.days" .nonMonotonicSequence
        s!"noncurrent expiration at day {days} must come after the last noncurrent transition at day {last}"
  else scope.inRange (some days) "noncurrent_version_expiration.days" (some 1)

def findings (e : NoncurrentExpiration) (steps : List Step) (scope : Scope) : List Finding :=
  match e.days with
  | none => scope.require false "noncurrent_version_expiration.days"
  | some days =>
    scope.inRange e.newerVersions "noncurrent_version_expiration.newer_noncurrent_versions"
      (some 1) (some 100) ++
    dayFindings days steps scope

end NoncurrentExpiration

namespace LifecycleRule

def steps (rule : LifecycleRule) : List Step :=
  Step.ordered (rule.transitions.map Transition.toNoncurrent)

def noncurrentSteps (rule : LifecycleRule) : List Step :=
  Step.ordered rule.noncurrentTransitions

def hasTags (rule : LifecycleRule) : Bool :=
  rule.filter.any fun filter => !filter.tags.isEmpty

/-- The moves, then the end of current objects, then the same for replaced ones, then the clean-up
of uploads that were never finished. -/
def actions (rule : LifecycleRule) : List LifecycleAction :=
  (rule.steps.map fun step =>
    { kind := .transition, days := some step.days, storageClass := some step.storageClass }) ++
  (rule.expiration.toList.flatMap Expiration.actions) ++
  (rule.noncurrentSteps.map fun step =>
    { kind := .noncurrentTransition, days := some step.days,
      storageClass := some step.storageClass, newerVersions := step.newerVersions }) ++
  (rule.noncurrentExpiration.toList.flatMap NoncurrentExpiration.actions) ++
  (rule.abortDays.toList.map fun days => { kind := .abortUpload, days := some days })

def plan (rule : LifecycleRule) (name : String) : LifecyclePlan where
  name := name
  enabled := rule.enabled
  filter := .ofFilter rule.filter true
  actions := rule.actions

/-- Whether the rule asks for anything, valid or not. -/
def declaresActions (rule : LifecycleRule) : Bool :=
  !rule.transitions.isEmpty || rule.expiration.isSome || !rule.noncurrentTransitions.isEmpty ||
    rule.noncurrentExpiration.isSome || rule.abortDays.isSome

def abortFindings (rule : LifecycleRule) (scope : Scope) : List Finding :=
  match rule.abortDays with
  | none => []
  | some days =>
    scope.inRange (some days) "abort_incomplete_multipart_upload_days" (some 1) ++
    if rule.hasTags then
      scope.error "abort_incomplete_multipart_upload_days" .mutuallyExclusive
        "incomplete multipart upload cleanup cannot be combined with a tag filter"
    else []

/-- Replaced objects exist only where versions are kept. -/
def versioningFindings (rule : LifecycleRule) (scope : Scope) (versioned : Bool) : List Finding :=
  if !versioned && (!rule.noncurrentTransitions.isEmpty || rule.noncurrentExpiration.isSome) then
    scope.warning
      (if rule.noncurrentExpiration.isSome then "noncurrent_version_expiration"
        else "noncurrent_version_transitions") .requiresField
      "noncurrent-version actions have no effect unless versioning_enabled is true"
  else []

def findings (rule : LifecycleRule) (name : String) (scope : Scope) (versioned : Bool) :
    List Finding :=
  FilterPlan.findings rule.filter scope true ++
  Step.findings (rule.transitions.map Transition.toNoncurrent) scope "transitions" ++
  Step.findings rule.noncurrentTransitions scope "noncurrent_version_transitions" ++
  (rule.expiration.toList.flatMap fun e => e.findings rule.steps scope rule.hasTags) ++
  (rule.noncurrentExpiration.toList.flatMap fun e => e.findings rule.noncurrentSteps scope) ++
  rule.abortFindings scope ++
  (if rule.declaresActions then []
    else scope.error "" .requiresField s!"lifecycle rule {quoted name} defines no actions") ++
  rule.versioningFindings scope versioned

end LifecycleRule

namespace LifecyclePlan

def ofRules (rules : Keyed LifecycleRule) : Keyed LifecyclePlan :=
  rules.mapValues fun name rule => rule.plan name

def findings (rules : Keyed LifecycleRule) (versioned : Bool) : List Finding :=
  rules.entries.flatMap fun (name, rule) =>
    rule.findings name { area := "lifecycle_rules", rule := name } versioned

/-- One line per rule for those who watch the planning closely. -/
def remarks (rules : Keyed LifecycleRule) : List String :=
  rules.entries.map fun (name, rule) =>
    s!"Compiled lifecycle rule {name} with {rule.actions.length} action(s)"

end LifecyclePlan

end BucketPlan
