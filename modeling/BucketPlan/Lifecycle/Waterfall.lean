import BucketPlan.Lifecycle.Rule

namespace BucketPlan

/-- The storage classes that objects may move to, from the warmest to the coldest. -/
def waterfall : List String :=
  ["STANDARD_IA", "INTELLIGENT_TIERING", "ONEZONE_IA", "GLACIER_IR", "GLACIER", "DEEP_ARCHIVE"]

def rank (storageClass : String) : Nat :=
  waterfall.idxOf storageClass

/-- The classes that objects may enter only after thirty days. -/
def infrequentAccess : List String := ["STANDARD_IA", "ONEZONE_IA"]

/-- A transition that has its days and a class of the waterfall. -/
structure Step where
  days : Int
  storageClass : String
  newerVersions : Option Int := none
deriving DecidableEq, Repr

namespace NoncurrentTransition

def step? (t : NoncurrentTransition) : Option Step :=
  match t.days, t.storageClass with
  | some days, some storageClass =>
    if 0 ≤ days ∧ storageClass ∈ waterfall then some ⟨days, storageClass, t.newerVersions⟩ else none
  | _, _ => none

def findings (t : NoncurrentTransition) (scope : Scope) (item : String) : List Finding :=
  scope.require t.days.isSome (item ++ ".days") ++
  scope.require (isFilled t.storageClass) (item ++ ".storage_class") ++
  scope.inRange t.days (item ++ ".days") (some 0) ++
  (if isFilled t.storageClass then
    scope.oneOf t.storageClass waterfall (item ++ ".storage_class") else []) ++
  (match t.step? with
    | some step =>
      if step.storageClass ∈ infrequentAccess then
        scope.inRange (some step.days) (item ++ ".days") (some 30) else []
    | none => []) ++
  scope.inRange t.newerVersions (item ++ ".newer_noncurrent_versions") (some 1) (some 100)

end NoncurrentTransition

namespace Step

/-- The usable transitions by ascending days. -/
def ordered (transitions : List NoncurrentTransition) : List Step :=
  (transitions.filterMap NoncurrentTransition.step?).mergeSort fun a b => decide (a.days ≤ b.days)

/-- Of two neighbours the later one comes on a later day and goes down the waterfall. -/
def orderFindings (earlier later : Step) (scope : Scope) (field : String) : List Finding :=
  if later.days = earlier.days then
    scope.error field .nonMonotonicSequence
      s!"transition day-offsets must be strictly increasing; day {later.days} appears more than once"
  else if rank later.storageClass ≤ rank earlier.storageClass then
    scope.error field .nonMonotonicSequence
      s!"{later.storageClass} at day {later.days} cannot follow {earlier.storageClass} at day {earlier.days}"
  else []

def sequenceFindings (scope : Scope) (field : String) : List Step → List Finding
  | earlier :: later :: rest =>
    orderFindings earlier later scope field ++ sequenceFindings scope field (later :: rest)
  | _ => []

/-- Every transition by itself, then those that are usable in their order. -/
def findings (transitions : List NoncurrentTransition) (scope : Scope) (field : String) :
    List Finding :=
  (transitions.zipIdx.flatMap fun (t, i) => t.findings scope s!"{field}.{i}") ++
  sequenceFindings scope field (ordered transitions)

/-- What an expiration after `days` has to say when it does not come after the last step. -/
def afterLast (steps : List Step) (days : Int) (complain : Int → List Finding) : List Finding :=
  match steps.getLast? with
  | some last => if days ≤ last.days then complain last.days else []
  | none => []

end Step

end BucketPlan
