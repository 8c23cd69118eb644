import BucketPlan.Finding
import BucketPlan.Keyed

namespace BucketPlan

def maxTags : Nat := 50

def maxTagKey : Nat := 128

def maxTagValue : Nat := 256

def tagFindings (tags : Keyed String) : List Finding :=
  (if maxTags < tags.size then
    Scope.error { area := "tags" } "" .outOfRange
      s!"at most {maxTags} tags are allowed, got {tags.size}" else []) ++
  tags.entries.flatMap fun (key, value) =>
    let scope : Scope := { area := "tags", rule := key }
    (if key = "" ∨ maxTagKey < key.length then
      scope.error "" .outOfRange s!"tag keys must be 1-{maxTagKey} characters" else []) ++
    if maxTagValue < value.length then
      scope.error "" .outOfRange s!"tag values must be at most {maxTagValue} characters"
    else []

end BucketPlan
