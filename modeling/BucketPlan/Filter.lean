import BucketPlan.Finding
import BucketPlan.Shape
import BucketPlan.Value.Plain

namespace BucketPlan

/-- The objects that a rule is about: all conditions that are set have to hold. -/
structure ObjectFilter where
  keyPrefix : Option String := none
  tags : Keyed String := {}
  sizeAbove : Option Int := none
  sizeBelow : Option Int := none
deriving DecidableEq

namespace ObjectFilter

def shape : Shape :=
  .recordOf [("prefix", .optional .text), ("tags", .optional (.fields .text)),
    ("object_size_greater_than", .optional .integer), ("object_size_less_than", .optional .integer)]

def ofValue (value : Value) : ObjectFilter where
  keyPrefix := (value.get "prefix").text?
  tags := (value.get "tags").textMap
  sizeAbove := (value.get "object_size_greater_than").int?
  sizeBelow := (value.get "object_size_less_than").int?

instance : Plain ObjectFilter where
  plain filter := .record [("prefix", plain filter.keyPrefix), ("tags", plain filter.tags),
    ("object_size_greater_than", plain filter.sizeAbove),
    ("object_size_less_than", plain filter.sizeBelow)]

end ObjectFilter

/-- A filter as it is carried out, its tags in the order of their keys. -/
structure FilterPlan where
  keyPrefix : Option String := none
  tags : List (String × String) := []
  sizeAbove : Option Int := none
  sizeBelow : Option Int := none
deriving DecidableEq, Repr

instance : Plain FilterPlan where
  plain filter := .record [("prefix", plain filter.keyPrefix), ("tags", plain filter.tags),
    ("object_size_greater_than", plain filter.sizeAbove),
    ("object_size_less_than", plain filter.sizeBelow)]

namespace ObjectFilter

def boundFindings (filter : ObjectFilter) (scope : Scope) (field : String) : List Finding :=
  scope.inRange filter.sizeAbove (field ++ ".object_size_greater_than") (some 0) ++
  scope.inRange filter.sizeBelow (field ++ ".object_size_less_than") (some 1) ++
  match filter.sizeAbove, filter.sizeBelow with
  | some above, some below =>
    if below ≤ above then
      scope.error (field ++ ".object_size_less_than") .outOfRange
        s!"object_size_less_than ({below}) must be greater than object_size_greater_than ({above})"
    else []
  | _, _ => []

def hasBounds (filter : ObjectFilter) : Bool :=
  filter.sizeAbove.isSome || filter.sizeBelow.isSome

/-- Only lifecycle rules may go by the sizes of objects. -/
def findings (filter : ObjectFilter) (scope : Scope) (field : String) (sizes : Bool) :
    List Finding :=
  (if !sizes && filter.hasBounds then
    scope.error field .outOfRange "object size bounds are only supported by lifecycle rules"
  else filter.boundFindings scope field) ++
  (filter.tags.names.filter (· = "")).flatMap fun _ =>
    scope.error (field ++ ".tags") .requiresField "filter tag keys must not be empty"

def plan (filter : ObjectFilter) (sizes : Bool) : FilterPlan where
  keyPrefix := filter.keyPrefix
  tags := filter.tags.sorted
  sizeAbove := if sizes then filter.sizeAbove else none
  sizeBelow := if sizes then filter.sizeBelow else none

end ObjectFilter

namespace FilterPlan

def findings (filter : Option ObjectFilter) (scope : Scope) (sizes : Bool)
    (field : String := "filter") : List Finding :=
  match filter with
  | none => []
  | some filter => filter.findings scope field sizes

def ofFilter (filter : Option ObjectFilter) (sizes : Bool) : FilterPlan :=
  match filter with
  | none => {}
  | some filter => filter.plan sizes

/-- The number of conditions, each tag being one. -/
def predicates (filter : FilterPlan) : Nat :=
  filter.keyPrefix.toList.length + filter.tags.length + filter.sizeAbove.toList.length +
    filter.sizeBelow.toList.length

def isConjunctive (filter : FilterPlan) : Bool :=
  1 < filter.predicates

def isEmpty (filter : FilterPlan) : Bool :=
  filter.predicates == 0

end FilterPlan

def tagSet (tags : List (String × String)) : Value :=
  .list (tags.map fun (key, value) => .record [("Key", plain key), ("Value", plain value)])

namespace FilterPlan

def conjunction (filter : FilterPlan) : Value :=
  .record (fieldIfSet "Prefix" filter.keyPrefix ++
    fieldsIf (!filter.tags.isEmpty) [("Tags", tagSet filter.tags)] ++
    fieldIfSet "ObjectSizeGreaterThan" filter.sizeAbove ++
    fieldIfSet "ObjectSizeLessThan" filter.sizeBelow)

/-- The filter of a request: one condition stands alone, several stand in a conjunction, and none
is the empty prefix of all keys. -/
def request (filter : FilterPlan) : Value :=
  if filter.isEmpty then .record [("Prefix", .str "")]
  else if filter.isConjunctive then .record [("And", filter.conjunction)]
  else match filter.keyPrefix, filter.tags, filter.sizeAbove with
    | some text, _, _ => .record [("Prefix", .str text)]
    | none, (key, value) :: _, _ =>
      .record [("Tag", .record [("Key", plain key), ("Value", plain value)])]
    | none, [], some size => .record [("ObjectSizeGreaterThan", .int size)]
    | none, [], none => .record [("ObjectSizeLessThan", plain filter.sizeBelow)]

end FilterPlan

end BucketPlan
