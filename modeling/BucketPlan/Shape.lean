import BucketPlan.Value.Reading
import BucketPlan.Violation.Basic

namespace BucketPlan

/-- A place in a description: an area, a rule where the area is keyed, and the path below. -/
structure Place where
  area : String := ""
  rule : String := ""
  field : String := ""
deriving DecidableEq, Repr

namespace Place

/-- The place of a member; below the root the members are the areas. -/
def member (place : Place) (name : String) : Place :=
  if place.area = "" then { area := name }
  else if place.field = "" then { place with field := name }
  else { place with field := place.field ++ "." ++ name }

/-- The place of an entry of its own right, whose area is the path of the collection. -/
def entry (place : Place) (name : String) : Place :=
  { area := dottedPath [place.area, place.field], rule := name }

def violation (place : Place) (message : String) : Violation :=
  ⟨place.area, place.rule, place.field, .outOfRange, message, .error⟩

def mistyped (place : Place) (kind : String) (value : Value) : Violation :=
  place.violation s!"expected {kind}, got {value.typeName}"

end Place

/-- The forms that parts of a description may have. Members are chained: `member` checks one member
of a map and passes the map on to the other members. -/
inductive Shape where
  | text
  | integer
  | boolean
  | optional (shape : Shape)
  /-- Anything untrue is as good as nothing. -/
  | unlessUntrue (shape : Shape)
  | record (members : Shape)
  | member (name : String) (shape : Shape) (others : Shape)
  | noMore
  | listOf (shape : Shape)
  /-- A sequence whose items are entries in their own right. -/
  | listOfEntries (shape : Shape)
  /-- A sequence, or one item without a sequence around it. -/
  | oneOrMore (shape : Shape)
  | fields (shape : Shape)
  /-- A map whose values are entries in their own right. -/
  | entries (shape : Shape)
  /-- A record, or the pair of its two members. -/
  | pair (first second : String) (members : Shape)
deriving DecidableEq, Repr

namespace Shape

/-- Whether a value is of the kind that stands for a single item of the shape. -/
def isSingle : Shape → Value → Bool
  | text, value => value.isStr
  | record _, value => value.isMap
  | _, _ => false

/-- The places at which a value has another form than its shape, in the order of the shape. -/
def mismatches : Shape → Place → Value → List Violation
  | text, place, value => if value.isStr then [] else [place.mistyped "a string" value]
  | integer, place, value =>
    if value.int?.isSome then [] else [place.mistyped "an integer" value]
  | boolean, place, value =>
    if value.bool?.isSome then [] else [place.mistyped "a boolean" value]
  | optional shape, place, value => if value.isNull then [] else shape.mismatches place value
  | unlessUntrue shape, place, value => if value.isTrue then shape.mismatches place value else []
  | record members, place, value =>
    if value.isMap then members.mismatches place value else [place.mistyped "a mapping" value]
  | member name shape others, place, value =>
    shape.mismatches (place.member name) (value.get name) ++ others.mismatches place value
  | noMore, _, _ => []
  | listOf shape, place, value =>
    match value.sequence? with
    | some items =>
      (Value.indexed items).flatMap fun (i, item) => shape.mismatches (place.member i) item
    | none => [place.mistyped "a list" value]
  | listOfEntries shape, place, value =>
    match value.sequence? with
    | some items =>
      (Value.indexed items).flatMap fun (i, item) => shape.mismatches (place.entry i) item
    | none => [place.mistyped "a list" value]
  | oneOrMore shape, place, value =>
    if shape.isSingle value then shape.mismatches (place.member "0") value
    else match value.sequence? with
      | some items =>
        (Value.indexed items).flatMap fun (i, item) => shape.mismatches (place.member i) item
      | none => [place.mistyped "a list" value]
  | fields shape, place, value =>
    if value.isMap then
      value.namedEntries.flatMap fun (name, item) => shape.mismatches (place.member name) item
    else [place.mistyped "a mapping" value]
  | entries shape, place, value =>
    if value.isMap then
      value.namedEntries.flatMap fun (name, item) => shape.mismatches (place.entry name) item
    else [place.mistyped "a mapping" value]
  | pair first second members, place, value =>
    match value.sequence? with
    | some [a, b] => members.mismatches place (.record [(first, a), (second, b)])
    | some _ => [place.violation s!"expected a ({first}, {second}) pair"]
    | none =>
      if value.isMap then members.mismatches place value else [place.mistyped "a mapping" value]

/-- One text or several, or nothing. -/
def texts : Shape := optional (oneOrMore text)

/-- A record of the members given. -/
def recordOf (members : List (String × Shape)) : Shape :=
  record (members.foldr (fun (name, shape) others => member name shape others) noMore)

end Shape

end BucketPlan
