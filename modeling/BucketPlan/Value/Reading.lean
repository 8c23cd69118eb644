import BucketPlan.Keyed
import BucketPlan.Value.Display

namespace BucketPlan

namespace Value

/-- A pair read as the record of its two members. -/
def unpair (first second : String) (value : Value) : Value :=
  match value.sequence? with
  | some [a, b] => record [(first, a), (second, b)]
  | _ => value

/-- Items with their indices, written as path segments. -/
def indexed (items : List Value) : List (String × Value) :=
  items.zipIdx.map fun (item, i) => (toString i, item)

/-- Entries with the texts of their keys. -/
def namedEntries (value : Value) : List (String × Value) :=
  (value.entries?.getD []).map fun (key, item) => (key.display, item)

/-- The texts of a sequence, or the one text without a sequence around it. -/
def texts (value : Value) : List String :=
  match value with
  | str s => [s]
  | _ => (value.sequence?.getD []).filterMap text?

/-- Reads a record, where there is one. -/
def record? {α : Type} (read : Value → α) (value : Value) : Option α :=
  if value.isMap then some (read value) else none

def records {α : Type} (read : Value → α) (value : Value) : List α :=
  (value.sequence?.getD []).filterMap (record? read)

/-- Reads the entries of a map that have the right form. -/
def keyed {α : Type} (read : Value → Option α) (value : Value) : Keyed α :=
  .ofList (value.namedEntries.filterMap fun (name, item) => (read item).map (name, ·))

def textMap (value : Value) : Keyed String :=
  value.keyed text?

end Value

end BucketPlan
