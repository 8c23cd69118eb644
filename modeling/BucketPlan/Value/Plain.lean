import BucketPlan.Keyed
import BucketPlan.Value.Basic

namespace BucketPlan

/-- Types with a plain form in which records and maps, lists and pairs are no longer told apart. -/
class Plain (α : Type) where
  plain : α → Value

export Plain (plain)

instance : Plain Value := ⟨id⟩

instance : Plain String := ⟨.str⟩

instance : Plain Bool := ⟨.bool⟩

instance : Plain Int := ⟨.int⟩

instance {α : Type} [Plain α] : Plain (Option α) where
  plain
    | none => .null
    | some x => plain x

instance {α : Type} [Plain α] : Plain (List α) := ⟨fun xs => .list (xs.map plain)⟩

instance {α β : Type} [Plain α] [Plain β] : Plain (α × β) := ⟨fun (a, b) => .list [plain a, plain b]⟩

instance {α : Type} [Plain α] : Plain (Keyed α) :=
  ⟨fun map => .record (map.entries.map fun (name, value) => (name, plain value))⟩

/-- A field for a value that is set, and no field otherwise. -/
def fieldIfSet {α : Type} [Plain α] (name : String) : Option α → List (String × Value)
  | none => []
  | some x => [(name, plain x)]

/-- The fields, where the condition holds. -/
def fieldsIf (condition : Bool) (fields : List (String × Value)) : List (String × Value) :=
  if condition then fields else []

end BucketPlan
