import BucketPlan.Value.Basic

namespace BucketPlan

/-- Data as a program holds it: records know their type, and tuples are no lists. -/
inductive Datum where
  | scalar (value : Value)
  | list (items : List Datum)
  | tuple (items : List Datum)
  | map (entries : List (String × Datum))
  | record (type : String) (fields : List (String × Datum))

namespace Datum

mutual

/-- The plain form of data, which tells neither records from maps nor tuples from lists. -/
def flat : Datum → Value
  | scalar value => value
  | list items => .list (flatItems items)
  | tuple items => .list (flatItems items)
  | map entries => .record (flatEntries entries)
  | record _ fields => .record (flatEntries fields)

def flatItems : List Datum → List Value
  | [] => []
  | item :: rest => item.flat :: flatItems rest

def flatEntries : List (String × Datum) → List (String × Value)
  | [] => []
  | (name, item) :: rest => (name, item.flat) :: flatEntries rest

end

end Datum

/-- The type that data is declared with. -/
inductive DataType where
  | text
  | integer
  | truth
  | optional (type : DataType)
  | sequence (items : DataType)
  | pair (first second : DataType)
  | mapping (values : DataType)
  | record (name : String) (fields : List (String × DataType))

namespace DataType

mutual

/-- The data of a type. Truth values are integers, too. -/
def Admits : DataType → Datum → Prop
  | text, a => ∃ s, a = .scalar (.str s)
  | integer, a => (∃ n, a = .scalar (.int n)) ∨ ∃ b, a = .scalar (.bool b)
  | truth, a => ∃ b, a = .scalar (.bool b)
  | optional type, a => a = .scalar .null ∨ type.Admits a
  | sequence type, a => ∃ items, a = .tuple items ∧ ∀ item ∈ items, type.Admits item
  | pair first second, a => ∃ x y, a = .tuple [x, y] ∧ first.Admits x ∧ second.Admits y
  | mapping type, a => ∃ entries, a = .map entries ∧ (entries.map Prod.fst).Nodup ∧
      ∀ entry ∈ entries, type.Admits entry.2
  | record name types, a => ∃ fields, a = .record name fields ∧ AdmitsAll types fields

/-- Fields stand in the order of their declaration. -/
def AdmitsAll : List (String × DataType) → List (String × Datum) → Prop
  | [], fields => fields = []
  | (name, type) :: types, fields =>
    ∃ a rest, fields = (name, a) :: rest ∧ type.Admits a ∧ AdmitsAll types rest

end

end DataType

end BucketPlan
