import BucketPlan.Value.Datum
import BucketPlan.Value.Plain

namespace BucketPlan

namespace DataType

/-- Data of a type that has a given plain form. -/
structure Holds (type : DataType) (value : Value) where
  datum : Datum
  admitted : type.Admits datum
  flat_eq : datum.flat = value

/-- Fields of declared types that have given plain forms. -/
structure HoldsAll (types : List (String × DataType)) (values : List (String × Value)) where
  fields : List (String × Datum)
  admitted : AdmitsAll types fields
  flat_eq : Datum.flatEntries fields = values

variable {type : DataType} {value : Value} {name : String} {types : List (String × DataType)}
  {values : List (String × Value)}

def Holds.record (held : HoldsAll types values) : (record name types).Holds (.record values) where
  datum := .record name held.fields
  admitted := ⟨held.fields, rfl, held.admitted⟩
  flat_eq := congrArg Value.record held.flat_eq

def HoldsAll.noMore : HoldsAll [] [] := ⟨[], rfl, rfl⟩

def HoldsAll.field (first : type.Holds value) (rest : HoldsAll types values) :
    HoldsAll ((name, type) :: types) ((name, value) :: values) where
  fields := (name, first.datum) :: rest.fields
  admitted := ⟨first.datum, rest.fields, rfl, first.admitted, rest.admitted⟩
  flat_eq := by rw [Datum.flatEntries, first.flat_eq, rest.flat_eq]

/-- A declared type whose data is that of a type of items, with the same plain forms. -/
class Carries (type : DataType) (α : Type) [Plain α] where
  held (item : α) : type.Holds (plain item)

export Carries (held)

instance : text.Carries String := ⟨fun s => ⟨.scalar (.str s), ⟨s, rfl⟩, rfl⟩⟩

instance : integer.Carries Int := ⟨fun n => ⟨.scalar (.int n), .inl ⟨n, rfl⟩, rfl⟩⟩

instance : truth.Carries Bool := ⟨fun b => ⟨.scalar (.bool b), ⟨b, rfl⟩, rfl⟩⟩

variable {α β : Type} [Plain α] [Plain β] {first second : DataType}

/-- An item as data of a declared type. -/
def datum (type : DataType) [type.Carries α] (item : α) : Datum :=
  (held item : type.Holds (plain item)).datum

section

variable [type.Carries α]

theorem admits_datum (item : α) : type.Admits (type.datum item) :=
  (held item : type.Holds (plain item)).admitted

@[simp]
theorem flat_datum (item : α) : (type.datum item).flat = plain item :=
  (held item : type.Holds (plain item)).flat_eq

theorem flatItems_map_datum (items : List α) :
    Datum.flatItems (items.map type.datum) = items.map plain := by
  induction items with
  | nil => rfl
  | cons item rest ih => rw [List.map_cons, Datum.flatItems, flat_datum, ih, List.map_cons]

theorem flatEntries_map_datum (entries : List (String × α)) :
    Datum.flatEntries (entries.map fun (name, item) => (name, type.datum item)) =
      entries.map fun (name, item) => (name, plain item) := by
  induction entries with
  | nil => rfl
  | cons entry rest ih => rw [List.map_cons, Datum.flatEntries, flat_datum, ih, List.map_cons]

instance : (optional type).Carries α where
  held item := { held item with admitted := .inr (held item).admitted }

instance : (optional type).Carries (Option α) where
  held
    | none => ⟨.scalar .null, .inl rfl, rfl⟩
    | some item => held item

instance : (sequence type).Carries (List α) where
  held items :=
    { datum := .tuple (items.map type.datum)
      admitted := ⟨_, rfl, List.forall_mem_map.mpr fun item _ => admits_datum item⟩
      flat_eq := congrArg Value.list (flatItems_map_datum items) }

instance : (mapping type).Carries (Keyed α) where
  held map :=
    { datum := .map (map.mapValues fun _ => type.datum).entries
      admitted := ⟨_, rfl, (map.mapValues fun _ => type.datum).distinct,
        List.forall_mem_map.mpr fun entry _ => admits_datum entry.2⟩
      flat_eq := congrArg Value.record (flatEntries_map_datum map.entries) }

end

instance [first.Carries α] [second.Carries β] : (pair first second).Carries (α × β) where
  held
    | (a, b) =>
      { datum := .tuple [first.datum a, second.datum b]
        admitted := ⟨_, _, rfl, admits_datum a, admits_datum b⟩
        flat_eq := by simp [Datum.flat, Datum.flatItems, plain] }

end DataType

end BucketPlan
