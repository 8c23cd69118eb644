import BucketPlan.Proofs.Arranged.Keyed
import BucketPlan.Shape
import BucketPlan.Value.Plain

namespace BucketPlan

theorem Value.namedEntries_record (fields : List (String × Value)) :
    (record fields).namedEntries = fields := by
  rw [namedEntries, record, entries?, Option.getD_some, List.map_map]
  exact List.map_id _

theorem Value.namedEntries_plain {α : Type} [Plain α] (map : Keyed α) :
    (plain map).namedEntries = map.entries.map fun entry => (entry.1, plain entry.2) :=
  namedEntries_record _

namespace Shape

/-- A value of the form that a shape asks for: wherever it stands, there is nothing to report. -/
def Fits (shape : Shape) (value : Value) : Prop :=
  ∀ place, shape.mismatches place value = []

variable {shape others : Shape} {value : Value}

theorem Fits.optional (fits : shape.Fits value) : (optional shape).Fits value := by
  intro place
  rw [mismatches]
  split
  · rfl
  · exact fits place

theorem fits_optional_null : (optional shape).Fits .null := by
  intro place
  rw [mismatches]
  exact if_pos rfl

theorem Fits.unlessUntrue (fits : shape.Fits value) : (unlessUntrue shape).Fits value := by
  intro place
  rw [mismatches]
  split
  · exact fits place
  · rfl

theorem Fits.record (map : value.isMap = true) (members : shape.Fits value) :
    (record shape).Fits value := by
  intro place
  rw [mismatches, if_pos map, members]

theorem Fits.member {name : String} (fits : shape.Fits (value.get name)) (rest : others.Fits value) :
    (member name shape others).Fits value := by
  intro place
  rw [mismatches, fits, rest, List.append_nil]

theorem Fits.noMore : noMore.Fits value := fun _ => rfl

theorem flatMap_indexed_fits {items : List Value} (fits : ∀ item ∈ items, shape.Fits item)
    (spot : String → Place) :
    ((Value.indexed items).flatMap fun (i, item) => shape.mismatches (spot i) item) = [] := by
  refine List.flatMap_eq_nil_iff.mpr fun entry member => ?_
  obtain ⟨numbered, inside, rfl⟩ := List.mem_map.mp member
  exact fits numbered.1 (List.fst_mem_of_mem_zipIdx inside) _

/-- A shape that the plain forms of a type fit. -/
class Admits (shape : Shape) (α : Type) [Plain α] : Prop where
  fits (item : α) : shape.Fits (plain item)

export Admits (fits)

instance : text.Admits String := ⟨fun _ _ => rfl⟩

instance : integer.Admits Int := ⟨fun _ _ => rfl⟩

instance : boolean.Admits Bool := ⟨fun _ _ => rfl⟩

variable {α : Type} [Plain α] [shape.Admits α]

instance : (optional shape).Admits α := ⟨fun item => (fits item).optional⟩

instance : (optional shape).Admits (Option α) where
  fits
    | none => fits_optional_null
    | some item => fits item

theorem fits_items (items : List α) : ∀ item ∈ items.map plain, shape.Fits item := by
  intro item member
  obtain ⟨original, _, rfl⟩ := List.mem_map.mp member
  exact fits original

instance : (listOf shape).Admits (List α) where
  fits items place := flatMap_indexed_fits (fits_items items) place.member

instance : (listOfEntries shape).Admits (List α) where
  fits items place := flatMap_indexed_fits (fits_items items) place.entry

/-- A list is never taken for a single item. -/
instance : (oneOrMore shape).Admits (List α) where
  fits items place := by
    have several : shape.isSingle (plain items) = false := by cases shape <;> rfl
    rw [mismatches, several]
    exact flatMap_indexed_fits (fits_items items) place.member

theorem fits_namedEntries (map : Keyed α) : ∀ entry ∈ (plain map).namedEntries, shape.Fits entry.2 := by
  intro entry member
  rw [Value.namedEntries_plain] at member
  obtain ⟨original, _, rfl⟩ := List.mem_map.mp member
  exact fits original.2

instance : (entries shape).Admits (Keyed α) where
  fits map place := List.flatMap_eq_nil_iff.mpr fun entry member =>
    fits_namedEntries map entry member (place.entry entry.1)

instance : (fields shape).Admits (Keyed α) where
  fits map place := List.flatMap_eq_nil_iff.mpr fun entry member =>
    fits_namedEntries map entry member (place.member entry.1)

instance : (unlessUntrue shape).Admits α := ⟨fun item => (fits item).unlessUntrue⟩

instance : texts.Admits (List String) :=
  inferInstanceAs ((optional (oneOrMore text)).Admits (List String))

end Shape

/-- A reader that takes the plain form of an item for what it is, and nothing for nothing. -/
class Recovers {α : Type} [Plain α] (read : Value → Option α) : Prop where
  read_null : read .null = none
  read_plain (item : α) : read (plain item) = some item

instance : Recovers Value.text? := ⟨rfl, fun _ => rfl⟩

instance : Recovers Value.int? := ⟨rfl, fun _ => rfl⟩

instance : Recovers Value.bool? := ⟨rfl, fun _ => rfl⟩

namespace Value

/-- Records are recovered by a reader that makes them anew of their members. -/
theorem recovers_record {α : Type} [Plain α] {read : Value → α}
    (map : ∀ item : α, (plain item).isMap = true) (read_plain : ∀ item, read (plain item) = item) :
    Recovers (record? read) where
  read_null := rfl
  read_plain item := by rw [record?, if_pos (map item), read_plain]

variable {α : Type} [Plain α] {read : Value → Option α} [Recovers read]

theorem read_option (item : Option α) : read (plain item) = item := by
  cases item with
  | none => exact Recovers.read_null
  | some item => exact Recovers.read_plain item

theorem read_list (items : List α) : ((plain items).sequence?.getD []).filterMap read = items := by
  have each : read ∘ plain = some := funext Recovers.read_plain
  calc (items.map plain).filterMap read
      = items.filterMap (read ∘ plain) := List.filterMap_map
    _ = items := by rw [each, List.filterMap_some]

/-- Reading a map keeps its names, their order and what stands under them, as no name comes twice. -/
@[simp]
theorem keyed_plain (map : Keyed α) : (plain map).keyed read = map := by
  have each (entry : String × α) : (read (plain entry.2)).map (entry.1, ·) = some entry := by
    have found : read (plain entry.2) = some entry.2 := Recovers.read_plain entry.2
    rw [found]
    rfl
  have readings : ((plain map).namedEntries.filterMap fun entry => (read entry.2).map (entry.1, ·)) =
      map.entries := by
    rw [namedEntries_plain, List.filterMap_map]
    exact (List.filterMap_congr fun entry _ => each entry).trans List.filterMap_some
  refine Keyed.eq_of_entries ?_
  rw [keyed, readings, Keyed.entries_ofList map.distinct]

@[simp]
theorem text?_plain (text : Option String) : (plain text).text? = text := read_option text

@[simp]
theorem int?_plain (number : Option Int) : (plain number).int? = number := read_option number

@[simp]
theorem bool?_plain (flag : Option Bool) : (plain flag).bool? = flag := read_option flag

@[simp]
theorem record?_plain {read : Value → α} [Recovers (record? read)] (item : Option α) :
    (plain item).record? read = item := read_option item

@[simp]
theorem records_plain {read : Value → α} [Recovers (record? read)] (items : List α) :
    (plain items).records read = items := read_list items

@[simp]
theorem texts_plain (items : List String) : (plain items).texts = items := read_list items

@[simp]
theorem textMap_plain (map : Keyed String) : (plain map).textMap = map := keyed_plain map

/-- What is switched on unless it says otherwise says so in its plain form. -/
@[simp]
theorem enabled_plain (flag : Bool) : (plain flag).bool?.getD true = flag := rfl

end Value

end BucketPlan
