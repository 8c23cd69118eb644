import BucketPlan.Proofs.Arranged.Destinations
import BucketPlan.Proofs.Recovery.Plain

namespace BucketPlan

/-- The names that a map has entries under. -/
def Value.names (value : Value) : List String :=
  value.namedEntries.map Prod.fst

namespace Shape

variable {shape members : Shape} {place : Place} {value : Value}

theorem mem_indexed {items : List Value} {item : Value} (member : item ∈ items) :
    ∃ i, (i, item) ∈ Value.indexed items := by
  obtain ⟨i, found⟩ := List.mem_iff_getElem?.mp member
  exact ⟨toString i, List.mem_map.mpr ⟨(item, i), List.mem_zipIdx_iff_getElem?.mpr found, rfl⟩⟩

/-- Items with nothing to report where they stand have nothing to report wherever they stand. -/
theorem flatMap_indexed_moved {items : List Value} {spot : String → Place}
    (silent : ((Value.indexed items).flatMap fun (i, item) => shape.mismatches (spot i) item) = [])
    (moved : ∀ place item, shape.mismatches place item = [] → shape.Fits item) :
    ∀ item ∈ items, shape.Fits item := by
  intro item member
  obtain ⟨i, found⟩ := mem_indexed member
  exact moved (spot i) item (List.flatMap_eq_nil_iff.mp silent _ found)

/-- A value with nothing to report where it stands has nothing to report anywhere. -/
theorem fits_of_mismatches (silent : shape.mismatches place value = []) : shape.Fits value := by
  induction shape generalizing place value with
  | text | integer | boolean =>
    intro other
    rw [mismatches] at silent ⊢
    split at silent
    · rename_i holds
      exact if_pos holds
    · cases silent
  | optional shape ih =>
    rw [mismatches] at silent
    split at silent
    · rename_i null
      exact fun other => if_pos null
    · exact (ih silent).optional
  | unlessUntrue shape ih =>
    rw [mismatches] at silent
    split at silent
    · exact (ih silent).unlessUntrue
    · rename_i untrue
      exact fun other => if_neg untrue
  | record members ih =>
    rw [mismatches] at silent
    split at silent
    · rename_i isMap
      exact (ih silent).record isMap
    · cases silent
  | member name shape others ihShape ihOthers =>
    obtain ⟨own, rest⟩ := List.append_eq_nil_iff.mp silent
    exact (ihShape own).member (ihOthers rest)
  | noMore => exact .noMore
  | listOf shape ih =>
    intro other
    rw [mismatches] at silent ⊢
    split at silent
    · exact flatMap_indexed_fits (flatMap_indexed_moved silent fun _ _ => ih) other.member
    · cases silent
  | listOfEntries shape ih =>
    intro other
    rw [mismatches] at silent ⊢
    split at silent
    · exact flatMap_indexed_fits (flatMap_indexed_moved silent fun _ _ => ih) other.entry
    · cases silent
  | oneOrMore shape ih =>
    intro other
    rw [mismatches] at silent ⊢
    split at silent
    · rename_i single
      rw [if_pos single]
      exact ih silent _
    · rename_i several
      rw [if_neg several]
      split at silent
      · exact flatMap_indexed_fits (flatMap_indexed_moved silent fun _ _ => ih) other.member
      · cases silent
  | fields shape ih =>
    intro other
    rw [mismatches] at silent ⊢
    split at silent
    · rename_i isMap
      rw [if_pos isMap]
      exact List.flatMap_eq_nil_iff.mpr fun entry member =>
        ih (List.flatMap_eq_nil_iff.mp silent entry member) _
    · cases silent
  | entries shape ih =>
    intro other
    rw [mismatches] at silent ⊢
    split at silent
    · rename_i isMap
      rw [if_pos isMap]
      exact List.flatMap_eq_nil_iff.mpr fun entry member =>
        ih (List.flatMap_eq_nil_iff.mp silent entry member) _
    · cases silent
  | pair first second members ih =>
    intro other
    rw [mismatches] at silent ⊢
    split at silent
    · exact ih silent other
    · cases silent
    · split at silent
      · rename_i isMap
        rw [if_pos isMap]
        exact ih silent other
      · cases silent

theorem Fits.cases_optional (fits : (Shape.optional shape).Fits value) :
    value = .null ∨ shape.Fits value := by
  have silent := fits {}
  rw [mismatches] at silent
  split at silent
  · rename_i null
    cases value with
    | null => exact Or.inl rfl
    | _ => cases null
  · exact Or.inr (fits_of_mismatches silent)

theorem Fits.cases_unlessUntrue (fits : (Shape.unlessUntrue shape).Fits value) :
    value.isTrue = false ∨ shape.Fits value := by
  have silent := fits {}
  rw [mismatches] at silent
  split at silent
  · exact Or.inr (fits_of_mismatches silent)
  · rename_i untrue
    exact Or.inl (Bool.eq_false_iff.mpr untrue)

theorem Fits.isMap (fits : (Shape.record members).Fits value) : value.isMap = true := by
  have silent := fits {}
  rw [mismatches] at silent
  split at silent
  · assumption
  · cases silent

theorem Fits.ofRecord (fits : (Shape.record members).Fits value) : members.Fits value := by
  have silent := fits {}
  rw [mismatches, if_pos fits.isMap] at silent
  exact fits_of_mismatches silent

theorem Fits.ofMember {others : Shape} {name : String}
    (fits : (Shape.member name shape others).Fits value) :
    shape.Fits (value.get name) ∧ others.Fits value := by
  obtain ⟨own, rest⟩ := List.append_eq_nil_iff.mp (fits {})
  exact ⟨fits_of_mismatches own, fits_of_mismatches rest⟩

theorem Fits.get {listed : List (String × Shape)} (fits : (recordOf listed).Fits value) {name : String}
    (member : (name, shape) ∈ listed) : shape.Fits (value.get name) :=
  fits_of_mismatches (mismatches_get_eq_nil (fits {}) member).2

theorem Fits.entry (fits : (Shape.entries shape).Fits value) :
    ∀ entry ∈ value.namedEntries, shape.Fits entry.2 := by
  intro entry member
  have silent := fits {}
  rw [mismatches] at silent
  split at silent
  · exact fits_of_mismatches (List.flatMap_eq_nil_iff.mp silent entry member)
  · cases silent

theorem Fits.item (fits : (Shape.listOfEntries shape).Fits value) :
    ∀ item ∈ value.sequence?.getD [], shape.Fits item := by
  intro item member
  have silent := fits {}
  rw [mismatches] at silent
  split at silent
  · rename_i items found
    rw [found] at member
    exact flatMap_indexed_moved silent (fun _ _ => fits_of_mismatches) item member
  · cases silent

theorem Fits.entries (isMap : value.isMap = true) (each : ∀ entry ∈ value.namedEntries, shape.Fits entry.2) :
    (Shape.entries shape).Fits value := by
  intro place
  rw [mismatches, if_pos isMap]
  exact List.flatMap_eq_nil_iff.mpr fun entry member => each entry member _

theorem Fits.items {items : List Value} (found : value.sequence? = some items)
    (each : ∀ item ∈ items, shape.Fits item) : (Shape.listOfEntries shape).Fits value := by
  intro place
  rw [mismatches, found]
  exact flatMap_indexed_fits each place.entry

theorem Fits.isSome_text? (fits : text.Fits value) : value.text?.isSome = true := by
  have silent := fits {}
  cases value with
  | str => rfl
  | _ => cases silent

theorem Fits.isSome_record? {α : Type} {read : Value → α} (fits : (Shape.record members).Fits value) :
    (value.record? read).isSome = true := by
  rw [Value.record?, if_pos fits.isMap]
  rfl

/-- Where all entries have the right form and names of their own, all of them are read. -/
theorem Fits.names_keyed {α : Type} {read : Value → Option α}
    (fits : (Shape.optional (Shape.entries shape)).Fits value) (distinct : value.names.Nodup)
    (readable : ∀ item, shape.Fits item → (read item).isSome = true) :
    (value.keyed read).names = value.names := by
  rcases fits.cases_optional with rfl | own
  · rfl
  · rw [Keyed.names, Value.entries_keyed distinct]
    exact Value.names_readings fun entry member => readable entry.2 (own.entry entry member)

theorem Fits.names_keyed_record {α : Type} {read : Value → α}
    (fits : (Shape.optional (Shape.entries (Shape.record members))).Fits value)
    (distinct : value.names.Nodup) : (value.keyed (Value.record? read)).names = value.names :=
  fits.names_keyed distinct fun _ => Fits.isSome_record?

theorem Fits.records_eq_map {α : Type} {read : Value → α}
    (fits : (Shape.optional (Shape.listOfEntries (Shape.record members))).Fits value) :
    value.records read = (value.sequence?.getD []).map read := by
  rcases fits.cases_optional with rfl | own
  · rfl
  · have readable : ∀ item ∈ value.sequence?.getD [], Value.record? read item = some (read item) :=
      fun item member => if_pos (own.item item member).isMap
    rw [Value.records, List.filterMap_congr readable, List.filterMap_eq_map']

end Shape

end BucketPlan
