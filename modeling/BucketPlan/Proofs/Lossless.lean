import BucketPlan.Plan.Bundle
import BucketPlan.Proofs.Arranged.Keyed
import BucketPlan.Proofs.Rendered.Member

namespace BucketPlan

namespace Value

mutual

/-- Equality: sequences item by item, maps whatever the order of their entries, all else as keys. -/
def same : Value → Value → Bool
  | moment a, moment b => a == b
  | list a, list b => sameItems a b
  | tuple a, tuple b => sameItems a b
  | map a, map b => a.length == b.length && sameEntries a b
  | a, b => sameKey a b
termination_by structural a => a

def sameItems : List Value → List Value → Bool
  | [], [] => true
  | a :: first, b :: second => a.same b && sameItems first second
  | _, _ => false
termination_by structural items => items

/-- Whether every key is among other entries, with an equal value. -/
def sameEntries : List (Value × Value) → List (Value × Value) → Bool
  | [], _ => true
  | (key, a) :: rest, entries =>
    (match entries.find? fun entry => entry.1.sameKey key with
      | some (_, b) => a.same b
      | none => false) && sameEntries rest entries
termination_by structural entries => entries

end

end Value

namespace Datum

mutual

/-- Equality: records field by field and of one type only, tuples and lists item by item and told apart,
maps whatever the order of their entries. -/
def same : Datum → Datum → Bool
  | scalar a, scalar b => a.same b
  | list a, list b => sameItems a b
  | tuple a, tuple b => sameItems a b
  | map a, map b => a.length == b.length && sameEntries a b
  | record type a, record other b => type == other && sameFields a b
  | _, _ => false
termination_by structural a => a

def sameItems : List Datum → List Datum → Bool
  | [], [] => true
  | a :: first, b :: second => a.same b && sameItems first second
  | _, _ => false
termination_by structural items => items

/-- Whether every name is among other entries, with an equal value. -/
def sameEntries : List (String × Datum) → List (String × Datum) → Bool
  | [], _ => true
  | (name, a) :: rest, entries =>
    (match entries.lookup name with
      | some b => a.same b
      | none => false) && sameEntries rest entries
termination_by structural entries => entries

def sameFields : List (String × Datum) → List (String × Datum) → Bool
  | [], [] => true
  | (_, a) :: first, (_, b) :: second => a.same b && sameFields first second
  | _, _ => false
termination_by structural fields => fields

end

theorem length_flatEntries (entries : List (String × Datum)) :
    (flatEntries entries).length = entries.length := by
  induction entries with
  | nil => rfl
  | cons entry rest ih => rw [flatEntries, List.length_cons, List.length_cons, ih]

/-- A name leads to the plain form of what it led to before. -/
theorem find_flatEntries (entries : List (String × Datum)) (name : String) :
    ((flatEntries entries).map fun (name, value) => (Value.str name, value)).find?
        (fun entry => entry.1.sameKey (.str name)) =
      (entries.lookup name).map fun a => (.str name, a.flat) := by
  induction entries with
  | nil => rfl
  | cons entry rest ih =>
    obtain ⟨other, a⟩ := entry
    rw [flatEntries, List.map_cons, List.find?_cons, List.lookup_cons, ih]
    by_cases same : other = name
    · subst same
      simp [Value.sameKey]
    · have missed : (other == name) = false := beq_false_of_ne same
      have unmatched : (name == other) = false := beq_false_of_ne (Ne.symm same)
      simp [Value.sameKey, missed, unmatched]

/-- Nothing else has the plain form of nothing. -/
theorem null_same_flat (b : Datum) : Value.null.same b.flat = (scalar .null).same b := by
  cases b <;> rfl

theorem flat_same_null (a : Datum) : a.flat.same .null = a.same (scalar .null) := by
  cases a <;> rfl

theorem sameItems_flatItems {first second : List Datum}
    (agree : ∀ a ∈ first, ∀ b ∈ second, a.flat.same b.flat = a.same b) :
    Value.sameItems (flatItems first) (flatItems second) = sameItems first second := by
  induction first generalizing second with
  | nil => cases second <;> rfl
  | cons a rest ih =>
    cases second with
    | nil => rfl
    | cons b others =>
      have heads := agree a List.mem_cons_self b List.mem_cons_self
      have tails := ih fun x first y second =>
        agree x (List.mem_cons_of_mem a first) y (List.mem_cons_of_mem b second)
      rw [flatItems, flatItems, Value.sameItems, heads, tails, sameItems]

theorem sameEntries_flatEntries {first second : List (String × Datum)}
    (agree : ∀ a ∈ first, ∀ b ∈ second, a.2.flat.same b.2.flat = a.2.same b.2) :
    Value.sameEntries ((flatEntries first).map fun (name, value) => (.str name, value))
        ((flatEntries second).map fun (name, value) => (.str name, value)) =
      sameEntries first second := by
  induction first with
  | nil => rfl
  | cons entry rest ih =>
    obtain ⟨name, a⟩ := entry
    have tails := ih fun x member => agree x (List.mem_cons_of_mem _ member)
    rw [flatEntries, List.map_cons, Value.sameEntries, find_flatEntries, tails, sameEntries]
    cases found : second.lookup name with
    | none => rfl
    | some b =>
      obtain ⟨before, after, split, _⟩ := List.lookup_eq_some_iff.mp found
      have member : (name, b) ∈ second := split ▸ List.mem_append_right before List.mem_cons_self
      have heads : a.flat.same b.flat = a.same b := agree _ List.mem_cons_self _ member
      simp only [Option.map_some, heads]

end Datum

namespace DataType

mutual

/-- Whether the fields of every record have names of their own. -/
def isProper : DataType → Bool
  | text => true
  | integer => true
  | truth => true
  | optional type => type.isProper
  | sequence type => type.isProper
  | pair first second => first.isProper && second.isProper
  | mapping type => type.isProper
  | record _ types => decide (types.map Prod.fst).Nodup && areProper types

def areProper : List (String × DataType) → Bool
  | [] => true
  | (_, type) :: rest => type.isProper && areProper rest

end

open Datum

theorem names_of_admitsAll {types : List (String × DataType)} {fields : List (String × Datum)}
    (admitted : AdmitsAll types fields) : fields.map Prod.fst = types.map Prod.fst := by
  induction types generalizing fields with
  | nil => exact congrArg _ admitted
  | cons declared rest ih =>
    obtain ⟨a, others, rfl, _, remaining⟩ := admitted
    rw [List.map_cons, List.map_cons, ih remaining]

mutual

/-- Data of one type is equal as soon as its plain form is. -/
theorem same_flat {a b : Datum} : ∀ (type : DataType), type.isProper = true → type.Admits a →
    type.Admits b → a.flat.same b.flat = a.same b
  | text, _, ⟨_, first⟩, ⟨_, second⟩ => by
    rw [first, second]
    rfl
  | integer, _, first, second => by
    obtain ⟨_, rfl⟩ | ⟨_, rfl⟩ := first <;> obtain ⟨_, rfl⟩ | ⟨_, rfl⟩ := second <;> rfl
  | truth, _, ⟨_, first⟩, ⟨_, second⟩ => by
    rw [first, second]
    rfl
  | optional type, proper, first, second => by
    obtain rfl | first := first
    · exact null_same_flat b
    · obtain rfl | second := second
      · exact flat_same_null a
      · exact same_flat type proper first second
  | sequence type, proper, ⟨xs, first, each⟩, ⟨ys, second, every⟩ => by
    rw [first, second]
    exact sameItems_flatItems fun x inFirst y inSecond =>
      same_flat type proper (each x inFirst) (every y inSecond)
  | pair left right, proper, first, second => by
    -- the two items have types of their own, so only items at one place are comparable
    obtain ⟨x, y, rfl, firstX, firstY⟩ := first
    obtain ⟨z, w, rfl, secondZ, secondW⟩ := second
    obtain ⟨properLeft, properRight⟩ := Bool.and_eq_true_iff.mp proper
    have heads := same_flat left properLeft firstX secondZ
    have tails := same_flat right properRight firstY secondW
    simp only [flat, flatItems, same, Datum.sameItems, Value.same, Value.sameItems, heads, tails]
  | mapping type, proper, ⟨xs, first, _, each⟩, ⟨ys, second, _, every⟩ => by
    have entries := sameEntries_flatEntries fun x inFirst y inSecond =>
      same_flat type proper (each x inFirst) (every y inSecond)
    rw [first, second, flat, flat, same, ← entries]
    simp only [Value.record, Value.same, List.length_map, length_flatEntries]
  | record name types, proper, ⟨xs, first, each⟩, ⟨ys, second, every⟩ => by
    obtain ⟨distinct, properAll⟩ := Bool.and_eq_true_iff.mp proper
    -- both records have the names of the declaration, so the plain forms are maps with the same keys
    have names := names_of_admitsAll every
    have named : (ys.map Prod.fst).Nodup := names ▸ of_decide_eq_true distinct
    have lengths : xs.length = ys.length := by
      simpa using congrArg List.length ((names_of_admitsAll each).trans names.symm)
    have fields := sameFields_flat properAll each every fun field => Keyed.lookup_of_nodup named
    rw [first, second, flat, flat, same, ← fields]
    simp only [Value.record, Value.same, List.length_map, length_flatEntries, lengths, beq_self_eq_true,
      Bool.true_and]

/-- A field of a record is found among the entries of its plain form by its name. -/
theorem sameFields_flat {whole : List (String × Datum)} : ∀ {types : List (String × DataType)},
    areProper types = true → ∀ {first second : List (String × Datum)}, AdmitsAll types first →
    AdmitsAll types second → (∀ field ∈ second, whole.lookup field.1 = some field.2) →
    Value.sameEntries ((flatEntries first).map fun (name, value) => (.str name, value))
        ((flatEntries whole).map fun (name, value) => (.str name, value)) =
      sameFields first second
  | [], _, _, _, first, second, _ => by
    rw [first, second]
    rfl
  | (name, type) :: types, proper, first, second, admitted, admitted', found => by
    obtain ⟨a, rest, rfl, admitsA, remaining⟩ := admitted
    obtain ⟨b, others, rfl, admitsB, remaining'⟩ := admitted'
    obtain ⟨properHead, properTail⟩ := Bool.and_eq_true_iff.mp proper
    have heads := same_flat type properHead admitsA admitsB
    have tails := sameFields_flat properTail remaining remaining' fun field member =>
      found field (List.mem_cons_of_mem _ member)
    have here : whole.lookup name = some b := found (name, b) List.mem_cons_self
    rw [flatEntries, List.map_cons, Value.sameEntries, find_flatEntries, here, tails, sameFields]
    simp only [Option.map_some, heads]

end

/-- Without a type there is no telling a tuple from a list. -/
example : (Datum.tuple []).flat = (Datum.list []).flat ∧ (Datum.tuple []).same (.list []) = false :=
  ⟨rfl, rfl⟩

theorem isProper_bundle : bundle.isProper = true := by decide

end DataType

/-- The plain form of a bundle loses nothing, and that of a plan is the plain form of a bundle. -/
theorem Bundle.same_plain :
    (∀ a b : Bundle, (plain a).same (plain b) ↔ a.datum.same b.datum) ∧
      ∀ plan : Plan, plain (ofPlan plan) = plain plan := by
  refine ⟨fun a b => ?_, plain_ofPlan⟩
  have agree : (plain a).same (plain b) = a.datum.same b.datum :=
    DataType.same_flat _ DataType.isProper_bundle a.admitted b.admitted
  rw [agree]

end BucketPlan
