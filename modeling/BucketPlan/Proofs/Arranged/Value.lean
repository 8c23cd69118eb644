import Mathlib.Data.List.Forall2
import BucketPlan.Proofs.Arranged.Keyed
import BucketPlan.Shape
import BucketPlan.Value.Reading

namespace BucketPlan

/-- One list of named values is another one in another order, up to a relation between the values of
one name. -/
def Reordered (related : Value → Value → Prop) (first second : List (String × Value)) : Prop :=
  ∃ moved, first.Perm moved ∧ List.Forall₂ (fun a b => a.1 = b.1 ∧ related a.2 b.2) moved second

namespace Reordered

variable {β : Type} {related : Value → Value → Prop} {first second : List (String × Value)}

theorem flatMap_perm (reordered : Reordered related first second) {say : String × Value → List β}
    (same : ∀ name a b, related a b → (say (name, a)).Perm (say (name, b))) :
    (first.flatMap say).Perm (second.flatMap say) := by
  obtain ⟨moved, perm, matched⟩ := reordered
  refine (perm.flatMap_right say).trans ?_
  -- what is left stands in one order, so that it is said name by name
  clear perm
  induction matched with
  | nil => exact .refl _
  | @cons a b _ _ own _ ih =>
    obtain ⟨name, item⟩ := a
    obtain ⟨other, item'⟩ := b
    obtain ⟨rfl, values⟩ : name = other ∧ related item item' := own
    rw [List.flatMap_cons, List.flatMap_cons]
    exact (same name item item' values).append ih

theorem filterMap_perm (reordered : Reordered related first second) {pick : String × Value → Option β}
    (same : ∀ name a b, related a b → pick (name, a) = pick (name, b)) :
    (first.filterMap pick).Perm (second.filterMap pick) := by
  rw [List.filterMap_eq_flatMap_toList, List.filterMap_eq_flatMap_toList]
  refine reordered.flatMap_perm fun name a b values => ?_
  rw [same name a b values]

theorem names_perm (reordered : Reordered related first second) :
    (first.map Prod.fst).Perm (second.map Prod.fst) := by
  rw [List.map_eq_flatMap, List.map_eq_flatMap]
  exact reordered.flatMap_perm fun _ _ _ _ => .refl _

end Reordered

/-- One map is another one with its entries in another order, up to a relation between the values,
where all entries differ in the text of their keys. Anything but a map is to be the same. -/
def Value.RearrangesBy (related : Value → Value → Prop) (v w : Value) : Prop :=
  if v.isMap then
    w.isMap = true ∧ (v.namedEntries.map Prod.fst).Nodup ∧
      Reordered related v.namedEntries w.namedEntries
  else w = v

theorem Value.RearrangesBy.cases {related : Value → Value → Prop} {v w : Value}
    (rearranged : RearrangesBy related v w) :
    (v.isMap = true ∧ w.isMap = true ∧ (v.namedEntries.map Prod.fst).Nodup ∧
      Reordered related v.namedEntries w.namedEntries) ∨ v.isMap = false ∧ w = v := by
  rw [RearrangesBy] at rearranged
  split at rearranged
  · rename_i isMap
    exact Or.inl ⟨isMap, rearranged⟩
  · rename_i other
    exact Or.inr ⟨Bool.eq_false_iff.mpr other, rearranged⟩

theorem Value.RearrangesBy.flatMap_perm {β : Type} {related : Value → Value → Prop} {v w : Value}
    (rearranged : RearrangesBy related v w) {say : String × Value → List β} (other : Value → List β)
    (same : ∀ name a b, related a b → (say (name, a)).Perm (say (name, b))) :
    (if v.isMap then v.namedEntries.flatMap say else other v).Perm
      (if w.isMap then w.namedEntries.flatMap say else other w) := by
  rcases rearranged.cases with ⟨isMap, isMap', _, reordered⟩ | ⟨_, rfl⟩
  · rw [if_pos isMap, if_pos isMap']
    exact reordered.flatMap_perm same
  · exact .refl _

namespace Shape

/-- Whether nothing of the shape stands under names of the user's own. -/
def isFixed : Shape → Bool
  | optional shape => shape.isFixed
  | unlessUntrue shape => shape.isFixed
  | record members => members.isFixed
  | member _ shape others => shape.isFixed && others.isFixed
  | fields _ => false
  | entries _ => false
  | _ => true

/-- Whether the shape is about some members of a value, and not about the whole of it. -/
def isPartial : Shape → Bool
  | optional shape => shape.isPartial
  | unlessUntrue shape => shape.isPartial
  | member _ _ _ => true
  | noMore => true
  | _ => false

/-- Two values that, as far as the shape looks at them, differ in nothing but the order of entries under
names of the user's own. -/
def Rearranges : Shape → Value → Value → Prop
  | optional shape, v, w => v.isNull = w.isNull ∧ shape.Rearranges v w
  | unlessUntrue shape, v, w => v.isTrue = w.isTrue ∧ shape.Rearranges v w
  | record members, v, w =>
    if v.isMap && !members.isFixed then w.isMap = true ∧ members.Rearranges v w else w = v
  | member name shape others, v, w =>
    shape.Rearranges (v.get name) (w.get name) ∧ others.Rearranges v w
  | noMore, _, _ => True
  | fields shape, v, w => Value.RearrangesBy (fun a b => shape.Rearranges a b) v w
  | entries shape, v, w => Value.RearrangesBy (fun a b => shape.Rearranges a b) v w
  | _, v, w => w = v

theorem Rearranges.eq_of_isFixed {shape : Shape} {v w : Value} (rearranged : shape.Rearranges v w)
    (fixed : shape.isFixed = true) (whole : shape.isPartial = false) : w = v := by
  induction shape with
  | optional shape ih => exact ih rearranged.2 fixed whole
  | unlessUntrue shape ih => exact ih rearranged.2 fixed whole
  | record members =>
    have settled : members.isFixed = true := fixed
    simpa [Rearranges, settled] using rearranged
  | member => cases whole
  | noMore => cases whole
  | fields => cases fixed
  | entries => cases fixed
  | _ => exact rearranged

theorem Rearranges.cases_record {members : Shape} {v w : Value}
    (rearranged : (record members).Rearranges v w) :
    (v.isMap = true ∧ w.isMap = true ∧ members.Rearranges v w) ∨
      (members.isFixed = true ∨ v.isMap = false) ∧ w = v := by
  rw [Rearranges] at rearranged
  split at rearranged
  · rename_i named
    exact Or.inl ⟨(Bool.and_eq_true_iff.mp named).1, rearranged⟩
  · rename_i other
    refine Or.inr ⟨?_, rearranged⟩
    cases fixed : members.isFixed with
    | true => exact Or.inl rfl
    | false => exact Or.inr (by simpa [fixed] using other)

/-- Values that differ in such an order only have the same mismatches, up to their order. -/
theorem Rearranges.mismatches_perm {shape : Shape} {v w : Value} (rearranged : shape.Rearranges v w)
    (place : Place) : (shape.mismatches place v).Perm (shape.mismatches place w) := by
  induction shape generalizing place v w with
  | optional shape ih =>
    obtain ⟨null, inner⟩ := rearranged
    rw [mismatches, mismatches, null]
    split
    · exact .refl _
    · exact ih inner place
  | unlessUntrue shape ih =>
    obtain ⟨untrue, inner⟩ := rearranged
    rw [mismatches, mismatches, untrue]
    split
    · exact ih inner place
    · exact .refl _
  | record members ih =>
    rcases rearranged.cases_record with ⟨isMap, isMap', inner⟩ | ⟨_, rfl⟩
    · rw [mismatches, mismatches, if_pos isMap, if_pos isMap']
      exact ih inner place
    · exact .refl _
  | member name shape others ihShape ihOthers =>
    exact (ihShape rearranged.1 _).append (ihOthers rearranged.2 place)
  | noMore => exact .refl _
  | fields shape ih =>
    exact Value.RearrangesBy.flatMap_perm rearranged
      (fun value => [place.mistyped "a mapping" value]) fun name a b inner => ih inner (place.member name)
  | entries shape ih =>
    exact Value.RearrangesBy.flatMap_perm rearranged
      (fun value => [place.mistyped "a mapping" value]) fun name a b inner => ih inner (place.entry name)
  | _ =>
    have same : w = v := rearranged
    rw [same]

/-- A record is read as the same thing when its members are. -/
theorem Rearranges.record? {α β : Type} {members : Shape} {read : Value → α} {seen : α → β}
    {v w : Value} (rearranged : (record members).Rearranges v w)
    (same : members.Rearranges v w → seen (read v) = seen (read w)) :
    (v.record? read).map seen = (w.record? read).map seen := by
  rcases rearranged.cases_record with ⟨isMap, isMap', inner⟩ | ⟨_, rfl⟩
  · rw [Value.record?, Value.record?, if_pos isMap, if_pos isMap']
    exact congrArg some (same inner)
  · rfl

end Shape

namespace Value

variable {α : Type} {read : Value → Option α}

/-- The entries of a map that can be read, with what they are read as. -/
def readings (read : Value → Option α) (value : Value) : List (String × α) :=
  value.namedEntries.filterMap fun entry => (read entry.2).map fun item => (entry.1, item)

theorem names_readings_sublist (value : Value) :
    ((value.readings read).map Prod.fst).Sublist (value.namedEntries.map Prod.fst) := by
  rw [readings]
  induction value.namedEntries with
  | nil => exact .refl _
  | cons entry rest ih =>
    cases found : read entry.2 with
    | none => simpa [found] using ih.cons entry.1
    | some item => simpa [found] using ih

theorem entries_keyed {value : Value} (distinct : (value.namedEntries.map Prod.fst).Nodup) :
    (value.keyed read).entries = value.readings read :=
  Keyed.entries_ofList (value.names_readings_sublist.nodup distinct)

theorem RearrangesBy.arranged_keyed {related : Value → Value → Prop} {v w : Value} {f : α → α}
    (rearranged : RearrangesBy related v w)
    (same : ∀ a b, related a b → (read a).map f = (read b).map f) :
    (v.keyed read).arranged f = (w.keyed read).arranged f := by
  rcases rearranged.cases with ⟨_, _, distinct, reordered⟩ | ⟨_, rfl⟩
  · have distinct' := reordered.names_perm.nodup_iff.mp distinct
    rw [Keyed.arranged_eq_iff, entries_keyed distinct, entries_keyed distinct', readings, readings,
      List.map_filterMap, List.map_filterMap]
    refine reordered.filterMap_perm fun name a b values => ?_
    have seen := congrArg (Option.map fun item => (name, item)) (same a b values)
    simpa only [Option.map_map, Function.comp_def] using seen
  · rfl

end Value

end BucketPlan
