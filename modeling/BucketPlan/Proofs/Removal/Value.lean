import Mathlib.Data.List.Flatten
import BucketPlan.Proofs.Shape.Fitting

namespace BucketPlan

namespace Value

/-- One map has some of the entries of another one, in their order. Anything but a map is to be the
same. -/
def KeepsSomeEntries (v w : Value) : Prop :=
  if v.isMap then w.isMap = true ∧ w.namedEntries.Sublist v.namedEntries else w = v

/-- One list has some of the items of another one, in their order. -/
def KeepsSomeItems (v w : Value) : Prop :=
  match v.sequence? with
  | some items => ∃ kept, w.sequence? = some kept ∧ kept.Sublist items
  | none => w = v

variable {v w : Value}

theorem KeepsSomeEntries.namedEntries_sublist (keeps : KeepsSomeEntries v w) :
    w.namedEntries.Sublist v.namedEntries := by
  rw [KeepsSomeEntries] at keeps
  split at keeps
  · exact keeps.2
  · rw [keeps]

theorem KeepsSomeEntries.isTrue (keeps : KeepsSomeEntries v w) (given : w.isTrue = true) :
    v.isTrue = true := by
  rw [KeepsSomeEntries] at keeps
  split at keeps
  · obtain ⟨isMap, sub⟩ := keeps
    by_contra untrue
    rw [namedEntries_of_not_isTrue (Bool.eq_false_iff.mpr untrue)] at sub
    have none : w.namedEntries = [] := List.sublist_nil.mp sub
    cases w with
    | map entries =>
      have empty : entries = [] := by simpa [namedEntries, entries?] using none
      rw [empty] at given
      cases given
    | _ => cases isMap
  · rw [← keeps]
    exact given

theorem KeepsSomeItems.sequence_sublist (keeps : KeepsSomeItems v w) :
    (w.sequence?.getD []).Sublist (v.sequence?.getD []) := by
  rw [KeepsSomeItems] at keeps
  split at keeps
  · rename_i items found
    obtain ⟨kept, given, sub⟩ := keeps
    rwa [found, given]
  · rw [keeps]

end Value

namespace Shape

/-- Whether nothing of the shape is an entry in its own right, which could be left out. -/
def isEntryless : Shape → Bool
  | optional shape => shape.isEntryless
  | unlessUntrue shape => shape.isEntryless
  | record members => members.isEntryless
  | member _ shape others => shape.isEntryless && others.isEntryless
  | listOfEntries _ => false
  | entries _ => false
  | _ => true

/-- Two values that, as far as the shape looks at them, differ in nothing but entries in their own right
that the second one leaves out. -/
def LeavesOut : Shape → Value → Value → Prop
  | optional shape, v, w => v.isNull = w.isNull ∧ shape.LeavesOut v w
  | unlessUntrue shape, v, w => (w.isTrue = true → v.isTrue = true) ∧ shape.LeavesOut v w
  | record members, v, w =>
    if v.isMap && !members.isEntryless then w.isMap = true ∧ members.LeavesOut v w else w = v
  | member name shape others, v, w =>
    shape.LeavesOut (v.get name) (w.get name) ∧ others.LeavesOut v w
  | noMore, _, _ => True
  | listOfEntries _, v, w => v.KeepsSomeItems w
  | entries _, v, w => v.KeepsSomeEntries w
  | _, v, w => w = v

variable {shape : Shape} {v w : Value}

theorem LeavesOut.eq_of_isEntryless (left : shape.LeavesOut v w) (entryless : shape.isEntryless = true)
    (whole : shape.isPartial = false) : w = v := by
  induction shape with
  | optional shape ih => exact ih left.2 entryless whole
  | unlessUntrue shape ih => exact ih left.2 entryless whole
  | record members =>
    have settled : members.isEntryless = true := entryless
    simpa [LeavesOut, settled] using left
  | member => cases whole
  | noMore => cases whole
  | listOfEntries => cases entryless
  | entries => cases entryless
  | _ => exact left

theorem LeavesOut.text? (left : (optional text).LeavesOut v w) : w.text? = v.text? := by
  rw [left.eq_of_isEntryless rfl rfl]

theorem LeavesOut.bool? (left : (optional boolean).LeavesOut v w) : w.bool? = v.bool? := by
  rw [left.eq_of_isEntryless rfl rfl]

theorem LeavesOut.cases_record {members : Shape} (left : (record members).LeavesOut v w) :
    (v.isMap = true ∧ w.isMap = true ∧ members.LeavesOut v w) ∨
      (members.isEntryless = true ∨ v.isMap = false) ∧ w = v := by
  rw [LeavesOut] at left
  split at left
  · rename_i named
    exact Or.inl ⟨(Bool.and_eq_true_iff.mp named).1, left⟩
  · rename_i other
    refine Or.inr ⟨?_, left⟩
    cases entryless : members.isEntryless with
    | true => exact Or.inl rfl
    | false => exact Or.inr (by simpa [entryless] using other)

/-- What is read of a record with entries left out is related to what is read of the whole record when
the readings of their members are. -/
theorem LeavesOut.record? {α : Type} {members : Shape} {read : Value → α} {related : α → α → Prop}
    (left : (optional (record members)).LeavesOut v w) (refl : ∀ item, related item item)
    (each : members.LeavesOut v w → related (read v) (read w)) :
    Option.Rel related (v.record? read) (w.record? read) := by
  rcases left.2.cases_record with ⟨isMap, isMap', inner⟩ | ⟨_, rfl⟩
  · rw [Value.record?, Value.record?, if_pos isMap, if_pos isMap']
    exact .some (each inner)
  · cases w.record? read with
    | none => exact .none
    | some item => exact .some (refl item)

/-- Leaving out entries leaves nothing to report where there was nothing to report. -/
theorem LeavesOut.fits (left : shape.LeavesOut v w) (fits : shape.Fits v) : shape.Fits w := by
  induction shape generalizing v w with
  | optional shape ih =>
    obtain ⟨null, inner⟩ := left
    rcases fits.cases_optional with rfl | own
    · exact fun place => if_pos null.symm
    · exact (ih inner own).optional
  | unlessUntrue shape ih =>
    obtain ⟨untrue, inner⟩ := left
    rcases fits.cases_unlessUntrue with empty | own
    · exact fun place => if_neg fun given => by cases empty.symm.trans (untrue given)
    · exact (ih inner own).unlessUntrue
  | record members ih =>
    rcases left.cases_record with ⟨_, isMap', inner⟩ | ⟨_, rfl⟩
    · exact (ih inner fits.ofRecord).record isMap'
    · exact fits
  | member name shape others ihShape ihOthers =>
    obtain ⟨own, rest⟩ := fits.ofMember
    exact (ihShape left.1 own).member (ihOthers left.2 rest)
  | noMore => exact .noMore
  | listOfEntries shape ih =>
    have keeps : v.KeepsSomeItems w := left
    rw [Value.KeepsSomeItems] at keeps
    split at keeps
    · rename_i items found
      obtain ⟨kept, given, sub⟩ := keeps
      have each := fits.item
      rw [found, Option.getD_some] at each
      exact .items given fun item member => each item (sub.subset member)
    · rwa [keeps]
  | entries shape ih =>
    have keeps : v.KeepsSomeEntries w := left
    rw [Value.KeepsSomeEntries] at keeps
    split at keeps
    · exact .entries keeps.1 fun entry member => fits.entry entry (keeps.2.subset member)
    · rwa [keeps]
  | _ =>
    have same : w = v := left
    rwa [same]

end Shape

/-- A map with some of the entries of another one, in their order. -/
def Keyed.Includes {α : Type} (whole part : Keyed α) : Prop :=
  part.entries.Sublist whole.entries

namespace Keyed

variable {α β : Type} {whole part : Keyed α}

theorem Includes.refl (map : Keyed α) : map.Includes map :=
  List.Sublist.refl _

theorem Includes.mapValues (includes : whole.Includes part) (f : String → α → β) :
    (whole.mapValues f).Includes (part.mapValues f) :=
  List.Sublist.map _ includes

theorem Includes.flatMap {say : String × α → List β} (includes : whole.Includes part) :
    (part.entries.flatMap say).Sublist (whole.entries.flatMap say) :=
  List.Sublist.flatMap includes say

end Keyed

namespace Value

variable {α : Type} {read : Value → Option α} {v w : Value}

/-- Of a map with entries left out, the rest is read as before. -/
theorem KeepsSomeEntries.includes_keyed (keeps : v.KeepsSomeEntries w) (distinct : v.names.Nodup) :
    (v.keyed read).Includes (w.keyed read) := by
  have sub := keeps.namedEntries_sublist
  rw [Keyed.Includes, entries_keyed distinct, entries_keyed ((sub.map Prod.fst).nodup distinct)]
  exact sub.filterMap _

theorem KeepsSomeItems.records_sublist {read : Value → α} (keeps : v.KeepsSomeItems w) :
    (w.records read).Sublist (v.records read) :=
  keeps.sequence_sublist.filterMap _

end Value

end BucketPlan
