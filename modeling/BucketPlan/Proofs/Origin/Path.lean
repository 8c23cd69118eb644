import BucketPlan.Proofs.Order
import BucketPlan.Proofs.Passes
import BucketPlan.Shape

namespace BucketPlan

/-- A text of characters below 128, among which all digits are decimal. -/
def IsPlain (text : String) : Prop :=
  ∀ c ∈ text.toList, c.toNat < 128

theorem IsPlain.ofList {text : List Char} (below : text.all (·.toNat < 128) = true) :
    IsPlain (String.ofList text) := by
  simpa [IsPlain] using below

theorem isDecimal_of_isDigit {c : Char} (below : c.toNat < 128) (digit : isDigit c = true) :
    isDecimal c = true := by
  rcases Bool.or_eq_true_iff.mp digit with decimal | other
  · exact decimal
  · obtain ⟨⟨low, high⟩, member, within⟩ := List.any_eq_true.mp other
    have above : ∀ range ∈ otherDigitRanges, 128 ≤ range.1 := by decide
    have least := above (low, high) member
    simp only [Bool.and_eq_true, decide_eq_true_eq] at within
    omega

theorem IsPlain.append {first second : String} (plain : IsPlain first) (other : IsPlain second) :
    IsPlain (first ++ second) := by
  intro c member
  rw [String.toList_append, List.mem_append] at member
  exact member.elim (plain c) (other c)

theorem isPlain_toString (n : Nat) : IsPlain (toString n) := by
  intro c member
  rw [Nat.toString_eq_repr, Nat.toList_repr] at member
  have digit := Nat.isDigit_of_mem_toDigits (by decide) (by decide) member
  simp only [Char.isDigit, Bool.and_eq_true, decide_eq_true_eq] at digit
  have bound : c.toNat ≤ 57 := digit.2
  omega

theorem mem_of_mem_splitOn {separator c : Char} {text part : List Char}
    (member : part ∈ text.splitOn separator) (inPart : c ∈ part) : c ∈ text := by
  induction text generalizing part with
  | nil =>
    rw [List.splitOn_nil, List.mem_singleton] at member
    exact member ▸ inPart
  | cons first rest ih =>
    rw [List.splitOn_cons_eq_if_modifyHead] at member
    obtain ⟨head, tail, split⟩ := List.exists_cons_of_ne_nil (List.splitOn_ne_nil separator rest)
    rw [split] at member ih
    split at member
    · rcases List.mem_cons.mp member with empty | later
      · rw [empty] at inPart
        cases inPart
      · exact List.mem_cons_of_mem first (ih later inPart)
    · rcases List.mem_cons.mp member with longer | later
      · rw [longer] at inPart
        rcases List.mem_cons.mp inPart with same | inHead
        · exact same ▸ List.mem_cons_self
        · exact List.mem_cons_of_mem first (ih List.mem_cons_self inHead)
      · exact List.mem_cons_of_mem first (ih (List.mem_cons_of_mem head later) inPart)

theorem mem_of_mem_segments {path part : String} {c : Char} (member : part ∈ segments path)
    (inPart : c ∈ part.toList) : c ∈ path.toList := by
  obtain ⟨characters, kept, rfl⟩ := List.mem_map.mp member
  rw [String.toList_ofList] at inPart
  exact mem_of_mem_splitOn (List.mem_filter.mp kept).1 inPart

theorem segments_dot (first second : String) :
    segments (first ++ "." ++ second) = segments first ++ segments second := by
  simp [segments, List.splitOn_append_cons_self]

/-- Every odd number in a path is part of one of the names. -/
def TracesTo (names : String → Prop) (path : String) : Prop :=
  ∀ part ∈ segments path, IsOddNumber part → ∃ name, names name ∧ part ∈ segments name

variable {names : String → Prop}

theorem IsPlain.tracesTo {path : String} (plain : IsPlain path) : TracesTo names path := by
  intro part member odd
  have decimal : part.toList.all isDecimal = true := by
    refine List.all_eq_true.mpr fun c inPart => ?_
    have digit := List.all_eq_true.mp odd.1 c inPart
    exact isDecimal_of_isDigit (plain c (mem_of_mem_segments member inPart)) digit
  rw [odd.2] at decimal
  cases decimal

theorem TracesTo.ofList {text : List Char} (below : text.all (·.toNat < 128) = true) :
    TracesTo names (String.ofList text) :=
  (IsPlain.ofList below).tracesTo

theorem tracesTo_empty : TracesTo names "" :=
  .ofList rfl

theorem tracesTo_of_name {name : String} (given : names name) : TracesTo names name :=
  fun _ member _ => ⟨name, given, member⟩

theorem TracesTo.dot {first second : String} (traces : TracesTo names first)
    (other : TracesTo names second) : TracesTo names (first ++ "." ++ second) := by
  intro part member
  rw [segments_dot, List.mem_append] at member
  exact member.elim (traces part) (other part)

end BucketPlan
