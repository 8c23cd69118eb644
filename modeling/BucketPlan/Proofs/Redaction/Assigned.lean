import BucketPlan.Proofs.Redaction.Rows
import Mathlib.Data.List.Forall2

namespace BucketPlan

namespace Redaction

section

variable {letters text behind : List Char}

/-- The letters of a word, regardless of case. -/
abbrev AreLettersOf (letters word : List Char) : Prop :=
  List.Forall₂ (fun letter c => isSameLetter letter c = true) letters word

theorem afterWord?_eq_some_iff :
    afterWord? letters text = some behind ↔
      ∃ word, AreLettersOf letters word ∧ text = word ++ behind := by
  induction letters generalizing text with
  | nil =>
    constructor
    · rintro ⟨⟩
      exact ⟨[], .nil, rfl⟩
    · rintro ⟨_, ⟨⟩, rfl⟩
      rfl
  | cons letter letters ih =>
    cases text with
    | nil =>
      constructor
      · rintro ⟨⟩
      · rintro ⟨_, ⟨⟩, split⟩
        cases split
    | cons c text =>
      rw [afterWord?]
      constructor
      · intro found
        split at found
        · rename_i same
          obtain ⟨word, spelled, rfl⟩ := ih.mp found
          exact ⟨c :: word, .cons same spelled, rfl⟩
        · cases found
      · rintro ⟨_, spelled, split⟩
        cases spelled with
        | @cons _ d _ word same spelled =>
          obtain ⟨rfl, rfl⟩ := List.cons.inj split
          rw [if_pos same]
          exact ih.mpr ⟨word, spelled, rfl⟩

/-- No value goes on in this text. -/
def EndsValue (text : List Char) : Prop :=
  text.head?.any isValueChar = false

/-- What is read behind a name and the text that is left behind it: separators and a value, or else
separators up to the last one that is no white space, which has to be another one than the first. -/
inductive Assigns : (said behind : List Char) → Prop
  | value {separators value behind : List Char} {c : Char} :
      separators ≠ [] → (∀ d ∈ separators, isSeparator d = true) → isSeparator c = false →
      (∀ d ∈ c :: value, isValueChar d = true) → EndsValue behind →
      Assigns (separators ++ c :: value) behind
  | bare {separators blanks rest : List Char} {last : Char} :
      separators ≠ [] → (∀ d ∈ separators, isSeparator d = true) → isSeparator last = true →
      isBlank last = false → (∀ d ∈ blanks, isBlank d = true) → EndsValue rest →
      rest.head?.any isSeparator = false → Assigns (separators ++ [last]) (blanks ++ rest)

theorem isSeparator_of_isBlank {c : Char} (blank : isBlank c = true) : isSeparator c = true := by
  rw [isSeparator, blank, Bool.or_true]

theorem isValueChar_of_isBlank {c : Char} (blank : isBlank c = true) : isValueChar c = false := by
  rw [isValueChar, blank]
  rfl

theorem Assigns.afterAssignment? {said : List Char} (assigns : Assigns said behind) :
    afterAssignment? (said ++ behind) = some behind := by
  cases assigns with
  | @value separators value _ c some separate starts holds ends =>
    have stops : (c :: value ++ behind).head?.any isSeparator = false := starts
    have first : (c :: value ++ behind).head?.any isValueChar = true := holds c List.mem_cons_self
    rw [Redaction.afterAssignment?, List.append_assoc, takeWhile_append_of_head separate stops,
      dropWhile_append_of_head separate stops]
    simp only [List.isEmpty_eq_false_iff.mpr some, Bool.false_eq_true, if_false]
    rw [if_pos first, dropWhile_append_of_head holds ends]
  | @bare separators blanks rest last some separate lastSeparates solid blank ends stops =>
    have separated : ∀ d ∈ separators ++ last :: blanks, isSeparator d = true := by
      intro d member
      rcases List.mem_append.mp member with early | late
      · exact separate d early
      · rcases List.mem_cons.mp late with rfl | white
        · exact lastSeparates
        · exact isSeparator_of_isBlank (blank d white)
    obtain ⟨c, others, rfl⟩ := List.exists_cons_of_ne_nil some
    have whole : c :: others ++ [last] ++ (blanks ++ rest) = c :: others ++ last :: blanks ++ rest := by
      simp
    have fromEnd : (others ++ last :: blanks).reverse = blanks.reverse ++ last :: others.reverse := by
      simp
    have white : ∀ d ∈ blanks.reverse, isBlank d = true := fun d member =>
      blank d (List.mem_reverse.mp member)
    have solidHead : (last :: others.reverse).head?.any isBlank = false := solid
    rw [Redaction.afterAssignment?, whole, takeWhile_append_of_head separated stops,
      dropWhile_append_of_head separated stops]
    simp only [List.cons_append, List.isEmpty_cons, Bool.false_eq_true, if_false, List.drop_one,
      List.tail_cons]
    rw [if_neg (Bool.eq_false_iff.mp ends), fromEnd, dropWhile_append_of_head white solidHead,
      takeWhile_append_of_head white solidHead, List.reverse_reverse]
    rfl

/-- Where not all of a row is white space, there is a last one that is none. -/
theorem exists_last_solid {row : List Char}
    (solid : ¬(row.reverse.dropWhile isBlank).isEmpty = true) :
    ∃ front last, row = front ++ last :: (row.reverse.takeWhile isBlank).reverse ∧
      isBlank last = false := by
  have split : row.reverse = row.reverse.takeWhile isBlank ++ row.reverse.dropWhile isBlank :=
    List.takeWhile_append_dropWhile.symm
  have stops : (row.reverse.dropWhile isBlank).head?.any isBlank = false := head?_dropWhile_any
  cases kept : row.reverse.dropWhile isBlank with
  | nil => exact absurd (by rw [kept]; rfl) solid
  | cons last front =>
    rw [kept] at split stops
    refine ⟨front.reverse, last, ?_, stops⟩
    calc row = row.reverse.reverse := (List.reverse_reverse row).symm
      _ = (row.reverse.takeWhile isBlank ++ last :: front).reverse := congrArg List.reverse split
      _ = front.reverse ++ last :: (row.reverse.takeWhile isBlank).reverse := by simp

theorem afterAssignment?_eq_some_iff :
    afterAssignment? text = some behind ↔ ∃ said, text = said ++ behind ∧ Assigns said behind := by
  refine ⟨fun found => ?_, fun ⟨_, split, assigns⟩ => split ▸ assigns.afterAssignment?⟩
  have whole : text = text.takeWhile isSeparator ++ text.dropWhile isSeparator :=
    List.takeWhile_append_dropWhile.symm
  have separate : ∀ c ∈ text.takeWhile isSeparator, isSeparator c = true :=
    List.all_eq_true.mp List.all_takeWhile
  have stops : (text.dropWhile isSeparator).head?.any isSeparator = false := head?_dropWhile_any
  rw [afterAssignment?] at found
  generalize text.takeWhile isSeparator = separators at found whole separate
  generalize text.dropWhile isSeparator = rest at found whole stops
  dsimp only at found
  cases separators with
  | nil => cases found
  | cons separator others =>
    rw [if_neg (by simp)] at found
    split at found
    · rename_i valued
      cases found
      cases rest with
      | nil => cases valued
      | cons c value =>
        have first : isValueChar c = true := valued
        rw [List.dropWhile_cons_of_pos first]
        refine ⟨separator :: others ++ c :: value.takeWhile isValueChar, ?_,
          .value (List.cons_ne_nil _ _) separate stops ?_ head?_dropWhile_any⟩
        · rw [List.append_assoc, ← List.takeWhile_cons_of_pos first, ← List.dropWhile_cons_of_pos first,
            List.takeWhile_append_dropWhile, whole]
        · exact List.forall_mem_cons.mpr ⟨first, List.all_eq_true.mp List.all_takeWhile⟩
    · rename_i valueless
      split at found
      · cases found
      · rename_i solid
        cases found
        rw [List.drop_one, List.tail_cons] at solid ⊢
        have blank : ∀ c ∈ (others.reverse.takeWhile isBlank).reverse, isBlank c = true := fun c member =>
          List.all_eq_true.mp List.all_takeWhile c (List.mem_reverse.mp member)
        obtain ⟨front, last, split, solidLast⟩ := exists_last_solid solid
        generalize (others.reverse.takeWhile isBlank).reverse = blanks at split blank
        subst split
        refine ⟨separator :: front ++ [last], by rw [whole]; simp,
          .bare (List.cons_ne_nil _ _) (fun c member => separate c (List.mem_append_left _ member))
            (separate last (List.mem_append_right (separator :: front) List.mem_cons_self)) solidLast
            blank (Bool.eq_false_iff.mpr valueless) stops⟩

theorem EndsValue.of_blanks {blanks : List Char} (blank : ∀ c ∈ blanks, isBlank c = true)
    (ends : EndsValue text) : EndsValue (blanks ++ text) := by
  cases blanks with
  | nil => exact ends
  | cons c _ => exact isValueChar_of_isBlank (blank c List.mem_cons_self)

theorem Assigns.endsValue {said : List Char} (assigns : Assigns said behind) : EndsValue behind := by
  cases assigns with
  | value _ _ _ _ ends => exact ends
  | bare _ _ _ _ blank ends _ => exact ends.of_blanks blank

/-- What is read behind a name starts with a separator. -/
theorem Assigns.starts {said : List Char} (assigns : Assigns said behind) :
    ∃ c rest, said = c :: rest ∧ isSeparator c = true := by
  cases assigns with
  | value some separate | bare some separate =>
    obtain ⟨c, rest, rfl⟩ := List.exists_cons_of_ne_nil some
    exact ⟨c, _, rfl, separate c List.mem_cons_self⟩

theorem assignment_eq_some_iff {name : String} {before : Option Char} :
    assignment name before text = some behind ↔
      before.any isWordChar = false ∧ ∃ word said, AreLettersOf name.toList word ∧
        text = word ++ (said ++ behind) ∧ Assigns said behind := by
  rw [assignment]
  cases before.any isWordChar with
  | true => simp
  | false =>
    simp only [Bool.false_eq_true, if_false, Option.bind_eq_some_iff, afterWord?_eq_some_iff,
      afterAssignment?_eq_some_iff, true_and]
    constructor
    · rintro ⟨_, ⟨word, spelled, rfl⟩, said, rfl, assigns⟩
      exact ⟨word, said, spelled, rfl, assigns⟩
    · rintro ⟨word, said, spelled, rfl, assigns⟩
      exact ⟨_, ⟨word, spelled, rfl⟩, said, rfl, assigns⟩

end

end Redaction

end BucketPlan
