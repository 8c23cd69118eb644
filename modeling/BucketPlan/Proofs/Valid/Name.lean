import Mathlib.Data.List.Basic
import BucketPlan.Proofs.Record
import BucketPlan.Proofs.Valid.Replication
import BucketPlan.Settings.Name

namespace BucketPlan

namespace BucketName

/-- A letter in lower case, or a digit, of plain writing. -/
def IsLetterOrDigit (c : Char) : Prop :=
  ('a' ≤ c ∧ c ≤ 'z') ∨ ('0' ≤ c ∧ c ≤ '9')

def IsGroup (text : List Char) : Prop :=
  1 ≤ text.length ∧ text.length ≤ 3 ∧ ∀ c ∈ text, '0' ≤ c ∧ c ≤ '9'

/-- Four groups of one to three digits between dots, as the address of a machine is written. -/
def IsDottedQuad (text : List Char) : Prop :=
  ∃ a b c d, (IsGroup a ∧ IsGroup b ∧ IsGroup c ∧ IsGroup d) ∧
    text = a ++ '.' :: (b ++ '.' :: (c ++ '.' :: d))

/-- The rules for the spelling of a name, its length apart. -/
structure IsRegular (text : List Char) : Prop where
  characters : ∀ c ∈ text, IsLetterOrDigit c ∨ c = '.' ∨ c = '-'
  first : ∀ c ∈ text.head?, IsLetterOrDigit c
  last : ∀ c ∈ text.getLast?, IsLetterOrDigit c
  dots : ¬['.', '.'] <:+: text
  address : ¬IsDottedQuad text

def HasLegalLength (name : String) : Prop :=
  3 ≤ name.length ∧ name.length ≤ 63

def IsLegal (name : String) : Prop :=
  HasLegalLength name ∧ IsRegular name.toList

/-- The names that the check lets pass: besides the legal ones those of the right length that end in a
line break after a regular spelling. -/
def IsAccepted (name : String) : Prop :=
  HasLegalLength name ∧
    (IsRegular name.toList ∨ ∃ stem, name.toList = stem ++ ['\n'] ∧ IsRegular stem)

theorem isLetterOrDigit_iff {c : Char} : isLetterOrDigit c = true ↔ IsLetterOrDigit c := by
  simp [isLetterOrDigit, IsLetterOrDigit]

theorem isNameChar_iff {c : Char} : isNameChar c = true ↔ IsLetterOrDigit c ∨ c = '.' ∨ c = '-' := by
  simp [isNameChar, isLetterOrDigit_iff, or_assoc]

theorem isWellFormed_iff {text : List Char} (long : 2 ≤ text.length) :
    isWellFormed text = true ↔ (∀ c ∈ text, IsLetterOrDigit c ∨ c = '.' ∨ c = '-') ∧
      (∀ c ∈ text.head?, IsLetterOrDigit c) ∧ ∀ c ∈ text.getLast?, IsLetterOrDigit c := by
  have nonempty : text ≠ [] := List.ne_nil_of_length_pos (by omega)
  obtain ⟨first, atHead⟩ := Option.ne_none_iff_exists'.mp (mt List.head?_eq_none_iff.mp nonempty)
  obtain ⟨last, atEnd⟩ := Option.ne_none_iff_exists'.mp (mt List.getLast?_eq_none_iff.mp nonempty)
  simp [isWellFormed, long, atHead, atEnd, isNameChar_iff, isLetterOrDigit_iff, and_assoc]

theorem isAddressGroup_iff {text : List Char} : isAddressGroup text = true ↔ IsGroup text := by
  simp [isAddressGroup, IsGroup, and_assoc]

theorem IsGroup.dotless {text : List Char} (group : IsGroup text) : '.' ∉ text := by
  intro member
  have digit := (group.2.2 '.' member).1
  exact absurd digit (by decide)

/-- Splitting at dots and joining with dots undo each other on groups, which hold no dots. -/
theorem isAddress_iff {text : List Char} : isAddress text = true ↔ IsDottedQuad text := by
  rw [isAddress, Bool.and_eq_true, beq_iff_eq, List.all_eq_true]
  constructor
  · rintro ⟨four, groups⟩
    have joined : ['.'].intercalate (text.splitOn '.') = text := List.intercalate_splitOn '.'
    obtain ⟨a, rest, split⟩ := List.exists_cons_of_length_eq_add_one four
    rw [split] at four joined groups
    obtain ⟨b, c, d, rfl⟩ := List.length_eq_three.mp (Nat.succ.inj four)
    simp only [List.forall_mem_cons, isAddressGroup_iff] at groups
    refine ⟨a, b, c, d, ⟨groups.1, groups.2.1, groups.2.2.1, groups.2.2.2.1⟩, ?_⟩
    simpa [List.intercalate, List.intersperse] using joined.symm
  · rintro ⟨a, b, c, d, groups, rfl⟩
    obtain ⟨inA, inB, inC, inD⟩ := groups
    have dotless : ∀ group ∈ [a, b, c, d], '.' ∉ group := by
      simp [inA.dotless, inB.dotless, inC.dotless, inD.dotless]
    have split := List.splitOn_intercalate '.' dotless (List.cons_ne_nil _ _)
    have joined : ['.'].intercalate [a, b, c, d] = a ++ '.' :: (b ++ '.' :: (c ++ '.' :: d)) := by
      simp [List.intercalate, List.intersperse]
    rw [joined] at split
    rw [split]
    simp [isAddressGroup_iff, inA, inB, inC, inD]

theorem not_isLetterOrDigit_break : ¬IsLetterOrDigit '\n' := by
  unfold IsLetterOrDigit
  decide

/-- A line break at the end adds no pair of dots. -/
theorem hasDoubleDot_withoutFinalBreak (text : List Char) :
    hasDoubleDot (withoutFinalBreak text) = hasDoubleDot text := by
  unfold withoutFinalBreak
  split
  · rename_i broken
    obtain ⟨stem, rfl⟩ := List.getLast?_eq_some_iff.mp broken
    have noSuffix : ¬['.', '.'] <:+ stem ++ ['\n'] := by
      rintro ⟨before, same⟩
      rw [List.append_cons] at same
      exact absurd (List.append_inj_right' same rfl) (by decide)
    rw [List.dropLast_concat, Bool.eq_iff_iff, hasDoubleDot, hasDoubleDot, occursIn_iff, occursIn_iff,
      List.infix_concat_iff]
    exact (or_iff_right noSuffix).symm
  · rfl

/-- What stands before a line break at the end is all that the spelling is judged by. -/
theorem isRegular_withoutFinalBreak {text : List Char} :
    IsRegular (withoutFinalBreak text) ↔
      IsRegular text ∨ ∃ stem, text = stem ++ ['\n'] ∧ IsRegular stem := by
  unfold withoutFinalBreak
  split
  · rename_i broken
    obtain ⟨stem, rfl⟩ := List.getLast?_eq_some_iff.mp broken
    have irregular : ¬IsRegular (stem ++ ['\n']) := fun regular =>
      not_isLetterOrDigit_break (regular.last '\n' (by simp))
    rw [List.dropLast_concat]
    constructor
    · exact fun regular => Or.inr ⟨stem, rfl, regular⟩
    · rintro (regular | ⟨other, same, regular⟩)
      · exact absurd regular irregular
      · rwa [(List.append_inj_left' same rfl)]
  · rename_i unbroken
    refine ⟨Or.inl, fun regular => regular.resolve_right ?_⟩
    rintro ⟨stem, rfl, _⟩
    exact unbroken (by simp)

theorem withoutFinalBreak_length_ge (text : List Char) :
    text.length ≤ (withoutFinalBreak text).length + 1 := by
  unfold withoutFinalBreak
  split
  · rw [List.length_dropLast]
    omega
  · omega

theorem isRegular_iff {text : List Char} (long : 2 ≤ text.length) :
    IsRegular text ↔ isWellFormed text = true ∧ hasDoubleDot text = false ∧ isAddress text = false := by
  rw [isWellFormed_iff long, ← Bool.not_eq_true, ← Bool.not_eq_true, hasDoubleDot, occursIn_iff,
    isAddress_iff]
  constructor
  · intro regular
    exact ⟨⟨regular.characters, regular.first, regular.last⟩, regular.dots, regular.address⟩
  · rintro ⟨⟨characters, first, last⟩, dots, address⟩
    exact ⟨characters, first, last, dots, address⟩

variable {name : String}

/-- A name that is there is let pass or warned of, and it is let pass exactly when it is accepted. -/
theorem findings_cases (given : name ≠ "") :
    (IsAccepted name ∧ findings (some name) = []) ∨
      (¬IsAccepted name ∧ ∃ message, findings (some name) =
        Scope.warning { area := "name" } "" .outOfRange message) := by
  have filled : isFilled (some name) = true := by simpa [isFilled] using given
  rw [findings, if_pos filled, Option.getD_some]
  by_cases outside : name.toList.length < 3 ∨ 63 < name.toList.length
  · refine Or.inr ⟨fun accepted => ?_, _, if_pos outside⟩
    have legal := accepted.1
    rw [HasLegalLength, ← String.length_toList] at legal
    omega
  · have legal : HasLegalLength name := by
      rw [HasLegalLength, ← String.length_toList]
      omega
    have shorter := withoutFinalBreak_length_ge name.toList
    have long : 2 ≤ (withoutFinalBreak name.toList).length := by omega
    have regular := isRegular_iff long
    have accepted : IsAccepted name ↔ IsRegular (withoutFinalBreak name.toList) := by
      rw [isRegular_withoutFinalBreak, IsAccepted, and_iff_right legal]
    rw [accepted, regular, hasDoubleDot_withoutFinalBreak, if_neg outside]
    cases isWellFormed (withoutFinalBreak name.toList) <;> cases hasDoubleDot name.toList <;>
      cases isAddress (withoutFinalBreak name.toList) <;> simp

/-- What the check of a name adds to a log: nothing for an accepted name, one warning for any other one,
and one error for an empty name, unless an error stands at its path already. -/
theorem record_findings (name : String) (log : Log) :
    if name = "" then
      log.record (findings (some name)) = if log.hasErrorAt "name" then log
        else log ++ [⟨"name", "", "", .requiresField, "bucket name is required", .error⟩]
    else
      (log.record (findings (some name)) = log ↔ IsAccepted name) ∧
        (IsAccepted name ∨ ∃ message, log.record (findings (some name)) =
          log ++ [⟨"name", "", "", .outOfRange, message, .warning⟩]) := by
  split
  · rename_i empty
    rw [empty]
    rfl
  · rename_i given
    rcases findings_cases given with ⟨accepted, silent⟩ | ⟨unaccepted, message, warned⟩
    · rw [silent, Log.record_nil]
      exact ⟨iff_of_true rfl accepted, Or.inl accepted⟩
    · have added : log.record (findings (some name)) =
          log ++ [⟨"name", "", "", .outOfRange, message, .warning⟩] := by
        rw [warned]
        rfl
      rw [added]
      exact ⟨iff_of_false (by simp) unaccepted, Or.inr ⟨message, rfl⟩⟩

/-- A line break after a name of three letters is let pass, although no name holds a line break. -/
theorem findings_finalBreak : findings (some "abc\n") = [] ∧ ¬IsLegal "abc\n" := by
  refine ⟨by decide +kernel, fun legal => ?_⟩
  rcases legal.2.characters '\n' (by decide) with known | dot | hyphen
  · exact not_isLetterOrDigit_break known
  · cases dot
  · cases hyphen

end BucketName

end BucketPlan
