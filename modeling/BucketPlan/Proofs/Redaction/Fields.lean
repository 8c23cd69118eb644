import BucketPlan.Proofs.Redaction.Assigned
import BucketPlan.Proofs.Redaction.Substitution

namespace BucketPlan

namespace Redaction

section

variable {name other : String} {before : Option Char} {text behind word : List Char}

theorem isWordChar_of_isSameLetter {letter c : Char} (ofLetter : isWordChar letter = true)
    (same : isSameLetter letter c = true) : isWordChar c = true := by
  have listed (low high : Nat) (range : (low, high) ∈ wordRanges) (above : low ≤ c.toNat)
      (below : c.toNat ≤ high) : isWordChar c = true :=
    List.any_eq_true.mpr ⟨(low, high), range, by simp [above, below]⟩
  simp only [isSameLetter, Bool.or_eq_true, Bool.and_eq_true, beq_iff_eq] at same
  rcases same with ((lower | ⟨-, kelvin⟩) | ⟨-, long⟩) | ⟨-, dotted | dotless⟩
  · by_cases capital : 'A'.val ≤ c.val ∧ c.val ≤ 'Z'.val
    · exact listed 65 90 (by decide) capital.1 capital.2
    · have same : c.toLower = c := dif_neg capital
      rw [← same, lower, ofLetter]
  · exact listed 8490 8493 (by decide) (by omega) (by omega)
  · exact listed 248 705 (by decide) (by omega) (by omega)
  · exact listed 248 705 (by decide) (by omega) (by omega)
  · exact listed 248 705 (by decide) (by omega) (by omega)

theorem isWordChar_of_areLettersOf (member : name ∈ sensitiveFields)
    (spelled : AreLettersOf name.toList word) : ∀ c ∈ word, isWordChar c = true := by
  have plain : ∀ name ∈ sensitiveFields, name.toList.all isWordChar = true := by decide
  have letters := List.all_eq_true.mp (plain name member)
  generalize name.toList = letters at spelled letters
  induction spelled with
  | nil => exact fun _ none => absurd none List.not_mem_nil
  | cons same _ ih =>
    obtain ⟨first, others⟩ := List.forall_mem_cons.mp letters
    exact List.forall_mem_cons.mpr ⟨isWordChar_of_isSameLetter first same, ih others⟩

theorem ne_nil_of_areLettersOf (member : name ∈ sensitiveFields)
    (spelled : AreLettersOf name.toList word) : word ≠ [] := by
  have some : ∀ name ∈ sensitiveFields, name.toList ≠ [] := by decide
  rintro rfl
  exact some name member (List.forall₂_nil_right_iff.mp spelled)

/-- No two of the names have the same length, so a word is at most one of them. -/
theorem eq_of_areLettersOf (member : name ∈ sensitiveFields) (others : other ∈ sensitiveFields)
    (spelled : AreLettersOf name.toList word) (again : AreLettersOf other.toList word) :
    name = other := by
  have apart : ∀ name ∈ sensitiveFields, ∀ other ∈ sensitiveFields,
      name.toList.length = other.toList.length → name = other := by decide
  exact apart name member other others (spelled.length_eq.trans again.length_eq.symm)

theorem areLettersOf_self (member : name ∈ sensitiveFields) :
    AreLettersOf name.toList name.toList := by
  have plain : ∀ name ∈ sensitiveFields, name.toList.all (fun c => isSameLetter c c) = true := by
    decide
  exact List.forall₂_same.mpr (List.all_eq_true.mp (plain name member))

theorem Assigns.head?_isWordChar {said : List Char} (assigns : Assigns said behind) :
    (said ++ behind).head?.any isWordChar = false := by
  obtain ⟨c, rest, rfl, separates⟩ := assigns.starts
  exact isWordChar_of_isSeparator separates

theorem EndsValue.head?_isWordChar (ends : EndsValue text) : text.head?.any isWordChar = false := by
  cases text with
  | nil => rfl
  | cons c rest =>
    cases wordChar : isWordChar c with
    | false => exact wordChar
    | true =>
      have value := isValueChar_of_isWordChar wordChar
      have none : isValueChar c = false := ends
      rw [value] at none
      cases none

theorem assignment_within_word (within : before.any isWordChar = true) :
    assignment name before text = none := by
  rw [assignment, if_pos within]

/-- A field is assigned where its name is the whole word at a place and something follows that can be
read as a value. -/
theorem assignment_eq_some_iff_of_mem (member : name ∈ sensitiveFields) :
    assignment name before text = some behind ↔
      before.any isWordChar = false ∧ AreLettersOf name.toList (text.takeWhile isWordChar) ∧
        afterAssignment? (text.dropWhile isWordChar) = some behind := by
  rw [assignment_eq_some_iff]
  refine and_congr_right fun _ => ?_
  constructor
  · rintro ⟨word, said, spelled, rfl, assigns⟩
    have letters := isWordChar_of_areLettersOf member spelled
    rw [takeWhile_append_of_head letters assigns.head?_isWordChar,
      dropWhile_append_of_head letters assigns.head?_isWordChar]
    exact ⟨spelled, assigns.afterAssignment?⟩
  · rintro ⟨spelled, found⟩
    obtain ⟨said, split, assigns⟩ := afterAssignment?_eq_some_iff.mp found
    exact ⟨_, said, spelled, by rw [← split, List.takeWhile_append_dropWhile], assigns⟩

theorem assignment_isSome_iff (member : name ∈ sensitiveFields) :
    (assignment name before text).isSome ↔
      before.any isWordChar = false ∧ AreLettersOf name.toList (text.takeWhile isWordChar) ∧
        (afterAssignment? (text.dropWhile isWordChar)).isSome := by
  simp only [Option.isSome_iff_exists, assignment_eq_some_iff_of_mem member, exists_and_left]

theorem assignment_of_head (member : name ∈ sensitiveFields)
    (between : text.head?.any isWordChar = false) : assignment name before text = none := by
  refine Option.eq_none_iff_forall_ne_some.mpr fun behind found => ?_
  have spelled := ((assignment_eq_some_iff_of_mem member).mp found).2.1
  rw [takeWhile_of_head between] at spelled
  exact ne_nil_of_areLettersOf member spelled rfl

/-- Where one field is assigned, no other one is. -/
theorem assignment_of_other (member : name ∈ sensitiveFields) (others : other ∈ sensitiveFields)
    (differ : other ≠ name) (spelled : AreLettersOf name.toList (text.takeWhile isWordChar)) :
    assignment other before text = none := by
  refine Option.eq_none_iff_forall_ne_some.mpr fun behind found => ?_
  have again := ((assignment_eq_some_iff_of_mem others).mp found).2.1
  exact differ (eq_of_areLettersOf others member again spelled)

theorem eq_of_assignment (member : name ∈ sensitiveFields) (others : other ∈ sensitiveFields)
    {after : List Char} (found : assignment name before text = some behind)
    (again : assignment other before text = some after) : name = other ∧ behind = after := by
  have spelled := ((assignment_eq_some_iff_of_mem member).mp found).2.1
  have same := eq_of_areLettersOf member others spelled
    ((assignment_eq_some_iff_of_mem others).mp again).2.1
  subst same
  exact ⟨rfl, Option.some.inj (found.symm.trans again)⟩

theorem assignment_endsValue (found : assignment name before text = some behind) :
    EndsValue behind := by
  obtain ⟨_, _, _, _, _, assigns⟩ := assignment_eq_some_iff.mp found
  exact assigns.endsValue

theorem spares_within_word (letters : ∀ c ∈ word, isWordChar c = true)
    (within : before.any isWordChar = true) : Spares (assignment name) before word behind := by
  induction word generalizing before with
  | nil => trivial
  | cons c word ih =>
    obtain ⟨first, others⟩ := List.forall_mem_cons.mp letters
    exact ⟨assignment_within_word within, ih others first⟩

theorem spares_between_words (member : name ∈ sensitiveFields) {passed : List Char}
    (between : ∀ c ∈ passed, isWordChar c = false) :
    Spares (assignment name) before passed behind := by
  induction passed generalizing before with
  | nil => trivial
  | cons c passed ih =>
    obtain ⟨first, others⟩ := List.forall_mem_cons.mp between
    exact ⟨assignment_of_head member first, ih others⟩

theorem spares_separators (member : name ∈ sensitiveFields) {separators : List Char}
    (separate : ∀ c ∈ separators, isSeparator c = true) :
    Spares (assignment name) before separators behind :=
  spares_between_words member fun c at' => isWordChar_of_isSeparator (separate c at')

/-- A whole word that is another name. -/
theorem spares_other_word (member : name ∈ sensitiveFields) (others : other ∈ sensitiveFields)
    (differ : other ≠ name) (spelled : AreLettersOf name.toList word)
    (ends : behind.head?.any isWordChar = false) :
    Spares (assignment other) before word behind := by
  have letters := isWordChar_of_areLettersOf member spelled
  have whole := takeWhile_append_of_head letters ends
  cases word with
  | nil => trivial
  | cons c rest =>
    refine ⟨assignment_of_other member others differ (by rwa [whole]), ?_⟩
    obtain ⟨first, later⟩ := List.forall_mem_cons.mp letters
    exact spares_within_word later first

/-- What stands in place of a value. -/
def mask : List Char :=
  " [REDACTED]".toList

/-- What stands in place of an assignment. -/
def mark (name : String) : List Char :=
  name.toList ++ ':' :: mask

/-- The word in the mask is none of the names. -/
theorem spares_mask (member : name ∈ sensitiveFields) :
    Spares (assignment name) before mask behind := by
  have parts : mask = [' ', '['] ++ (['R', 'E', 'D', 'A', 'C', 'T', 'E', 'D'] ++ [']']) := by
    decide
  have lengths : ∀ name ∈ sensitiveFields, name.toList.length ≠ 8 := by decide
  have letters : ∀ c ∈ ['R', 'E', 'D', 'A', 'C', 'T', 'E', 'D'], isWordChar c = true :=
    List.all_eq_true.mp (by decide)
  have blank : isWordChar ' ' = false := isWordChar_of_mem_signs (by decide)
  have opening : isWordChar '[' = false := isWordChar_of_mem_signs (by decide)
  have closing : isWordChar ']' = false := isWordChar_of_mem_signs (by decide)
  have stops : ([']'] ++ behind).head?.any isWordChar = false := by
    rw [List.singleton_append, List.head?_cons, Option.any_some, closing]
  have foreign : assignment name (some '[')
      (['R', 'E', 'D', 'A', 'C', 'T', 'E', 'D'] ++ ([']'] ++ behind)) = none := by
    refine Option.eq_none_iff_forall_ne_some.mpr fun behind found => ?_
    have spelled := ((assignment_eq_some_iff_of_mem member).mp found).2.1
    rw [takeWhile_append_of_head letters stops] at spelled
    exact lengths name member spelled.length_eq
  rw [parts]
  refine spares_append.mpr ⟨spares_between_words member (by simp [blank, opening]), ?_⟩
  refine spares_append.mpr ⟨⟨foreign, ?_⟩, spares_between_words member (by simp [closing])⟩
  obtain ⟨first, others⟩ := List.forall_mem_cons.mp letters
  exact spares_within_word others first

theorem spares_colon_mask (member : name ∈ sensitiveFields) :
    Spares (assignment name) before (':' :: mask) behind := by
  have colon : isWordChar ':' = false := isWordChar_of_mem_signs (by decide)
  refine ⟨assignment_of_head member ?_, spares_mask member⟩
  rw [List.cons_append, List.head?_cons, Option.any_some, colon]

theorem spares_mark (member : name ∈ sensitiveFields) (others : other ∈ sensitiveFields)
    (differ : other ≠ name) : Spares (assignment other) before (mark name) behind := by
  have colon : isWordChar ':' = false := isWordChar_of_mem_signs (by decide)
  refine spares_append.mpr
    ⟨spares_other_word member others differ (areLettersOf_self member) ?_, spares_colon_mask others⟩
  rw [List.cons_append, List.head?_cons, Option.any_some, colon]

/-- A mark starts with a letter, and behind that it holds no assignment at all. -/
theorem mark_eq_cons (member : name ∈ sensitiveFields) :
    ∃ c rest, mark name = c :: rest ∧ isWordChar c = true ∧
      ∀ other ∈ sensitiveFields, ∀ behind, Spares (assignment other) (some c) rest behind := by
  have letters := isWordChar_of_areLettersOf member (areLettersOf_self member)
  obtain ⟨c, rest, split⟩ :=
    List.exists_cons_of_ne_nil (ne_nil_of_areLettersOf member (areLettersOf_self member))
  rw [split] at letters
  obtain ⟨first, others⟩ := List.forall_mem_cons.mp letters
  refine ⟨c, rest ++ ':' :: mask, by rw [mark, split, List.cons_append], first, fun other at' _ => ?_⟩
  exact spares_append.mpr ⟨spares_within_word others first, spares_colon_mask at'⟩

theorem assigns_mask {separators : List Char} (separate : ∀ c ∈ separators, isSeparator c = true)
    (ends : EndsValue behind) : Assigns (separators ++ mask) behind := by
  have parts : mask = ' ' :: '[' :: ['R', 'E', 'D', 'A', 'C', 'T', 'E', 'D', ']'] := by decide
  rw [parts, List.append_cons]
  refine .value (by simp) (fun c member => ?_) (by decide) (List.all_eq_true.mp (by decide)) ends
  rcases List.mem_append.mp member with early | last
  · exact separate c early
  · cases List.mem_singleton.mp last
    decide

theorem endsValue_mask : EndsValue (mask ++ behind) := by
  have parts : mask = [' '] ++ mask.tail := by decide
  rw [parts]
  exact isValueChar_of_isBlank (by decide)

theorem length_mask_append : (mask ++ behind).length = behind.length + 11 := by
  have some : mask.length = 11 := by decide
  rw [List.length_append, some, Nat.add_comm]

/-- Behind a mark stands what the field whose mark it is was assigned in front of. -/
theorem assignment_mark (member : name ∈ sensitiveFields) (outside : before.any isWordChar = false)
    (ends : EndsValue behind) : assignment name before (mark name ++ behind) = some behind := by
  have colon : ∀ c ∈ [':'], isSeparator c = true := List.all_eq_true.mp (by decide)
  refine assignment_eq_some_iff.mpr ⟨outside, name.toList, [':'] ++ mask, areLettersOf_self member, ?_,
    assigns_mask colon ends⟩
  rw [mark, List.append_assoc, List.singleton_append]

/-- A pass over a text that replaces the assignments of one field, from a place of the text on. -/
def redactFieldFrom (before : Option Char) (text : List Char) (name : String) : List Char :=
  substituteFrom (assignment name) (mark name) 0 before text

theorem redactField_eq (text : List Char) (name : String) :
    redactField text name = redactFieldFrom none text name := by
  have added : ": [REDACTED]".toList = ':' :: mask := by decide
  rw [redactField, substitute, redactFieldFrom, mark, String.toList_append, added]

theorem redactFieldFrom_of_none {c : Char} (unmatched : assignment name before (c :: text) = none) :
    redactFieldFrom before (c :: text) name = c :: redactFieldFrom (some c) text name :=
  substituteFrom_of_none unmatched

theorem Spares.redactFieldFrom_eq (spared : Spares (assignment name) before word behind) :
    redactFieldFrom before (word ++ behind) name =
      word ++ redactFieldFrom (word.getLast?.or before) behind name :=
  spared.substituteFrom_eq

/-- Between words it does not matter what stands before. -/
theorem redactFieldFrom_of_head (member : name ∈ sensitiveFields)
    (between : text.head?.any isWordChar = false) :
    redactFieldFrom before text name = redactFieldFrom none text name := by
  cases text with
  | nil => rfl
  | cons c text =>
    rw [redactFieldFrom_of_none (assignment_of_head member between),
      redactFieldFrom_of_none (assignment_of_head member between)]

theorem redactFieldFrom_of_some (member : name ∈ sensitiveFields)
    (found : assignment name before text = some behind) :
    redactFieldFrom before text name = mark name ++ redactFieldFrom none behind name := by
  have between := (assignment_endsValue found).head?_isWordChar
  obtain ⟨_, word, said, spelled, rfl, _⟩ := assignment_eq_some_iff.mp found
  rw [← List.append_assoc] at found ⊢
  have some : word ++ said ≠ [] :=
    List.append_ne_nil_of_left_ne_nil (ne_nil_of_areLettersOf member spelled) _
  rw [← redactFieldFrom_of_head member between]
  exact substituteFrom_of_some some found

/-- The first character stays the same, or else it is a letter before and after. -/
theorem any_head?_redactFieldFrom (member : name ∈ sensitiveFields) {isMember : Char → Bool}
    (uniform : ∀ {c d}, isWordChar c = true → isWordChar d = true → isMember c = isMember d) :
    (redactFieldFrom before text name).head?.any isMember = text.head?.any isMember := by
  cases text with
  | nil => rfl
  | cons c text =>
    cases found : assignment name before (c :: text) with
    | none =>
      rw [redactFieldFrom_of_none found]
      rfl
    | some behind =>
      obtain ⟨d, rest, split, letter, _⟩ := mark_eq_cons member
      rw [redactFieldFrom_of_some member found, split]
      refine uniform letter ?_
      cases letter : isWordChar c with
      | true => rfl
      | false =>
        have between : (c :: text).head?.any isWordChar = false := letter
        rw [assignment_of_head member between] at found
        cases found

theorem head?_isSeparator_redactFieldFrom (member : name ∈ sensitiveFields) :
    (redactFieldFrom before text name).head?.any isSeparator = text.head?.any isSeparator :=
  any_head?_redactFieldFrom member fun first second => by
    rw [isSeparator_of_isWordChar first, isSeparator_of_isWordChar second]

theorem head?_isValueChar_redactFieldFrom (member : name ∈ sensitiveFields) :
    (redactFieldFrom before text name).head?.any isValueChar = text.head?.any isValueChar :=
  any_head?_redactFieldFrom member fun first second => by
    rw [isValueChar_of_isWordChar first, isValueChar_of_isWordChar second]

theorem endsValue_redactFieldFrom (member : name ∈ sensitiveFields) :
    EndsValue (redactFieldFrom before text name) ↔ EndsValue text := by
  rw [EndsValue, EndsValue, head?_isValueChar_redactFieldFrom member]

/-- What is read behind a name is the same after a pass over what is left. -/
theorem Assigns.redactFieldFrom (member : name ∈ sensitiveFields) {said : List Char}
    (assigns : Assigns said behind) : Assigns said (redactFieldFrom before behind name) := by
  cases assigns with
  | value some separate starts valued ends =>
    exact .value some separate starts valued ((endsValue_redactFieldFrom member).mpr ends)
  | bare some separate last solid blank ends stops =>
    rw [(spares_separators member fun c at' => isSeparator_of_isBlank (blank c at')).redactFieldFrom_eq]
    refine .bare some separate last solid blank ((endsValue_redactFieldFrom member).mpr ends) ?_
    rw [head?_isSeparator_redactFieldFrom member, stops]

theorem isSome_afterAssignment?_congr {separators first second : List Char}
    (separate : ∀ c ∈ separators, isSeparator c = true) (stops : first.head?.any isSeparator = false)
    (also : second.head?.any isSeparator = false)
    (same : first.head?.any isValueChar = second.head?.any isValueChar) :
    (afterAssignment? (separators ++ first)).isSome = (afterAssignment? (separators ++ second)).isSome := by
  rw [afterAssignment?, afterAssignment?, takeWhile_append_of_head separate stops,
    dropWhile_append_of_head separate stops, takeWhile_append_of_head separate also,
    dropWhile_append_of_head separate also]
  dsimp only
  rw [same]
  split_ifs <;> rfl

theorem isSome_afterAssignment?_redactFieldFrom (member : name ∈ sensitiveFields) :
    (afterAssignment? (redactFieldFrom before text name)).isSome = (afterAssignment? text).isSome := by
  have split : text = text.takeWhile isSeparator ++ text.dropWhile isSeparator :=
    List.takeWhile_append_dropWhile.symm
  have separate : ∀ c ∈ text.takeWhile isSeparator, isSeparator c = true :=
    List.all_eq_true.mp List.all_takeWhile
  have stops : (text.dropWhile isSeparator).head?.any isSeparator = false := head?_dropWhile_any
  generalize text.takeWhile isSeparator = separators at split separate
  generalize text.dropWhile isSeparator = rest at split stops
  subst split
  rw [(spares_separators member separate).redactFieldFrom_eq]
  refine isSome_afterAssignment?_congr separate ?_ stops (head?_isValueChar_redactFieldFrom member)
  rw [head?_isSeparator_redactFieldFrom member, stops]

/-- A pass over what stands behind a character does not change which fields are assigned there. -/
theorem isSome_assignment_redactFieldFrom (member : name ∈ sensitiveFields)
    (others : other ∈ sensitiveFields) (before : Option Char) (c : Char) (text : List Char) :
    (assignment other before (c :: redactFieldFrom (some c) text name)).isSome =
      (assignment other before (c :: text)).isSome := by
  cases letter : isWordChar c with
  | false =>
    have between (rest : List Char) : (c :: rest).head?.any isWordChar = false := letter
    rw [assignment_of_head others (between _), assignment_of_head others (between _)]
  | true =>
    have split : text = text.takeWhile isWordChar ++ text.dropWhile isWordChar :=
      List.takeWhile_append_dropWhile.symm
    have letters : ∀ d ∈ text.takeWhile isWordChar, isWordChar d = true :=
      List.all_eq_true.mp List.all_takeWhile
    have stops : (text.dropWhile isWordChar).head?.any isWordChar = false := head?_dropWhile_any
    generalize text.takeWhile isWordChar = word at split letters
    generalize text.dropWhile isWordChar = rest at split stops
    subst split
    have within : (some c).any isWordChar = true := letter
    have onward :
        (redactFieldFrom (word.getLast?.or (some c)) rest name).head?.any isWordChar = false := by
      rw [any_head?_redactFieldFrom member fun first second => first.trans second.symm, stops]
    have whole : ∀ d ∈ c :: word, isWordChar d = true := List.forall_mem_cons.mpr ⟨letter, letters⟩
    rw [(spares_within_word letters within).redactFieldFrom_eq, ← List.cons_append, ← List.cons_append,
      Bool.eq_iff_iff, assignment_isSome_iff others, assignment_isSome_iff others,
      takeWhile_append_of_head whole onward, takeWhile_append_of_head whole stops,
      dropWhile_append_of_head whole onward, dropWhile_append_of_head whole stops,
      isSome_afterAssignment?_redactFieldFrom member]

theorem assignment_redactFieldFrom_of_none (member : name ∈ sensitiveFields)
    (others : other ∈ sensitiveFields) {c : Char} (unmatched : assignment other before (c :: text) = none) :
    assignment other before (c :: redactFieldFrom (some c) text name) = none := by
  have same := isSome_assignment_redactFieldFrom member others before c text
  rw [unmatched] at same
  exact Option.isNone_iff_eq_none.mp (Option.isSome_eq_false_iff.mp same)

/-- A text is read from left to right: at each place, one of the names is assigned and the reading
goes on behind its value, or none is and the reading goes on behind one character. -/
theorem reading_induction (names : List String) {motive : Option Char → List Char → Prop}
    (nil : ∀ before, motive before [])
    (kept : ∀ before c text, (∀ name ∈ names, assignment name before (c :: text) = none) →
      motive (some c) text → motive before (c :: text))
    (replaced : ∀ before text name behind, name ∈ names → assignment name before text = some behind →
      motive none behind → motive before text)
    (before : Option Char) (text : List Char) : motive before text := by
  induction length : text.length using Nat.strongRecOn generalizing before text with
  | _ size ih =>
    cases text with
    | nil => exact nil before
    | cons c text =>
      by_cases unmatched : ∀ name ∈ names, assignment name before (c :: text) = none
      · refine kept before c text unmatched (ih text.length ?_ _ _ rfl)
        rw [← length, List.length_cons]
        exact Nat.lt_succ_self _
      · obtain ⟨name, some⟩ := Classical.not_forall.mp unmatched
        obtain ⟨member, matched⟩ := Classical.not_imp.mp some
        obtain ⟨behind, found⟩ := Option.ne_none_iff_exists'.mp matched
        refine replaced before _ name behind member found (ih behind.length ?_ _ _ rfl)
        obtain ⟨_, word, said, _, split, assigns⟩ := assignment_eq_some_iff.mp found
        obtain ⟨d, rest, rfl, _⟩ := assigns.starts
        rw [← length, split]
        simp only [List.length_append, List.length_cons]
        omega

/-- What one field spares before and another one too, it still spares after the pass of the latter. -/
theorem Spares.redactFieldFrom (member : name ∈ sensitiveFields) (others : other ∈ sensitiveFields)
    {passed : List Char} (spared : Spares (assignment other) before passed behind)
    (also : Spares (assignment name) before passed behind) :
    Spares (assignment other) before passed
      (redactFieldFrom (passed.getLast?.or before) behind name) := by
  induction passed generalizing before with
  | nil => trivial
  | cons c passed ih =>
    rw [getLast?_cons_or]
    refine ⟨?_, ih spared.2 also.2⟩
    have first : assignment other before (c :: (passed ++ behind)) = none := spared.1
    have still := assignment_redactFieldFrom_of_none member others first
    rwa [also.2.redactFieldFrom_eq, ← List.cons_append] at still

theorem redactFieldFrom_mark (member : name ∈ sensitiveFields) (others : other ∈ sensitiveFields)
    (outside : before.any isWordChar = false) (ends : EndsValue behind) :
    redactFieldFrom before (mark name ++ behind) other =
      mark name ++ redactFieldFrom none behind other := by
  by_cases same : other = name
  · subst same
    rw [redactFieldFrom_of_some member (assignment_mark member outside ends)]
  · rw [(spares_mark member others same).redactFieldFrom_eq,
      redactFieldFrom_of_head others ends.head?_isWordChar]

theorem redactFieldFrom_mask (member : name ∈ sensitiveFields) (ends : EndsValue behind) :
    redactFieldFrom before (mask ++ behind) name = mask ++ redactFieldFrom none behind name := by
  rw [(spares_mask member).redactFieldFrom_eq, redactFieldFrom_of_head member ends.head?_isWordChar]

end

/-- The passes of some fields, one after the other, from a place of the text on. -/
def redactFieldsFrom (names : List String) (before : Option Char) (text : List Char) : List Char :=
  names.foldl (redactFieldFrom before) text

theorem redactFields_eq (names : List String) (text : List Char) :
    redactFields names text = redactFieldsFrom names none text := by
  have same : redactField = redactFieldFrom none := funext₂ redactField_eq
  rw [redactFields, redactFieldsFrom, same]

section

variable {names : List String} {before : Option Char} {text passed behind : List Char}

theorem endsValue_redactFieldsFrom (among : ∀ name ∈ names, name ∈ sensitiveFields) :
    EndsValue (redactFieldsFrom names before text) ↔ EndsValue text := by
  rw [redactFieldsFrom]
  induction names generalizing text with
  | nil => rfl
  | cons name names ih =>
    obtain ⟨member, others⟩ := List.forall_mem_cons.mp among
    rw [List.foldl_cons, ih others, endsValue_redactFieldFrom member]

/-- What no field is assigned at is copied by all passes. -/
theorem redactFieldsFrom_of_none (among : ∀ name ∈ names, name ∈ sensitiveFields) {c : Char}
    (unmatched : ∀ name ∈ names, assignment name before (c :: text) = none) :
    redactFieldsFrom names before (c :: text) = c :: redactFieldsFrom names (some c) text := by
  rw [redactFieldsFrom, redactFieldsFrom]
  induction names generalizing text with
  | nil => rfl
  | cons name names ih =>
    obtain ⟨member, others⟩ := List.forall_mem_cons.mp among
    obtain ⟨first, later⟩ := List.forall_mem_cons.mp unmatched
    rw [List.foldl_cons, List.foldl_cons, redactFieldFrom_of_none first, ih others]
    exact fun other at' =>
      assignment_redactFieldFrom_of_none member (others other at') (later other at')

/-- What each pass copies in front of the end of a value is copied by all of them. -/
theorem redactFieldsFrom_append (among : ∀ name ∈ names, name ∈ sensitiveFields)
    (copied : ∀ name ∈ sensitiveFields, ∀ {behind}, EndsValue behind →
      redactFieldFrom before (passed ++ behind) name = passed ++ redactFieldFrom none behind name)
    (ends : EndsValue behind) :
    redactFieldsFrom names before (passed ++ behind) =
      passed ++ redactFieldsFrom names none behind := by
  rw [redactFieldsFrom, redactFieldsFrom]
  induction names generalizing behind with
  | nil => rfl
  | cons name names ih =>
    obtain ⟨member, others⟩ := List.forall_mem_cons.mp among
    rw [List.foldl_cons, List.foldl_cons, copied name member ends,
      ih others ((endsValue_redactFieldFrom member).mpr ends)]

theorem redactFieldsFrom_mark (among : ∀ name ∈ names, name ∈ sensitiveFields) {name : String}
    (member : name ∈ sensitiveFields) (outside : before.any isWordChar = false)
    (ends : EndsValue behind) :
    redactFieldsFrom names before (mark name ++ behind) =
      mark name ++ redactFieldsFrom names none behind :=
  redactFieldsFrom_append among (fun _ others _ => redactFieldFrom_mark member others outside) ends

theorem redactFieldsFrom_mask (among : ∀ name ∈ names, name ∈ sensitiveFields)
    (ends : EndsValue behind) :
    redactFieldsFrom names before (mask ++ behind) = mask ++ redactFieldsFrom names none behind :=
  redactFieldsFrom_append among (fun _ member _ => redactFieldFrom_mask member) ends

/-- No pass brings a mask up in front of a text: a mark starts with a letter that masks lack. -/
theorem mask_of_redactFieldsFrom (among : ∀ name ∈ names, name ∈ sensitiveFields)
    (written : redactFieldsFrom names before text = mask ++ behind) (ends : EndsValue behind) :
    ∃ rest, text = mask ++ rest ∧ EndsValue rest := by
  have foreign : ∀ name ∈ sensitiveFields, (mark name).head?.all (fun c => !mask.contains c) = true := by
    decide
  rw [redactFieldsFrom] at written
  induction names generalizing text with
  | nil => exact ⟨behind, written, ends⟩
  | cons name names ih =>
    obtain ⟨member, others⟩ := List.forall_mem_cons.mp among
    obtain ⟨after, masked, stops⟩ := ih others written
    obtain ⟨c, letters, split, _⟩ := mark_eq_cons member
    have unlike : c ∉ mask := by
      have fits := foreign name member
      rw [split] at fits
      simpa using fits
    rw [redactFieldFrom, split] at masked
    obtain ⟨rest, rfl, same⟩ := append_of_substituteFrom_eq unlike masked
    refine ⟨rest, rfl, ?_⟩
    rwa [← same, ← split, ← redactFieldFrom, endsValue_redactFieldFrom member] at stops

/-- Whatever the orders, one does not just come to the mask before what the other one comes to. -/
theorem redactFieldsFrom_ne_mask {others : List String}
    (among : ∀ name ∈ names, name ∈ sensitiveFields) (also : ∀ name ∈ others, name ∈ sensitiveFields)
    (ends : EndsValue text) :
    redactFieldsFrom names none text ≠ mask ++ redactFieldsFrom others none text := by
  induction length : text.length using Nat.strongRecOn generalizing text with
  | _ size ih =>
    intro same
    obtain ⟨rest, rfl, stops⟩ :=
      mask_of_redactFieldsFrom among same ((endsValue_redactFieldsFrom also).mpr ends)
    rw [redactFieldsFrom_mask among stops, redactFieldsFrom_mask also stops] at same
    refine ih rest.length ?_ stops rfl (List.append_cancel_left same)
    rw [← length, length_mask_append]
    omega

end

end Redaction

end BucketPlan
