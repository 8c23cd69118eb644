import BucketPlan.Redaction

namespace BucketPlan

theorem exists_range_of_isDecimal {c : Char} (digit : isDecimal c = true) :
    ∃ range ∈ decimalRanges, range.1 ≤ c.toNat ∧ c.toNat ≤ range.2 := by
  rw [isDecimal, decimal?, Option.isSome_map, List.find?_isSome] at digit
  obtain ⟨range, member, inside⟩ := digit
  exact ⟨range, member, by simpa using inside⟩

theorem isWordChar_of_isDecimal {c : Char} (digit : isDecimal c = true) : isWordChar c = true := by
  have covered : (decimalRanges.all fun range => wordRanges.any fun wide =>
      wide.1.ble range.1 && range.2.ble wide.2) = true := by decide +kernel
  obtain ⟨range, member, low, high⟩ := exists_range_of_isDecimal digit
  obtain ⟨wide, inWords, around⟩ := List.any_eq_true.mp (List.all_eq_true.mp covered range member)
  obtain ⟨below, above⟩ := Bool.and_eq_true_iff.mp around
  have fromLow := Nat.le_of_ble_eq_true below
  have toHigh := Nat.le_of_ble_eq_true above
  refine List.any_eq_true.mpr ⟨wide, inWords, ?_⟩
  simp only [Bool.and_eq_true, decide_eq_true_eq]
  omega

theorem isBlank_of_isWordChar {c : Char} (word : isWordChar c = true) : isBlank c = false := by
  have disjoint : (wordRanges.all fun range => blankRanges.all fun blank =>
      blank.2.blt range.1 || range.2.blt blank.1) = true := by decide +kernel
  obtain ⟨range, member, inside⟩ := List.any_eq_true.mp word
  refine List.any_eq_false.mpr fun blank inBlanks => ?_
  have apart := List.all_eq_true.mp (List.all_eq_true.mp disjoint range member) blank inBlanks
  simp only [Bool.or_eq_true, Nat.blt_eq] at apart
  simp only [Bool.and_eq_true, decide_eq_true_eq] at inside ⊢
  omega

namespace Redaction

/-- The signs that patterns and replacements set between words. -/
def signs : List Char :=
  [' ', ',', ';', ')', ':', '=', '[', ']']

theorem isWordChar_of_mem_signs {c : Char} (sign : c ∈ signs) : isWordChar c = false := by
  have none : signs.any isWordChar = false := by decide +kernel
  exact Bool.eq_false_iff.mpr (List.any_eq_false.mp none c sign)

theorem beq_of_isWordChar {c d : Char} (word : isWordChar c = true) (sign : d ∈ signs) :
    (c == d) = false := by
  refine beq_false_of_ne fun same => ?_
  rw [same, isWordChar_of_mem_signs sign] at word
  cases word

theorem isValueChar_of_isWordChar {c : Char} (word : isWordChar c = true) :
    isValueChar c = true := by
  rw [isValueChar, isBlank_of_isWordChar word, beq_of_isWordChar word (by decide),
    beq_of_isWordChar word (by decide), beq_of_isWordChar word (by decide)]
  rfl

theorem isSeparator_of_isWordChar {c : Char} (word : isWordChar c = true) :
    isSeparator c = false := by
  rw [isSeparator, isBlank_of_isWordChar word, beq_of_isWordChar word (by decide),
    beq_of_isWordChar word (by decide)]
  rfl

theorem isWordChar_of_isSeparator {c : Char} (separates : isSeparator c = true) :
    isWordChar c = false := by
  cases word : isWordChar c with
  | false => rfl
  | true =>
    rw [isSeparator_of_isWordChar word] at separates
    cases separates

/-- Something that is found somewhere in a text, by the character before a place and the text from
there on. -/
def Somewhere (found : Option Char → List Char → Prop) : Option Char → List Char → Prop
  | _, [] => False
  | before, c :: rest => found before (c :: rest) ∨ Somewhere found (some c) rest

variable {found other : Option Char → List Char → Prop} {before : Option Char} {text : List Char}

theorem Somewhere.imp (weaker : ∀ before text, found before text → other before text)
    (somewhere : Somewhere found before text) : Somewhere other before text := by
  induction text generalizing before with
  | nil => exact somewhere
  | cons c rest ih =>
    rcases somewhere with here | later
    · exact Or.inl (weaker _ _ here)
    · exact Or.inr (ih later)

theorem not_somewhere (nowhere : ∀ before text, ¬found before text) : ¬Somewhere found before text := by
  induction text generalizing before with
  | nil => exact id
  | cons c rest ih => exact fun somewhere => somewhere.elim (nowhere _ _) ih

theorem getLast?_cons_or (c : Char) (text : List Char) :
    (c :: text).getLast?.or before = text.getLast?.or (some c) := by
  rw [List.getLast?_cons]
  cases text.getLast? <;> rfl

/-- What is found in a text with another one in front is found at a place of the first or in the
second. -/
theorem somewhere_append {first second : List Char} :
    Somewhere found before (first ++ second) ↔
      (∃ passed c rest, first = passed ++ c :: rest ∧
        found (passed.getLast?.or before) (c :: rest ++ second)) ∨
      Somewhere found (first.getLast?.or before) second := by
  induction first generalizing before with
  | nil => simp
  | cons c first ih =>
    rw [getLast?_cons_or, List.cons_append, Somewhere, ih, ← or_assoc]
    refine or_congr_left ⟨?_, ?_⟩
    · rintro (here | ⟨passed, d, rest, rfl, here⟩)
      · exact ⟨[], c, first, rfl, here⟩
      · refine ⟨c :: passed, d, rest, rfl, ?_⟩
        rwa [getLast?_cons_or]
    · rintro ⟨passed, d, rest, split, here⟩
      cases passed with
      | nil =>
        cases split
        exact Or.inl here
      | cons e passed =>
        cases split
        rw [getLast?_cons_or] at here
        exact Or.inr ⟨passed, d, rest, rfl, here⟩

/-- A row of exactly twelve digits starts here: no digit before it and none behind. -/
def StartsAccount (before : Option Char) (text : List Char) : Prop :=
  before.any isDecimal = false ∧ (text.takeWhile isDecimal).length = 12

theorem any_isDecimal_of_covers {isMember : Char → Bool}
    (covers : ∀ {c}, isDecimal c = true → isMember c = true) {c : Option Char}
    (none : c.any isMember = false) : c.any isDecimal = false := by
  cases c with
  | none => rfl
  | some c =>
    cases digit : isDecimal c with
    | false => exact digit
    | true =>
      have member : (some c).any isMember = true := covers digit
      rw [none] at member
      cases member

theorem takeWhile_of_head {isMember : Char → Bool} (none : text.head?.any isMember = false) :
    text.takeWhile isMember = [] := by
  cases text with
  | nil => rfl
  | cons c rest => exact List.takeWhile_cons_of_neg (by simpa using none)

theorem takeWhile_append_of_head {isMember : Char → Bool} {first second : List Char}
    (all : ∀ c ∈ first, isMember c = true) (stops : second.head?.any isMember = false) :
    (first ++ second).takeWhile isMember = first := by
  rw [List.takeWhile_append_of_pos all, takeWhile_of_head stops, List.append_nil]

theorem dropWhile_append_of_head {isMember : Char → Bool} {first second : List Char}
    (all : ∀ c ∈ first, isMember c = true) (stops : second.head?.any isMember = false) :
    (first ++ second).dropWhile isMember = second := by
  rw [List.dropWhile_append_of_pos all]
  cases second with
  | nil => rfl
  | cons c rest => exact List.dropWhile_cons_of_neg (by simpa using stops)

theorem head?_dropWhile_any {isMember : Char → Bool} :
    (text.dropWhile isMember).head?.any isMember = false := by
  induction text with
  | nil => rfl
  | cons c rest ih =>
    cases member : isMember c with
    | true => rwa [List.dropWhile_cons_of_pos member]
    | false =>
      rw [List.dropWhile_cons_of_neg (by simp [member])]
      exact member

end Redaction

/-- Somewhere in the text, twelve decimal digits in a row with no digit before them and none behind. -/
def HasAccountNumber (text : String) : Prop :=
  ∃ before account behind : List Char, text.toList = before ++ (account ++ behind) ∧
    account.length = 12 ∧ account.all isDecimal = true ∧
    before.getLast?.any isDecimal = false ∧ behind.head?.any isDecimal = false

/-- Somewhere in the text, the address of a managed key or of an alias for one. -/
def HasKeyAddress (text : String) : Prop :=
  ∃ before partition region account kind name behind : List Char,
    text.toList = before ++ "arn:aws".toList ++ partition ++ ":kms:".toList ++ region ++ ":".toList ++
      (account ++ (kind ++ name ++ behind)) ∧
    (partition.head?.all (· == '-') ∧ Redaction.isHyphenated false partition ∧
      partition.all fun c => Redaction.isLower c || c == '-') ∧
    region.all Redaction.isRegionChar ∧
    (account.length = 12 ∧ account.all isDecimal) ∧
    kind ∈ [":key/".toList, ":alias/".toList] ∧
    name ≠ [] ∧ name.all Redaction.isKeyChar

/-- Somewhere in the text, the address of a role. -/
def HasRoleAddress (text : String) : Prop :=
  ∃ before partition account name behind : List Char,
    text.toList = before ++ "arn:aws".toList ++ partition ++ ":iam::".toList ++
      (account ++ (":role/".toList ++ name ++ behind)) ∧
    (partition.head?.all (· == '-') ∧ Redaction.isHyphenated false partition ∧
      partition.all fun c => Redaction.isLower c || c == '-') ∧
    (account.length = 12 ∧ account.all isDecimal) ∧
    name ≠ [] ∧ name.all Redaction.isRoleChar

/-- The text tells an account or a key. -/
def Exposes (text : String) : Prop :=
  HasAccountNumber text ∨ HasKeyAddress text

theorem HasKeyAddress.hasAccountNumber {text : String} (address : HasKeyAddress text) :
    HasAccountNumber text := by
  obtain ⟨before, partition, region, account, kind, name, behind, split, _, _, ⟨twelve, digits⟩, among,
    _⟩ := address
  refine ⟨_, account, _, split, twelve, digits, ?_, ?_⟩
  · rw [List.getLast?_append]
    rfl
  · rcases List.mem_cons.mp among with rfl | other
    · rfl
    · cases List.mem_singleton.mp other
      rfl

theorem HasRoleAddress.hasAccountNumber {text : String} (address : HasRoleAddress text) :
    HasAccountNumber text := by
  obtain ⟨before, partition, account, name, behind, split, _, ⟨twelve, digits⟩, _⟩ := address
  refine ⟨_, account, _, split, twelve, digits, ?_, rfl⟩
  rw [List.getLast?_append]
  rfl

/-- The number of an account stands in the address of a key of it. -/
theorem exposes_iff {text : String} : Exposes text ↔ HasAccountNumber text :=
  ⟨fun exposed => exposed.elim id HasKeyAddress.hasAccountNumber, Or.inl⟩

theorem HasAccountNumber.somewhere {text : String} (number : HasAccountNumber text) :
    Redaction.Somewhere Redaction.StartsAccount none text.toList := by
  obtain ⟨before, account, behind, split, twelve, digits, clear, apart⟩ := number
  rw [split]
  refine Redaction.somewhere_append.mpr (Or.inr ?_)
  have row : ((account ++ behind).takeWhile isDecimal).length = 12 := by
    rw [Redaction.takeWhile_append_of_head (List.all_eq_true.mp digits) apart, twelve]
  cases account with
  | nil => cases twelve
  | cons c rest => exact Or.inl ⟨by rwa [Option.or_none], row⟩

theorem not_exposes {text : String}
    (nowhere : ¬Redaction.Somewhere Redaction.StartsAccount none text.toList) : ¬Exposes text :=
  fun exposed => nowhere (exposes_iff.mp exposed).somewhere

/-- It takes twelve digits to tell anything. -/
theorem not_exposes_of_few_digits {text : String} (few : text.toList.countP isDecimal < 12) :
    ¬Exposes text := by
  intro exposed
  obtain ⟨before, account, behind, split, twelve, digits, _⟩ := exposes_iff.mp exposed
  have all : account.countP isDecimal = 12 := by
    rw [List.countP_eq_length.mpr (List.all_eq_true.mp digits), twelve]
  rw [split, List.countP_append, List.countP_append, all] at few
  omega

end BucketPlan
