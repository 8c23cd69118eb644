import BucketPlan.Proofs.Redaction.Assigned

namespace BucketPlan

namespace Redaction

/-- A pattern that keeps clear of rows of digits at both of its ends: a match never starts right
behind a digit, takes at least one character, and never ends right before a digit. -/
structure Pattern.IsApart (pattern : Pattern) : Prop where
  starts : ∀ {before text behind}, pattern before text = some behind → before.any isDecimal = false
  splits : ∀ {before text behind}, pattern before text = some behind →
    ∃ matched, matched ≠ [] ∧ text = matched ++ behind
  ends : ∀ {before text behind}, pattern before text = some behind →
    behind.head?.any isDecimal = false

section

variable {pattern : Pattern} {replacement : List Char} {before written : Option Char}
  {text : List Char}

/-- A row of digits that a text is in the middle of is copied to its end. -/
theorem takeWhile_substituteFrom (apart : pattern.IsApart) (within : before.any isDecimal = true) :
    (substituteFrom pattern replacement 0 before text).takeWhile isDecimal =
      text.takeWhile isDecimal := by
  induction text generalizing before with
  | nil => rfl
  | cons c rest ih =>
    have unmatched : pattern before (c :: rest) = none := by
      refine Option.eq_none_iff_forall_ne_some.mpr fun behind found => ?_
      rw [apart.starts found] at within
      cases within
    rw [substituteFrom, unmatched]
    cases digit : isDecimal c with
    | false =>
      rw [List.takeWhile_cons_of_neg (by simp [digit]), List.takeWhile_cons_of_neg (by simp [digit])]
    | true =>
      have onward : (some c).any isDecimal = true := digit
      rw [List.takeWhile_cons_of_pos digit, List.takeWhile_cons_of_pos digit, ih onward]

theorem isDecimal_of_startsAccount {c : Char} {rest : List Char}
    (starts : StartsAccount before (c :: rest)) : isDecimal c = true := by
  have twelve := starts.2
  cases digit : isDecimal c with
  | true => rfl
  | false =>
    rw [List.takeWhile_cons_of_neg (by simp [digit])] at twelve
    cases twelve

/-- What is left behind a match, after the rest of the match is skipped, does not start with a digit. -/
theorem Pattern.IsApart.head?_drop (apart : pattern.IsApart) {c : Char} {rest behind : List Char}
    (found : pattern before (c :: rest) = some behind) :
    (rest.drop (rest.length - behind.length)).head?.any isDecimal = false := by
  obtain ⟨matched, taken, split⟩ := apart.splits found
  obtain ⟨d, skipped, rfl⟩ := List.exists_cons_of_ne_nil taken
  have passed : rest = skipped ++ behind := (List.cons.inj split).2
  rw [passed, List.length_append, Nat.add_sub_cancel, List.drop_left]
  exact apart.ends found

/-- Substitution makes no account number: where one starts in the result, one starts in the text, and
there the pattern does not match. What was written last and what was read last only have to agree on
being a digit, and only in front of a digit. -/
theorem somewhere_startsAccount (apart : pattern.IsApart)
    (plain : replacement.any isDecimal = false) {skip : Nat}
    (agree : (text.drop skip).head?.any isDecimal = true →
      skip = 0 ∧ written.any isDecimal = before.any isDecimal)
    (found : Somewhere StartsAccount written (substituteFrom pattern replacement skip before text)) :
    Somewhere (fun before text => StartsAccount before text ∧ pattern before text = none) before text := by
  induction text generalizing skip before written with
  | nil => exact absurd found id
  | cons c rest ih =>
    cases skip with
    | succ skip => exact Or.inr (ih (fun digit => absurd (agree digit).1 (Nat.succ_ne_zero _)) found)
    | zero =>
      cases matched : pattern before (c :: rest) with
      | some behind =>
        rw [substituteFrom, matched] at found
        rcases somewhere_append.mp found with ⟨passed, d, others, split, here⟩ | later
        · have digit := isDecimal_of_startsAccount here
          exact absurd digit (List.any_eq_false.mp plain d (by simp [split]))
        · have clear := apart.head?_drop matched
          refine Or.inr (ih (fun digit => ?_) later)
          rw [clear] at digit
          cases digit
      | none =>
        rw [substituteFrom, matched] at found
        rcases found with here | later
        · have digit := isDecimal_of_startsAccount here
          have copied : (substituteFrom pattern replacement 0 (some c) rest).takeWhile isDecimal = _ :=
            takeWhile_substituteFrom apart digit
          refine Or.inl ⟨⟨?_, ?_⟩, matched⟩
          · rw [← (agree digit).2]
            exact here.1
          · have twelve := here.2
            rwa [List.takeWhile_cons_of_pos digit, copied, ← List.takeWhile_cons_of_pos digit] at twelve
        · exact Or.inr (ih (fun _ => ⟨rfl, rfl⟩) later)

end

section

variable {before : Option Char} {text behind : List Char}

theorem afterAccount?_eq_some_iff :
    afterAccount? text = some behind ↔
      ∃ digits, digits.length = 12 ∧ (∀ c ∈ digits, isDecimal c = true) ∧ text = digits ++ behind := by
  rw [afterAccount?]
  constructor
  · intro found
    split at found
    · rename_i twelve
      cases found
      exact ⟨text.take 12, twelve.1, List.all_eq_true.mp twelve.2, (List.take_append_drop 12 text).symm⟩
    · cases found
  · rintro ⟨digits, twelve, all, rfl⟩
    have taken : (digits ++ behind).take 12 = digits := by rw [← twelve, List.take_left]
    rw [if_pos ⟨by rw [taken, twelve], by rw [taken]; exact List.all_eq_true.mpr all⟩, ← twelve,
      List.drop_left]

theorem accountId_eq_some_iff :
    accountId before text = some behind ↔
      before.any isDecimal = false ∧ behind.head?.any isDecimal = false ∧
        afterAccount? text = some behind := by
  rw [accountId]
  cases before.any isDecimal with
  | true => simp
  | false =>
    cases afterAccount? text with
    | none => simp
    | some rest =>
      simp only [Bool.false_eq_true, if_false, Option.some.injEq, true_and]
      constructor
      · intro found
        split at found
        · cases found
        · rename_i clear
          cases found
          exact ⟨Bool.eq_false_iff.mpr clear, rfl⟩
      · rintro ⟨clear, rfl⟩
        rw [if_neg (Bool.eq_false_iff.mp clear)]

/-- Where an account number starts, it is found. -/
theorem accountId_of_startsAccount (starts : StartsAccount before text) :
    accountId before text = some (text.dropWhile isDecimal) := by
  refine accountId_eq_some_iff.mpr ⟨starts.1, head?_dropWhile_any, afterAccount?_eq_some_iff.mpr ?_⟩
  exact ⟨text.takeWhile isDecimal, starts.2, List.all_eq_true.mp List.all_takeWhile,
    List.takeWhile_append_dropWhile.symm⟩

theorem accountId_isApart : Pattern.IsApart accountId where
  starts found := (accountId_eq_some_iff.mp found).1
  ends found := (accountId_eq_some_iff.mp found).2.1
  splits found := by
    obtain ⟨digits, twelve, _, split⟩ := afterAccount?_eq_some_iff.mp (accountId_eq_some_iff.mp found).2.2
    refine ⟨digits, fun none => ?_, split⟩
    rw [none] at twelve
    cases twelve

theorem assignment_isApart (name : String) : (assignment name).IsApart where
  starts found :=
    any_isDecimal_of_covers isWordChar_of_isDecimal (assignment_eq_some_iff.mp found).1
  splits found := by
    obtain ⟨_, word, said, _, rfl, assigns⟩ := assignment_eq_some_iff.mp found
    obtain ⟨c, rest, rfl, _⟩ := assigns.starts
    exact ⟨word ++ c :: rest, by simp, (List.append_assoc ..).symm⟩
  ends found := by
    obtain ⟨_, _, _, _, _, assigns⟩ := assignment_eq_some_iff.mp found
    exact any_isDecimal_of_covers
      (fun digit => isValueChar_of_isWordChar (isWordChar_of_isDecimal digit)) assigns.endsValue

end

section

variable {text : List Char}

theorem redactAddresses_clean (text : List Char) :
    ¬Somewhere StartsAccount none (redactAddresses text) := by
  intro found
  have left := somewhere_startsAccount accountId_isApart (by decide +kernel) (fun _ => ⟨rfl, rfl⟩) found
  refine not_somewhere (fun before text here => ?_) left
  rw [accountId_of_startsAccount here.1] at here
  cases here.2

theorem redactField_clean {name : String} (plain : name.toList.any isDecimal = false)
    (clean : ¬Somewhere StartsAccount none text) :
    ¬Somewhere StartsAccount none (redactField text name) := by
  intro found
  have added : ": [REDACTED]".toList.any isDecimal = false := by decide +kernel
  have covered : (name ++ ": [REDACTED]").toList.any isDecimal = false := by
    rw [String.toList_append, List.any_append, plain, added, Bool.or_false]
  have left := somewhere_startsAccount (assignment_isApart name) covered (fun _ => ⟨rfl, rfl⟩) found
  exact clean (left.imp fun _ _ here => here.1)

theorem redactFields_clean {names : List String} (among : ∀ name ∈ names, name ∈ sensitiveFields)
    (clean : ¬Somewhere StartsAccount none text) :
    ¬Somewhere StartsAccount none (redactFields names text) := by
  have plain : ∀ name ∈ sensitiveFields, name.toList.any isDecimal = false := by decide +kernel
  rw [redactFields]
  induction names generalizing text with
  | nil => exact clean
  | cons name rest ih =>
    obtain ⟨first, others⟩ := List.forall_mem_cons.mp among
    exact ih others (redactField_clean (plain name first) clean)

end

end Redaction

/-- No text tells an account or a key once it is redacted, in whatever order. -/
theorem redactIn_clean {order : List String} (arranged : order.Perm Redaction.sensitiveFields)
    (text : String) : ¬Exposes (redactIn order text) := by
  refine not_exposes ?_
  rw [redactIn, String.toList_ofList, Redaction.redactInOrder]
  exact Redaction.redactFields_clean (fun _ => arranged.mem_iff.mp) (Redaction.redactAddresses_clean _)

end BucketPlan
