import BucketPlan.Proofs.Redaction.Rows

namespace BucketPlan

namespace Redaction

variable {pattern : Pattern} {replacement : List Char} {before : Option Char}
  {passed text behind : List Char}

theorem substituteFrom_of_none {c : Char} (unmatched : pattern before (c :: text) = none) :
    substituteFrom pattern replacement 0 before (c :: text) =
      c :: substituteFrom pattern replacement 0 (some c) text := by
  rw [substituteFrom, unmatched]

theorem substituteFrom_skip {skipped : List Char} :
    substituteFrom pattern replacement skipped.length before (skipped ++ behind) =
      substituteFrom pattern replacement 0 (skipped.getLast?.or before) behind := by
  induction skipped generalizing before with
  | nil => rfl
  | cons c skipped ih =>
    rw [getLast?_cons_or, ← ih]
    rfl

theorem substituteFrom_of_some {matched : List Char} (taken : matched ≠ [])
    (found : pattern before (matched ++ behind) = some behind) :
    substituteFrom pattern replacement 0 before (matched ++ behind) =
      replacement ++ substituteFrom pattern replacement 0 matched.getLast? behind := by
  obtain ⟨c, skipped, rfl⟩ := List.exists_cons_of_ne_nil taken
  have left : (skipped ++ behind).length - behind.length = skipped.length := by
    rw [List.length_append, Nat.add_sub_cancel]
  have last : (c :: skipped).getLast?.or none = skipped.getLast?.or (some c) := getLast?_cons_or c skipped
  rw [Option.or_none] at last
  rw [List.cons_append] at found ⊢
  rw [substituteFrom, found, last, ← substituteFrom_skip, ← left]

/-- The pattern matches at no place of the first text, when the second one stands behind it. -/
def Spares (pattern : Pattern) : (before : Option Char) → (passed behind : List Char) → Prop
  | _, [], _ => True
  | before, c :: passed, behind =>
    pattern before (c :: passed ++ behind) = none ∧ Spares pattern (some c) passed behind

/-- What a pattern spares is copied. -/
theorem Spares.substituteFrom_eq (spared : Spares pattern before passed behind) :
    substituteFrom pattern replacement 0 before (passed ++ behind) =
      passed ++ substituteFrom pattern replacement 0 (passed.getLast?.or before) behind := by
  induction passed generalizing before with
  | nil => rfl
  | cons c passed ih =>
    rw [getLast?_cons_or, List.cons_append, List.cons_append, ← ih spared.2]
    exact substituteFrom_of_none spared.1

theorem spares_append {first second : List Char} :
    Spares pattern before (first ++ second) behind ↔
      Spares pattern before first (second ++ behind) ∧
        Spares pattern (first.getLast?.or before) second behind := by
  induction first generalizing before with
  | nil => exact (iff_of_eq (true_and _)).symm
  | cons c first ih =>
    rw [getLast?_cons_or, List.cons_append, Spares, Spares, ih, and_assoc, List.cons_append,
      List.append_assoc, List.cons_append]

theorem Spares.at_place {c : Char} (spared : Spares pattern before (passed ++ c :: text) behind) :
    pattern (passed.getLast?.or before) (c :: text ++ behind) = none :=
  (spares_append.mp spared).2.1

theorem spares_of_not_somewhere
    (nowhere : ¬Somewhere (fun before text => (pattern before text).isSome) before text) :
    Spares pattern before text [] := by
  induction text generalizing before with
  | nil => trivial
  | cons c text ih =>
    rw [Somewhere, not_or, Bool.not_eq_true, Option.isSome_eq_false_iff, Option.isNone_iff_eq_none]
      at nowhere
    exact ⟨by rw [List.append_nil, nowhere.1], ih nowhere.2⟩

theorem Somewhere.flatten {found : Option Char → List Char → Prop}
    (somewhere : Somewhere (Somewhere found) before text) : Somewhere found before text := by
  induction text generalizing before with
  | nil => exact somewhere
  | cons c text ih => exact somewhere.elim id fun later => Or.inr (ih later)

/-- Where not all of some patterns spare a text, there is a first place at which one of them
matches. -/
theorem spares_or_first {ι : Type} (patterns : ι → Pattern) (among : ι → Prop) (before : Option Char)
    (passed behind : List Char) :
    (∀ i, among i → Spares (patterns i) before passed behind) ∨
      ∃ front c rest, passed = front ++ c :: rest ∧
        (∀ i, among i → Spares (patterns i) before front (c :: rest ++ behind)) ∧
        ∃ i, among i ∧ ∃ after,
          patterns i (front.getLast?.or before) (c :: rest ++ behind) = some after := by
  induction passed generalizing before with
  | nil => exact Or.inl fun _ _ => trivial
  | cons c passed ih =>
    by_cases here : ∀ i, among i → patterns i before (c :: passed ++ behind) = none
    · rcases ih (some c) with clear | ⟨front, d, rest, rfl, clear, i, member, after, found⟩
      · exact Or.inl fun i member => ⟨here i member, clear i member⟩
      · refine Or.inr ⟨c :: front, d, rest, rfl, fun j other => ⟨?_, clear j other⟩,
          i, member, after, ?_⟩
        · simpa only [List.cons_append, List.append_assoc] using here j other
        · rwa [getLast?_cons_or]
    · obtain ⟨i, unspared⟩ := Classical.not_forall.mp here
      obtain ⟨member, matched⟩ := Classical.not_imp.mp unspared
      obtain ⟨after, found⟩ := Option.ne_none_iff_exists'.mp matched
      exact Or.inr ⟨[], c, passed, rfl, fun _ _ => trivial, i, member, after, found⟩

/-- A text that the replacement cannot have contributed to, its first character not occurring
there, was read as it was written. -/
theorem append_of_substituteFrom_eq {first : Char} {others : List Char} (foreign : first ∉ passed)
    (written : substituteFrom pattern (first :: others) 0 before text = passed ++ behind) :
    ∃ rest, text = passed ++ rest ∧
      substituteFrom pattern (first :: others) 0 (passed.getLast?.or before) rest = behind := by
  induction passed generalizing before text with
  | nil => exact ⟨text, rfl, written⟩
  | cons c passed ih =>
    cases text with
    | nil => cases written
    | cons d text =>
      rw [substituteFrom] at written
      split at written
      · rw [List.cons_append, List.cons_append, List.cons.injEq] at written
        exact absurd (written.1 ▸ List.mem_cons_self) foreign
      · rw [List.cons_append, List.cons.injEq] at written
        obtain ⟨rfl, later⟩ := written
        obtain ⟨rest, rfl, same⟩ := ih (List.not_mem_of_not_mem_cons foreign) later
        exact ⟨rest, rfl, by rwa [getLast?_cons_or]⟩

end Redaction

end BucketPlan
