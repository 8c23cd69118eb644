import BucketPlan.Proofs.Redaction.Overlap
import BucketPlan.Proofs.Redaction.Settled

namespace BucketPlan

namespace Redaction

section

variable {name other : String} {before : Option Char} {text behind after front word tail : List Char}

/-- In what is read as the name and the value of one field, another field is assigned, and it is not
that just a mask stands between the ends of their values. -/
def Clashes (before : Option Char) (text : List Char) : Prop :=
  ∃ name ∈ sensitiveFields, ∃ other ∈ sensitiveFields, other ≠ name ∧
    ∃ behind passed inner after : List Char,
      assignment name before text = some behind ∧ text = passed ++ inner ∧
      behind.length < inner.length ∧
      assignment other (passed.getLast?.or before) inner = some after ∧ behind ≠ mask ++ after

/-- A text in which fields clash somewhere, when it is read from left to right and the reading goes
on behind the value of each field that is assigned. What stands before does not matter behind a
value, since a value never ends within a word. -/
inductive IsEntangled : (before : Option Char) → (text : List Char) → Prop
  | here {before : Option Char} {text : List Char} : Clashes before text → IsEntangled before text
  | behind {before : Option Char} {text behind : List Char} {name : String} :
      name ∈ sensitiveFields → assignment name before text = some behind →
      IsEntangled none behind → IsEntangled before text
  | later {before : Option Char} {c : Char} {text : List Char} :
      (∀ name ∈ sensitiveFields, assignment name before (c :: text) = none) →
      IsEntangled (some c) text → IsEntangled before (c :: text)

theorem Overlap.clashes (overlap : Overlap name other before front word tail behind after)
    (member : name ∈ sensitiveFields) (apart : behind ≠ mask ++ after) :
    Clashes before (front ++ (word ++ (tail ++ behind))) := by
  refine ⟨name, member, other, overlap.member, overlap.differ, behind, front, _, after,
    overlap.assignment_name, rfl, ?_, overlap.assignment_other, apart⟩
  have some := List.length_pos_iff.mpr (ne_nil_of_areLettersOf overlap.member overlap.spelled)
  simp only [List.length_append]
  omega

/-- Behind the first letter of a name, up to a mask, there is no other name. -/
theorem Overlap.spares_behind_letter {another : String} {c : Char} {letters : List Char}
    (overlap : Overlap name other before front (c :: letters) tail (mask ++ after) after)
    (member : another ∈ sensitiveFields) :
    Spares (assignment another) (some c) (letters ++ tail) (mask ++ after) := by
  obtain ⟨letter, others⟩ :=
    List.forall_mem_cons.mp (isWordChar_of_areLettersOf overlap.member overlap.spelled)
  exact spares_append.mpr ⟨spares_within_word others letter, spares_separators member overlap.separate⟩

/-- A place of a text is in front of another one, at it or behind it. -/
theorem place_cases {passed later rest : List Char} {c d : Char}
    (split : front ++ c :: later = passed ++ d :: rest) :
    (∃ begun, front = passed ++ d :: begun ∧ rest = begun ++ c :: later) ∨
      (passed = front ∧ d :: rest = c :: later) ∨
      ∃ begun, passed = front ++ c :: begun ∧ later = begun ++ d :: rest := by
  rcases List.append_eq_append_iff.mp split with ⟨begun, rfl, whole⟩ | ⟨begun, rfl, whole⟩
  · cases begun with
    | nil => exact Or.inr (Or.inl ⟨List.append_nil _, whole.symm⟩)
    | cons e begun =>
      obtain ⟨rfl, rfl⟩ := List.cons.inj whole
      exact Or.inr (Or.inr ⟨begun, rfl, rfl⟩)
  · cases begun with
    | nil => exact Or.inr (Or.inl ⟨(List.append_nil _).symm, whole⟩)
    | cons e begun =>
      obtain ⟨rfl, rfl⟩ := List.cons.inj whole
      exact Or.inl ⟨begun, rfl, rfl⟩

theorem Stands.not_clashes (member : name ∈ sensitiveFields) (stands : Stands name before text behind) :
    ¬Clashes before text := by
  rintro ⟨first, among, other, others, differ, left, passed, inner, later, found, split, within, again,
    apart⟩
  obtain ⟨rfl, rfl⟩ := eq_of_assignment member among stands.assignment found
  cases stands with
  | @alone matched _ _ clear =>
    obtain ⟨c, rest, rfl, rfl⟩ := place_of_append split within
    cases (clear other others differ).at_place.symm.trans again
  | @naming _ front word tail after overlap =>
    obtain ⟨d, letters, rfl⟩ :=
      List.exists_cons_of_ne_nil (ne_nil_of_areLettersOf overlap.member overlap.spelled)
    have whole : (front ++ d :: (letters ++ tail)) ++ (mask ++ after) = passed ++ inner := by
      rw [← split]
      simp only [List.append_assoc, List.cons_append]
    obtain ⟨c, rest, place, rfl⟩ := place_of_append whole within
    rcases place_cases place with ⟨begun, rfl, rfl⟩ | ⟨rfl, same⟩ | ⟨begun, rfl, onward⟩
    · have none := (overlap.first other others differ).at_place
      simp only [List.append_assoc, List.cons_append] at none again
      cases none.symm.trans again
    · have named := overlap.assignment_other
      rw [same, List.cons_append, List.append_assoc, ← List.cons_append] at again
      exact apart (by rw [(eq_of_assignment overlap.member others named again).2])
    · have spared := overlap.spares_behind_letter others
      rw [onward] at spared
      have last : (front ++ d :: begun).getLast?.or before = begun.getLast?.or (some d) := by
        rw [List.getLast?_append, Option.or_assoc, ← getLast?_cons_or]
      rw [last] at again
      cases spared.at_place.symm.trans again

theorem redactFieldsFrom_cons (names : List String) :
    redactFieldsFrom (name :: names) before text =
      redactFieldsFrom names before (redactFieldFrom before text name) := rfl

/-- Where the pass of the one field comes first, its mark takes the place of its value and of all
that is said of the other in it. -/
theorem redactFieldsFrom_name_first {names : List String} (member : name ∈ sensitiveFields)
    (among : ∀ name ∈ names, name ∈ sensitiveFields)
    (found : assignment name before text = some behind) :
    redactFieldsFrom (name :: names) before text =
      mark name ++ redactFieldsFrom (name :: names) none behind := by
  have outside := (assignment_eq_some_iff.mp found).1
  have ends : EndsValue (redactFieldFrom none behind name) :=
    (endsValue_redactFieldFrom member).mpr (assignment_endsValue found)
  rw [redactFieldsFrom_cons, redactFieldsFrom_cons, redactFieldFrom_of_some member found,
    redactFieldsFrom_mark among member outside ends]

/-- Where the pass of the other field comes first, its mask is left behind the mark of the one. -/
theorem Overlap.redactFieldsFrom_other_first {names : List String} (member : name ∈ sensitiveFields)
    (among : ∀ name ∈ names, name ∈ sensitiveFields)
    (overlap : Overlap name other before front word tail behind after) :
    redactFieldsFrom (other :: name :: names) before (front ++ (word ++ (tail ++ behind))) =
      mark name ++ (mask ++ redactFieldsFrom (other :: name :: names) none after) := by
  have spared := overlap.first other overlap.member overlap.differ
  have found := overlap.assignment_other
  have ends : EndsValue (redactFieldFrom none after other) :=
    (endsValue_redactFieldFrom overlap.member).mpr (assignment_endsValue found)
  have outside := (assignment_eq_some_iff.mp overlap.assignment_name).1
  have ofNames : ∀ another ∈ name :: names, another ∈ sensitiveFields :=
    List.forall_mem_cons.mpr ⟨member, among⟩
  -- the mark of the other field, whose colon ends the value, stands in the value now
  have still : assignment name before (front ++ (mark other ++ redactFieldFrom none after other)) =
      some (mask ++ redactFieldFrom none after other) := by
    have colon : ∀ c ∈ [':'], isValueChar c = true := List.all_eq_true.mp (by decide)
    rw [mark, List.append_assoc]
    exact overlap.opens.assignment overlap.member (areLettersOf_self overlap.member) colon endsValue_mask
  rw [redactFieldsFrom_cons, spared.redactFieldFrom_eq, redactFieldFrom_of_some overlap.member found,
    redactFieldsFrom_name_first member among still, redactFieldsFrom_mask ofNames ends,
    redactFieldsFrom_cons (name :: names)]

theorem Overlap.orders_differ {names : List String} (member : name ∈ sensitiveFields)
    (among : ∀ name ∈ names, name ∈ sensitiveFields)
    (overlap : Overlap name other before front word tail behind after)
    (apart : behind ≠ mask ++ after) :
    redactFieldsFrom (name :: other :: names) before (front ++ (word ++ (tail ++ behind))) ≠
      redactFieldsFrom (other :: name :: names) before (front ++ (word ++ (tail ++ behind))) := by
  have oneFirst : ∀ another ∈ other :: names, another ∈ sensitiveFields :=
    List.forall_mem_cons.mpr ⟨overlap.member, among⟩
  have first : ∀ another ∈ name :: other :: names, another ∈ sensitiveFields :=
    List.forall_mem_cons.mpr ⟨member, oneFirst⟩
  have second : ∀ another ∈ other :: name :: names, another ∈ sensitiveFields :=
    List.forall_mem_cons.mpr ⟨overlap.member, List.forall_mem_cons.mpr ⟨member, among⟩⟩
  rw [redactFieldsFrom_name_first member oneFirst overlap.assignment_name,
    overlap.redactFieldsFrom_other_first member among]
  intro same
  have masked := List.append_cancel_left same
  have ends := assignment_endsValue overlap.assignment_other
  obtain ⟨rest, rfl, stops⟩ :=
    mask_of_redactFieldsFrom first masked ((endsValue_redactFieldsFrom second).mpr ends)
  rcases afterAssignment?_mask overlap.value stops overlap.assigned with ⟨_, rfl⟩ | rfl
  · exact apart rfl
  · exact redactFieldsFrom_ne_mask first second ends masked

theorem isEntangled_of_none {c : Char}
    (unmatched : ∀ name ∈ sensitiveFields, assignment name before (c :: text) = none) :
    IsEntangled before (c :: text) ↔ IsEntangled (some c) text := by
  refine ⟨fun entangled => ?_, .later unmatched⟩
  cases entangled with
  | here clash =>
    obtain ⟨name, member, _, _, _, behind, _, _, _, found, _⟩ := clash
    cases (unmatched name member).symm.trans found
  | behind member found => cases (unmatched _ member).symm.trans found
  | later _ entangled => exact entangled

theorem Stands.isEntangled_iff (member : name ∈ sensitiveFields)
    (stands : Stands name before text behind) : IsEntangled before text ↔ IsEntangled none behind := by
  refine ⟨fun entangled => ?_, .behind member stands.assignment⟩
  cases entangled with
  | here clash => exact absurd clash (stands.not_clashes member)
  | behind others found entangled =>
    rwa [(eq_of_assignment member others stands.assignment found).2]
  | later unmatched _ => cases (unmatched name member).symm.trans stands.assignment

theorem redactFieldsFrom_nil (names : List String) : redactFieldsFrom names before [] = [] := by
  induction names with
  | nil => rfl
  | cons name names ih => exact ih

theorem not_isEntangled_nil : ¬IsEntangled before [] := by
  intro entangled
  cases entangled with
  | here clash =>
    obtain ⟨name, member, _, _, _, _, _, _, _, found, _⟩ := clash
    cases (assignment_of_head member rfl).symm.trans found
  | behind member found => cases (assignment_of_head member rfl).symm.trans found

/-- All orders of the fields come to the same exactly in a text in which no fields are entangled. -/
theorem redactFieldsFrom_agree_iff :
    (∀ first second : List String, first.Perm sensitiveFields → second.Perm sensitiveFields →
        redactFieldsFrom first before text = redactFieldsFrom second before text) ↔
      ¬IsEntangled before text := by
  have among {order : List String} (arranged : order.Perm sensitiveFields) :
      ∀ name ∈ order, name ∈ sensitiveFields := fun _ => arranged.mem_iff.mp
  induction before, text using reading_induction sensitiveFields with
  | nil before => simp only [redactFieldsFrom_nil, not_isEntangled_nil, not_false_iff, implies_true]
  | kept before c text unmatched ih =>
    have copied {order : List String} (arranged : order.Perm sensitiveFields) :
        redactFieldsFrom order before (c :: text) = c :: redactFieldsFrom order (some c) text :=
      redactFieldsFrom_of_none (among arranged) fun name member =>
        unmatched name (arranged.mem_iff.mp member)
    rw [isEntangled_of_none unmatched]
    refine Iff.trans (forall₄_congr fun first second arranged rearranged => ?_) ih
    rw [copied arranged, copied rearranged, List.cons.injEq, and_iff_right rfl]
  | replaced before text name behind member found ih =>
    rcases stands_or_overlap member found with
      stands | ⟨other, front, word, tail, after, rfl, overlap, apart⟩
    · have marked {order : List String} (arranged : order.Perm sensitiveFields) :
          redactFieldsFrom order before text = mark name ++ redactFieldsFrom order none behind :=
        stands.redactFieldsFrom (among arranged) (arranged.mem_iff.mpr member)
      rw [stands.isEntangled_iff member]
      refine Iff.trans (forall₄_congr fun first second arranged rearranged => ?_) ih
      rw [marked arranged, marked rearranged, List.append_cancel_left_eq]
    · refine iff_of_false (fun agree => ?_)
        (not_not_intro (.here (overlap.clashes member apart)))
      have others : other ∈ sensitiveFields.erase name :=
        (List.mem_erase_of_ne overlap.differ).mpr overlap.member
      have arranged : (name :: other :: (sensitiveFields.erase name).erase other).Perm sensitiveFields :=
        (((List.perm_cons_erase others).symm).cons name).trans (List.perm_cons_erase member).symm
      exact overlap.orders_differ member (fun another at' =>
        List.mem_of_mem_erase (List.mem_of_mem_erase at')) apart
        (agree _ _ arranged ((List.Perm.swap ..).trans arranged))

end

end Redaction

/-- Redaction comes to the same in all orders of the sensitive fields exactly for a message in which,
once the addresses and account numbers are redacted, no fields are entangled. -/
theorem redactIn_agree_iff (message : String) :
    (∀ first second : List String, first.Perm Redaction.sensitiveFields →
        second.Perm Redaction.sensitiveFields → redactIn first message = redactIn second message) ↔
      ¬Redaction.IsEntangled none (Redaction.redactAddresses message.toList) := by
  rw [← Redaction.redactFieldsFrom_agree_iff]
  refine forall₄_congr fun first second _ _ => ?_
  rw [redactIn, redactIn, String.ofList_inj, Redaction.redactInOrder, Redaction.redactInOrder,
    Redaction.redactFields_eq, Redaction.redactFields_eq]

/-- The alias of a key stands behind the names of two fields. -/
def vaultAlias : String :=
  "kms_master_key_id: replica_kms_key_id: alias/vault"

theorem redactIn_vaultAlias_differs :
    redact vaultAlias = "kms_master_key_id: [REDACTED] alias/vault" ∧
      redactIn otherOrder vaultAlias = "kms_master_key_id: [REDACTED] [REDACTED]" ∧
      ¬∀ first second : List String, first.Perm Redaction.sensitiveFields →
        second.Perm Redaction.sensitiveFields →
          redactIn first vaultAlias = redactIn second vaultAlias := by
  have leaks : redact vaultAlias = "kms_master_key_id: [REDACTED] alias/vault" := by decide +kernel
  have hides : redactIn otherOrder vaultAlias = "kms_master_key_id: [REDACTED] [REDACTED]" := by
    decide +kernel
  refine ⟨leaks, hides, fun agree => ?_⟩
  have same := agree Redaction.sensitiveFields otherOrder (.refl _) (by decide)
  rw [redactIn_sensitiveFields, leaks, hides] at same
  exact absurd same (by decide)

end BucketPlan
