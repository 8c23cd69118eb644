import BucketPlan.Proofs.Redaction.Accounts
import BucketPlan.Proofs.Redaction.Fields

namespace BucketPlan

namespace Redaction

section

variable {name other : String} {before : Option Char} {text passed behind : List Char}

/-- Every assignment of the field has the form that redaction gives it. -/
def IsSettled (name : String) : (before : Option Char) → (text : List Char) → Prop
  | _, [] => True
  | before, c :: rest =>
    (∀ behind, assignment name before (c :: rest) = some behind → c :: rest = mark name ++ behind) ∧
      IsSettled name (some c) rest

theorem IsSettled.at_place (member : name ∈ sensitiveFields) (settled : IsSettled name before text)
    (found : assignment name before text = some behind) : text = mark name ++ behind := by
  cases text with
  | nil =>
    rw [assignment_of_head member rfl] at found
    cases found
  | cons c rest => exact settled.1 behind found

theorem IsSettled.rest (settled : IsSettled name before (passed ++ behind)) :
    IsSettled name (passed.getLast?.or before) behind := by
  induction passed generalizing before with
  | nil => exact settled
  | cons c passed ih =>
    rw [getLast?_cons_or]
    exact ih settled.2

theorem Spares.isSettled (spared : Spares (assignment name) before passed behind)
    (settled : IsSettled name (passed.getLast?.or before) behind) :
    IsSettled name before (passed ++ behind) := by
  induction passed generalizing before with
  | nil => exact settled
  | cons c passed ih =>
    rw [getLast?_cons_or] at settled
    refine ⟨fun after found => ?_, ih spared.2 settled⟩
    cases spared.1.symm.trans found

theorem isSettled_of_endsValue (member : name ∈ sensitiveFields) {here : Option Char}
    (ends : EndsValue text) (settled : IsSettled name before text) : IsSettled name here text := by
  cases text with
  | nil => trivial
  | cons c rest =>
    refine ⟨fun behind found => ?_, settled.2⟩
    rw [assignment_of_head member ends.head?_isWordChar] at found
    cases found

theorem isSettled_mark (member : name ∈ sensitiveFields) (others : other ∈ sensitiveFields)
    (outside : before.any isWordChar = false) (ends : EndsValue behind)
    (settled : IsSettled other none behind) : IsSettled other before (mark name ++ behind) := by
  obtain ⟨c, rest, split, _, spared⟩ := mark_eq_cons member
  have later : IsSettled other (some c) (rest ++ behind) :=
    (spared other others behind).isSettled (isSettled_of_endsValue others ends settled)
  by_cases same : other = name
  · subst same
    have matched := assignment_mark member outside ends
    rw [split] at matched ⊢
    refine ⟨fun after found => ?_, later⟩
    rw [split, ← Option.some.inj (matched.symm.trans found)]
    rfl
  · exact (spares_mark member others same).isSettled (isSettled_of_endsValue others ends settled)

/-- A pass leaves a text as it is in which there is nothing left to do. -/
theorem redactFieldFrom_of_isSettled (member : name ∈ sensitiveFields)
    (settled : IsSettled name before text) : redactFieldFrom before text name = text := by
  induction before, text using reading_induction [name] with
  | nil => rfl
  | kept before c text unmatched ih =>
    rw [redactFieldFrom_of_none (unmatched name List.mem_cons_self), ih settled.2]
  | replaced before text own behind named found ih =>
    cases List.mem_singleton.mp named
    have form := settled.at_place member found
    have ends := assignment_endsValue found
    rw [form] at settled
    rw [redactFieldFrom_of_some member found, ih (isSettled_of_endsValue member ends settled.rest),
      ← form]

/-- After its pass, a field has nothing left to redact. -/
theorem isSettled_redactFieldFrom_self (member : name ∈ sensitiveFields) :
    IsSettled name before (redactFieldFrom before text name) := by
  induction before, text using reading_induction [name] with
  | nil => trivial
  | kept before c text unmatched ih =>
    have none := unmatched name List.mem_cons_self
    rw [redactFieldFrom_of_none none]
    refine ⟨fun behind found => ?_, ih⟩
    cases (assignment_redactFieldFrom_of_none member member none).symm.trans found
  | replaced before text own behind named found ih =>
    cases List.mem_singleton.mp named
    have outside := (assignment_eq_some_iff.mp found).1
    have ends := assignment_endsValue found
    rw [redactFieldFrom_of_some member found]
    exact isSettled_mark member member outside ((endsValue_redactFieldFrom member).mpr ends) ih

/-- The passes of other fields bring up nothing to redact for a field that has nothing left. -/
theorem IsSettled.redactFieldFrom (member : name ∈ sensitiveFields) (others : other ∈ sensitiveFields)
    (settled : IsSettled other before text) :
    IsSettled other before (redactFieldFrom before text name) := by
  by_cases same : other = name
  · subst same
    exact isSettled_redactFieldFrom_self member
  induction before, text using reading_induction [name] with
  | nil => trivial
  | kept before c text unmatched ih =>
    have copied := redactFieldFrom_of_none (unmatched name List.mem_cons_self)
    rw [copied]
    refine ⟨fun behind found => ?_, ih settled.2⟩
    -- the field was assigned here before the pass, and so it has been a mark that the pass copied
    have still := isSome_assignment_redactFieldFrom member others before c text
    rw [found] at still
    obtain ⟨after, matched⟩ := Option.isSome_iff_exists.mp still.symm
    have form := settled.at_place others matched
    have outside := (assignment_eq_some_iff.mp matched).1
    have ends := assignment_endsValue matched
    have spared : Spares (assignment name) before (mark other) after :=
      spares_mark others member (Ne.symm same)
    have moved := spared.redactFieldFrom_eq
    rw [← form, copied] at moved
    rw [moved, assignment_mark others outside ((endsValue_redactFieldFrom member).mpr ends)] at found
    rw [moved, Option.some.inj found]
  | replaced before text own behind named found ih =>
    cases List.mem_singleton.mp named
    have outside := (assignment_eq_some_iff.mp found).1
    have ends := assignment_endsValue found
    obtain ⟨_, word, said, _, rfl, _⟩ := assignment_eq_some_iff.mp found
    have left : IsSettled other none behind := isSettled_of_endsValue others ends settled.rest.rest
    rw [redactFieldFrom_of_some member found]
    exact isSettled_mark member others outside ((endsValue_redactFieldFrom member).mpr ends) (ih left)

theorem isSettled_redactFields {names : List String} (among : ∀ name ∈ names, name ∈ sensitiveFields)
    (others : other ∈ sensitiveFields) (reached : other ∈ names ∨ IsSettled other none text) :
    IsSettled other none (redactFields names text) := by
  rw [redactFields]
  induction names generalizing text with
  | nil => exact reached.resolve_left List.not_mem_nil
  | cons name names ih =>
    obtain ⟨member, rest⟩ := List.forall_mem_cons.mp among
    rw [List.foldl_cons, redactField_eq]
    refine ih rest ?_
    rcases reached with reached | settled
    · rcases List.mem_cons.mp reached with rfl | later
      · exact Or.inr (isSettled_redactFieldFrom_self others)
      · exact Or.inl later
    · exact Or.inr (settled.redactFieldFrom member others)

theorem redactFields_of_isSettled {names : List String} (among : ∀ name ∈ names, name ∈ sensitiveFields)
    (settled : ∀ name ∈ names, IsSettled name none text) : redactFields names text = text := by
  rw [redactFields]
  induction names with
  | nil => rfl
  | cons name names ih =>
    obtain ⟨member, others⟩ := List.forall_mem_cons.mp among
    obtain ⟨first, later⟩ := List.forall_mem_cons.mp settled
    rw [List.foldl_cons, redactField_eq, redactFieldFrom_of_isSettled member first, ih others later]

end

section

variable {before : Option Char} {text behind : List Char}

theorem after?_eq_some {literal : String} (found : after? literal text = some behind) :
    text = literal.toList ++ behind := by
  rw [after?] at found
  split at found
  · rename_i starts
    obtain ⟨rest, rfl⟩ := List.isPrefixOf_iff_prefix.mp starts
    rw [← String.length_toList, List.drop_left] at found
    rw [Option.some.inj found]
  · cases found

theorem afterPartition?_splits (found : afterPartition? text = some behind) :
    ∃ partition, text = partition ++ behind := by
  simp only [afterPartition?, Option.bind_eq_bind, Option.bind_eq_some_iff] at found
  obtain ⟨rest, named, found⟩ := found
  split at found
  · cases found
    rw [after?_eq_some named]
    exact ⟨_, by rw [List.append_assoc, List.takeWhile_append_dropWhile]⟩
  · cases found

/-- Between two colons, twelve digits are the number of an account. -/
theorem somewhere_startsAccount_of_colons {front : List Char} (found : afterAccount? text = some behind)
    (colon : behind.head? = some ':') :
    Somewhere StartsAccount before (front ++ (":".toList ++ text)) := by
  obtain ⟨digits, twelve, all, rfl⟩ := afterAccount?_eq_some_iff.mp found
  have apart : behind.head?.any isDecimal = false := by
    rw [colon]
    decide
  have row : StartsAccount (some ':') (digits ++ behind) :=
    ⟨by decide, by rw [takeWhile_append_of_head all apart, twelve]⟩
  refine somewhere_append.mpr (Or.inr (Or.inr ?_))
  cases digits with
  | nil => cases twelve
  | cons c rest => exact Or.inl row

theorem somewhere_of_keyAddress (found : keyAddress before text = some behind) :
    Somewhere StartsAccount before text := by
  simp only [keyAddress, Option.bind_eq_bind, Option.bind_eq_some_iff] at found
  obtain ⟨service, partition, region, named, account, colon, kind, numbered, name, kinds, _⟩ := found
  have stop : kind.head? = some ':' := by
    cases key : after? ":key/" kind with
    | some name =>
      rw [after?_eq_some key]
      rfl
    | none =>
      have other : after? ":alias/" kind = some name := by rwa [key] at kinds
      rw [after?_eq_some other]
      rfl
  obtain ⟨front, rfl⟩ := afterPartition?_splits partition
  have split : region = region.takeWhile isRegionChar ++ (":".toList ++ account) := by
    rw [← after?_eq_some colon, List.takeWhile_append_dropWhile]
  rw [after?_eq_some named, split, ← List.append_assoc, ← List.append_assoc]
  exact somewhere_startsAccount_of_colons numbered stop

theorem somewhere_of_roleAddress (found : roleAddress before text = some behind) :
    Somewhere StartsAccount before text := by
  simp only [roleAddress, Option.bind_eq_bind, Option.bind_eq_some_iff] at found
  obtain ⟨service, partition, account, named, kind, numbered, name, role, _⟩ := found
  have stop : kind.head? = some ':' := by
    rw [after?_eq_some role]
    rfl
  have literal : ":iam::".toList = ":iam:".toList ++ ":".toList := by decide
  obtain ⟨front, rfl⟩ := afterPartition?_splits partition
  rw [after?_eq_some named, literal, List.append_assoc, ← List.append_assoc]
  exact somewhere_startsAccount_of_colons numbered stop

theorem somewhere_of_accountId (found : accountId before text = some behind) :
    Somewhere StartsAccount before text := by
  obtain ⟨clear, apart, numbered⟩ := accountId_eq_some_iff.mp found
  obtain ⟨digits, twelve, all, rfl⟩ := afterAccount?_eq_some_iff.mp numbered
  have row : StartsAccount before (digits ++ behind) :=
    ⟨clear, by rw [takeWhile_append_of_head all apart, twelve]⟩
  cases digits with
  | nil => cases twelve
  | cons c rest => exact Or.inl row

/-- A pattern that takes an account number to match does nothing in a text without one. -/
theorem substitute_of_clean {pattern : Pattern} {replacement : String}
    (takes : ∀ {before text behind}, pattern before text = some behind → Somewhere StartsAccount before text)
    (clean : ¬Somewhere StartsAccount none text) : substitute pattern replacement text = text := by
  have spared : Spares pattern none text [] :=
    spares_of_not_somewhere fun somewhere => clean (Somewhere.flatten (somewhere.imp fun _ _ found =>
      takes (Option.some_get found).symm))
  have copied : substituteFrom pattern replacement.toList 0 none (text ++ []) = _ :=
    spared.substituteFrom_eq
  rwa [List.append_nil, substituteFrom, List.append_nil] at copied

theorem redactAddresses_of_clean (clean : ¬Somewhere StartsAccount none text) :
    redactAddresses text = text := by
  rw [redactAddresses, substitute_of_clean somewhere_of_keyAddress clean,
    substitute_of_clean somewhere_of_roleAddress clean, substitute_of_clean somewhere_of_accountId clean]

end

end Redaction

/-- The order that the fields are written in. -/
theorem redactIn_sensitiveFields (text : String) :
    redactIn Redaction.sensitiveFields text = redact text := rfl

/-- Whatever the order of the fields, a redacted text holds no account number, hence no address of a
key or a role, and redacting it again, in the same order or in another one, leaves it as it is. -/
theorem redactIn_settles {order : List String} (arranged : order.Perm Redaction.sensitiveFields)
    (message : String) :
    ¬HasAccountNumber (redactIn order message) ∧ ¬HasKeyAddress (redactIn order message) ∧
      ¬HasRoleAddress (redactIn order message) ∧
      ∀ again : List String, again.Perm Redaction.sensitiveFields →
        redactIn again (redactIn order message) = redactIn order message := by
  have clean : ¬Redaction.Somewhere Redaction.StartsAccount none (redactIn order message).toList := by
    rw [redactIn, String.toList_ofList, Redaction.redactInOrder]
    exact Redaction.redactFields_clean (fun _ => arranged.mem_iff.mp) (Redaction.redactAddresses_clean _)
  have numberless : ¬HasAccountNumber (redactIn order message) := fun number => clean number.somewhere
  refine ⟨numberless, fun address => numberless address.hasAccountNumber,
    fun address => numberless address.hasAccountNumber, fun again rearranged => ?_⟩
  have settled : ∀ name ∈ again, Redaction.IsSettled name none (redactIn order message).toList := by
    intro name member
    have sensitive := rearranged.mem_iff.mp member
    rw [redactIn, String.toList_ofList, Redaction.redactInOrder]
    exact Redaction.isSettled_redactFields (fun _ => arranged.mem_iff.mp) sensitive
      (Or.inl (arranged.mem_iff.mpr sensitive))
  rw [redactIn, Redaction.redactInOrder, Redaction.redactAddresses_of_clean clean,
    Redaction.redactFields_of_isSettled (fun _ => rearranged.mem_iff.mp) settled, String.ofList_toList]

/-- The order of the fields in another process. -/
def otherOrder : List String :=
  ["kms_key_id", "replica_kms_key_id", "token", "kms_master_key_id"]

theorem redactIn_auditRole_settles :
    otherOrder.Perm Redaction.sensitiveFields ∧
      redactIn otherOrder "arn:aws:iam::123456789012:role/audit was refused (Token =s3, 210987654321)" =
        "arn:aws:iam::[REDACTED] was refused (token: [REDACTED], [REDACTED])" ∧
      ¬HasAccountNumber "arn:aws:iam::[REDACTED] was refused (token: [REDACTED], [REDACTED])" ∧
      redactIn otherOrder "arn:aws:iam::[REDACTED] was refused (token: [REDACTED], [REDACTED])" =
        "arn:aws:iam::[REDACTED] was refused (token: [REDACTED], [REDACTED])" := by
  have arranged : otherOrder.Perm Redaction.sensitiveFields := by decide
  have told : redactIn otherOrder
      "arn:aws:iam::123456789012:role/audit was refused (Token =s3, 210987654321)" =
        "arn:aws:iam::[REDACTED] was refused (token: [REDACTED], [REDACTED])" := by decide +kernel
  obtain ⟨numberless, _, _, settled⟩ := redactIn_settles arranged
    "arn:aws:iam::123456789012:role/audit was refused (Token =s3, 210987654321)"
  rw [told] at numberless settled
  exact ⟨arranged, told, numberless, settled otherOrder arranged⟩

end BucketPlan
