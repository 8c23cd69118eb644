import BucketPlan.Proofs.Redaction.Fields

namespace BucketPlan

namespace Redaction

section

variable {name other : String} {before : Option Char} {text behind after front word tail : List Char}

/-- A field is assigned here, and its value is not over where this text is. -/
def Opens (name : String) (before : Option Char) (front : List Char) : Prop :=
  ∃ word separators value, before.any isWordChar = false ∧ AreLettersOf name.toList word ∧
    front = word ++ (separators ++ value) ∧ separators ≠ [] ∧
    (∀ c ∈ separators, isSeparator c = true) ∧ (∀ c ∈ value, isValueChar c = true) ∧
    value.head?.any isSeparator = false

/-- The value of a field goes on with the name of another one and to the end of the value. -/
theorem Opens.assignment (opens : Opens name before front) (member : other ∈ sensitiveFields)
    (spelled : AreLettersOf other.toList word) (value : ∀ c ∈ tail, isValueChar c = true)
    (ends : EndsValue behind) :
    assignment name before (front ++ (word ++ (tail ++ behind))) = some behind := by
  have letters := isWordChar_of_areLettersOf member spelled
  obtain ⟨c, others, rfl⟩ := List.exists_cons_of_ne_nil (ne_nil_of_areLettersOf member spelled)
  obtain ⟨first, separators, begun, outside, named, rfl, some, separate, valued, starts⟩ := opens
  have whole : ∃ d rest, begun ++ (c :: others ++ tail) = d :: rest ∧ isSeparator d = false := by
    cases begun with
    | nil => exact ⟨c, others ++ tail, rfl, isSeparator_of_isWordChar (letters c List.mem_cons_self)⟩
    | cons d begun => exact ⟨d, begun ++ (c :: others ++ tail), rfl, starts⟩
  obtain ⟨d, rest, split, apart⟩ := whole
  have allValue : ∀ e ∈ d :: rest, isValueChar e = true := by
    rw [← split]
    intro e member
    rcases List.mem_append.mp member with early | late
    · exact valued e early
    · exact (List.mem_append.mp late).elim (fun inWord => isValueChar_of_isWordChar (letters e inWord))
        (value e)
  refine assignment_eq_some_iff.mpr ⟨outside, first, separators ++ d :: rest, named, ?_,
    .value some separate apart allValue ends⟩
  rw [← split]
  simp only [List.append_assoc]

/-- In the value of one field, another one is assigned: `front` is up to the name of the other, `word`
is that name, `tail` what follows it in the value. `behind` is left behind the one field and `after`
behind the other. No field but the first one is assigned before. -/
structure Overlap (name other : String) (before : Option Char)
    (front word tail behind after : List Char) : Prop where
  opens : Opens name before front
  member : other ∈ sensitiveFields
  differ : other ≠ name
  outside : (front.getLast?.or before).any isWordChar = false
  spelled : AreLettersOf other.toList word
  value : ∀ c ∈ tail, isValueChar c = true
  ends : EndsValue behind
  assigned : afterAssignment? (tail ++ behind) = some after
  first : ∀ another ∈ sensitiveFields, another ≠ name →
    Spares (assignment another) before front (word ++ (tail ++ behind))

theorem Overlap.assignment_name (overlap : Overlap name other before front word tail behind after) :
    assignment name before (front ++ (word ++ (tail ++ behind))) = some behind :=
  overlap.opens.assignment overlap.member overlap.spelled overlap.value overlap.ends

theorem Overlap.assignment_other (overlap : Overlap name other before front word tail behind after) :
    assignment other (front.getLast?.or before) (word ++ (tail ++ behind)) = some after := by
  obtain ⟨said, split, assigns⟩ := afterAssignment?_eq_some_iff.mp overlap.assigned
  exact assignment_eq_some_iff.mpr ⟨overlap.outside, word, said, overlap.spelled, by rw [split], assigns⟩

/-- A value that a mask follows is read as it is, or, where it is made of separators, the mask is
read as the value behind them. -/
theorem afterAssignment?_mask (value : ∀ c ∈ tail, isValueChar c = true) (ends : EndsValue behind)
    (found : afterAssignment? (tail ++ (mask ++ behind)) = some after) :
    (∀ c ∈ tail, isSeparator c = true) ∧ after = behind ∨ after = mask ++ behind := by
  have split : tail = tail.takeWhile isSeparator ++ tail.dropWhile isSeparator :=
    List.takeWhile_append_dropWhile.symm
  have separate : ∀ c ∈ tail.takeWhile isSeparator, isSeparator c = true :=
    List.all_eq_true.mp List.all_takeWhile
  have stops : (tail.dropWhile isSeparator).head?.any isSeparator = false := head?_dropWhile_any
  generalize tail.takeWhile isSeparator = separators at split separate
  cases rest : tail.dropWhile isSeparator with
  | nil =>
    rw [rest, List.append_nil] at split
    subst split
    have read := (assigns_mask separate ends).afterAssignment?
    rw [List.append_assoc] at read
    exact Or.inl ⟨separate, Option.some.inj (found.symm.trans read)⟩
  | cons c others =>
    rw [rest] at split stops
    have some : separators ≠ [] := by
      rintro rfl
      obtain ⟨said, whole, assigns⟩ := afterAssignment?_eq_some_iff.mp found
      obtain ⟨d, _, rfl, separates⟩ := assigns.starts
      rw [split] at whole
      obtain ⟨rfl, _⟩ := List.cons.inj whole
      have apart : isSeparator c = false := stops
      rw [separates] at apart
      cases apart
    have valued : ∀ d ∈ c :: others, isValueChar d = true := fun d member =>
      value d (by rw [split]; exact List.mem_append_right _ member)
    have masked : EndsValue (mask ++ behind) := endsValue_mask
    have read := (Assigns.value some separate stops valued masked).afterAssignment?
    rw [← split] at read
    exact Or.inr (Option.some.inj (found.symm.trans read))

/-- Where a mask follows the value, only separators stand between it and the name of the other field. -/
theorem Overlap.separate (overlap : Overlap name other before front word tail (mask ++ after) after) :
    ∀ c ∈ tail, isSeparator c = true := by
  obtain ⟨said, _, assigns⟩ := afterAssignment?_eq_some_iff.mp overlap.assigned
  rcases afterAssignment?_mask overlap.value assigns.endsValue overlap.assigned with ⟨all, _⟩ | same
  · exact all
  · have lengths := congrArg List.length same
    rw [length_mask_append] at lengths
    omega

/-- A field is assigned, and no order of the passes matters for it: either no other field is assigned
in its value, or the value ends with the name of another one and a mask follows. -/
inductive Stands (name : String) (before : Option Char) : (text behind : List Char) → Prop
  | alone {matched behind : List Char} (found : assignment name before (matched ++ behind) = some behind)
      (clear : ∀ other ∈ sensitiveFields, other ≠ name →
        Spares (assignment other) before matched behind) :
      Stands name before (matched ++ behind) behind
  | naming {other : String} {front word tail after : List Char}
      (overlap : Overlap name other before front word tail (mask ++ after) after) :
      Stands name before (front ++ (word ++ (tail ++ (mask ++ after)))) (mask ++ after)

theorem Stands.assignment (stands : Stands name before text behind) :
    assignment name before text = some behind := by
  cases stands with
  | alone found => exact found
  | naming overlap => exact overlap.assignment_name

theorem place_of_append {matched passed inner : List Char} (split : matched ++ behind = passed ++ inner)
    (within : behind.length < inner.length) :
    ∃ c rest, matched = passed ++ c :: rest ∧ inner = c :: rest ++ behind := by
  rcases List.append_eq_append_iff.mp split with ⟨others, _, rfl⟩ | ⟨others, rfl, rfl⟩
  · rw [List.length_append] at within
    omega
  · cases others with
    | nil => exact absurd within (Nat.lt_irrefl _)
    | cons c rest => exact ⟨c, rest, rfl, rfl⟩

/-- A letter behind a name is part of the value. -/
theorem Assigns.before_letter {said passed rest : List Char} {c : Char} (assigns : Assigns said behind)
    (split : said = passed ++ c :: rest) (letter : isWordChar c = true) :
    ∃ separators value, passed = separators ++ value ∧ separators ≠ [] ∧
      (∀ d ∈ separators, isSeparator d = true) ∧ (∀ d ∈ value, isValueChar d = true) ∧
      value.head?.any isSeparator = false ∧ ∀ d ∈ c :: rest, isValueChar d = true := by
  have apart : isSeparator c ≠ true := by simp [isSeparator_of_isWordChar letter]
  cases assigns with
  | @value separators value _ d some separate starts valued ends =>
    rcases List.append_eq_append_iff.mp split with ⟨begun, rfl, whole⟩ | ⟨others, rfl, whole⟩
    · rw [whole] at valued
      refine ⟨separators, begun, rfl, some, separate, fun e member => valued e (by simp [member]), ?_,
        fun e member => valued e (List.mem_append_right _ member)⟩
      cases begun with
      | nil => rfl
      | cons e begun =>
        obtain ⟨rfl, _⟩ := List.cons.inj whole
        exact starts
    · cases others with
      | nil =>
        rw [List.append_nil] at some separate
        have same : c :: rest = d :: value := whole
        rw [same]
        exact ⟨passed, [], by rw [List.append_nil], some, separate, by simp, rfl, valued⟩
      | cons e others =>
        obtain ⟨rfl, _⟩ := List.cons.inj whole
        exact absurd (separate c (by simp)) apart
  | @bare separators blanks _ last some separate lastSeparates =>
    have member : c ∈ separators ++ [last] := by simp [split]
    rcases List.mem_append.mp member with early | late
    · exact absurd (separate c early) apart
    · cases List.mem_singleton.mp late
      exact absurd lastSeparates apart

theorem opens_of_place {said rest : List Char} {c : Char} (member : name ∈ sensitiveFields)
    (outside : before.any isWordChar = false) (spelled : AreLettersOf name.toList word)
    (assigns : Assigns said behind) (split : word ++ said = front ++ c :: rest) (some : front ≠ [])
    (between : (front.getLast?.or before).any isWordChar = false) (letter : isWordChar c = true) :
    Opens name before front ∧ ∀ d ∈ c :: rest, isValueChar d = true := by
  rcases List.append_eq_append_iff.mp split with ⟨passed, rfl, whole⟩ | ⟨others, rfl, _⟩
  · obtain ⟨separators, value, rfl, some, separate, valued, starts, onward⟩ :=
      assigns.before_letter whole letter
    exact ⟨⟨word, separators, value, outside, spelled, rfl, some, separate, valued, starts⟩, onward⟩
  · -- the place would be right behind a letter of the name
    have last := isWordChar_of_areLettersOf member spelled (front.getLast some)
      (List.mem_append_left _ (List.getLast_mem some))
    rw [List.getLast?_eq_some_getLast some, Option.some_or, Option.any_some, last] at between
    cases between

theorem word_of_place {inner : List Char} (member : other ∈ sensitiveFields) (ends : EndsValue behind)
    (found : assignment other before (inner ++ behind) = some after) :
    ∃ word tail, inner = word ++ tail ∧ AreLettersOf other.toList word ∧
      afterAssignment? (tail ++ behind) = some after := by
  obtain ⟨_, word, said, spelled, split, assigns⟩ := assignment_eq_some_iff.mp found
  rcases List.append_eq_append_iff.mp split with ⟨others, rfl, whole⟩ | ⟨tail, rfl, whole⟩
  · cases others with
    | nil =>
      refine ⟨inner, [], by rw [List.append_nil], by rwa [List.append_nil] at spelled, ?_⟩
      rw [List.nil_append, whole, List.nil_append, assigns.afterAssignment?]
    | cons c others =>
      have letter := isWordChar_of_areLettersOf member spelled c (by simp)
      have head := ends.head?_isWordChar
      rw [whole, List.cons_append, List.head?_cons, Option.any_some, letter] at head
      cases head
  · exact ⟨word, tail, rfl, spelled, by rw [← whole, assigns.afterAssignment?]⟩

/-- Where a field is assigned, either it stands, or there is a first one assigned in its value, and no
mask follows. -/
theorem stands_or_overlap (member : name ∈ sensitiveFields)
    (found : assignment name before text = some behind) :
    Stands name before text behind ∨ ∃ other front word tail after,
      text = front ++ (word ++ (tail ++ behind)) ∧
        Overlap name other before front word tail behind after ∧ behind ≠ mask ++ after := by
  have ends := assignment_endsValue found
  obtain ⟨outside, word, said, spelled, rfl, assigns⟩ := assignment_eq_some_iff.mp found
  rw [← List.append_assoc] at found ⊢
  rcases spares_or_first assignment (fun other => other ∈ sensitiveFields ∧ other ≠ name) before
    (word ++ said) behind with
    clear | ⟨front, c, rest, split, clear, other, ⟨others, differ⟩, after, matched⟩
  · exact Or.inl (.alone found fun other others differ => clear other ⟨others, differ⟩)
  · have between := (assignment_eq_some_iff.mp matched).1
    have some : front ≠ [] := by
      rintro rfl
      rw [split] at found
      exact differ (eq_of_assignment member others found matched).1.symm
    obtain ⟨word', tail, whole, spelled', assigned⟩ := word_of_place others ends matched
    have letter : isWordChar c = true := by
      obtain ⟨d, letters, rfl⟩ := List.exists_cons_of_ne_nil (ne_nil_of_areLettersOf others spelled')
      obtain ⟨rfl, _⟩ := List.cons.inj whole
      exact isWordChar_of_areLettersOf others spelled' c List.mem_cons_self
    obtain ⟨opens, value⟩ := opens_of_place member outside spelled assigns split some between letter
    rw [whole] at value clear
    have split' : word ++ said ++ behind = front ++ (word' ++ (tail ++ behind)) := by
      rw [split, whole]
      simp only [List.append_assoc]
    have overlap : Overlap name other before front word' tail behind after :=
      { opens, member := others, differ, outside := between, spelled := spelled', ends, assigned
        value := fun d late => value d (List.mem_append_right _ late)
        first := fun another at' unlike => by
          rw [← List.append_assoc]
          exact clear another ⟨at', unlike⟩ }
    rw [split']
    by_cases masked : behind = mask ++ after
    · subst masked
      exact Or.inl (.naming overlap)
    · exact Or.inr ⟨other, front, word', tail, after, rfl, overlap, masked⟩

/-- A pass of another field leaves in place the name in the value and the mask behind it. -/
theorem Overlap.word_redactFieldFrom {another : String}
    (overlap : Overlap name other before front word tail (mask ++ after) after)
    (member : another ∈ sensitiveFields) :
    ∃ word' tail', AreLettersOf other.toList word' ∧ (∀ c ∈ tail', isSeparator c = true) ∧
      (∀ c ∈ tail', isValueChar c = true) ∧
      redactFieldFrom (front.getLast?.or before) (word ++ (tail ++ (mask ++ after))) another =
        word' ++ (tail' ++ (mask ++ redactFieldFrom none after another)) := by
  by_cases same : another = other
  · subst same
    refine ⟨another.toList, [':'], areLettersOf_self member, List.all_eq_true.mp (by decide),
      List.all_eq_true.mp (by decide), ?_⟩
    rw [redactFieldFrom_of_some member overlap.assignment_other, mark, List.append_assoc]
    rfl
  · have separate := overlap.separate
    have between : (tail ++ (mask ++ after)).head?.any isWordChar = false := by
      cases tail with
      | nil => exact endsValue_mask.head?_isWordChar
      | cons c tail => exact isWordChar_of_isSeparator (separate c List.mem_cons_self)
    refine ⟨word, tail, overlap.spelled, separate, overlap.value, ?_⟩
    rw [(spares_other_word overlap.member member same overlap.spelled between).redactFieldFrom_eq,
      (spares_separators member separate).redactFieldFrom_eq, redactFieldFrom_mask member]
    obtain ⟨_, _, assigns⟩ := afterAssignment?_eq_some_iff.mp overlap.assigned
    exact assigns.endsValue

/-- The pass of another field does not change that no order matters. -/
theorem Stands.redactFieldFrom {another : String} (stands : Stands name before text behind)
    (member : another ∈ sensitiveFields) (unlike : another ≠ name) :
    Stands name before (redactFieldFrom before text another) (redactFieldFrom none behind another) := by
  cases stands with
  | @alone matched _ found clear =>
    have spared := clear another member unlike
    have between := (assignment_endsValue found).head?_isWordChar
    obtain ⟨outside, word, said, spelled, split, assigns⟩ := assignment_eq_some_iff.mp found
    rw [← List.append_assoc] at split
    obtain rfl := List.append_cancel_right split
    rw [spared.redactFieldFrom_eq, redactFieldFrom_of_head member between]
    refine .alone (assignment_eq_some_iff.mpr ⟨outside, word, said, spelled, List.append_assoc ..,
      assigns.redactFieldFrom member⟩) fun other others differ => ?_
    have still := (clear other others differ).redactFieldFrom member others spared
    rwa [redactFieldFrom_of_head member between] at still
  | @naming other front word tail after overlap =>
    have spared := overlap.first another member unlike
    obtain ⟨_, _, assigns⟩ := afterAssignment?_eq_some_iff.mp overlap.assigned
    have ends : EndsValue (redactFieldFrom none after another) :=
      (endsValue_redactFieldFrom member).mpr assigns.endsValue
    obtain ⟨word', tail', spelled, separate, value, moved⟩ := overlap.word_redactFieldFrom member
    rw [spared.redactFieldFrom_eq, moved, redactFieldFrom_mask member assigns.endsValue]
    refine .naming { overlap with
      spelled, value
      ends := endsValue_mask
      assigned := ?_
      first := fun other others differ => ?_ }
    · rw [← List.append_assoc]
      exact (assigns_mask separate ends).afterAssignment?
    · rw [← moved]
      exact (overlap.first other others differ).redactFieldFrom member others spared

/-- However the passes are ordered, such an assignment comes to its mark. -/
theorem Stands.redactFieldsFrom {names : List String} (stands : Stands name before text behind)
    (among : ∀ name ∈ names, name ∈ sensitiveFields) (listed : name ∈ names) :
    redactFieldsFrom names before text = mark name ++ redactFieldsFrom names none behind := by
  induction names generalizing text behind with
  | nil => cases listed
  | cons another names ih =>
    obtain ⟨member, others⟩ := List.forall_mem_cons.mp among
    rw [Redaction.redactFieldsFrom, Redaction.redactFieldsFrom, List.foldl_cons, List.foldl_cons,
      ← Redaction.redactFieldsFrom, ← Redaction.redactFieldsFrom]
    by_cases same : another = name
    · subst same
      have outside := (assignment_eq_some_iff.mp stands.assignment).1
      have ends := assignment_endsValue stands.assignment
      rw [redactFieldFrom_of_some member stands.assignment,
        redactFieldsFrom_mark others member outside ((endsValue_redactFieldFrom member).mpr ends)]
    · have later := (List.mem_cons.mp listed).resolve_left (Ne.symm same)
      exact ih (stands.redactFieldFrom member same) others later

end

end Redaction

end BucketPlan
