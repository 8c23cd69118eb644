import BucketPlan.Proofs.Origin.Path
import BucketPlan.Proofs.Shape.Path
import BucketPlan.Proofs.Shape.Reported

namespace BucketPlan

/-- Whether a name is one segment of the paths it stands in. -/
def IsSegment (name : String) : Prop :=
  segments name = [name]

instance (name : String) : Decidable (IsSegment name) :=
  inferInstanceAs (Decidable (segments name = [name]))

theorem IsSegment.of_dotless {name : String} (given : name ≠ "") (dotless : '.' ∉ name.toList) :
    IsSegment name := by
  have nonempty : name.toList ≠ [] := fun empty => given (String.toList_eq_nil_iff.mp empty)
  simp [IsSegment, segments, List.splitOn_eq_singleton dotless, nonempty]

theorem isSegment_toString (n : Nat) : IsSegment (toString n) := by
  refine .of_dotless Nat.repr_ne_empty fun dot => ?_
  rw [Nat.toString_eq_repr, Nat.toList_repr] at dot
  have digit := Nat.isDigit_of_mem_toDigits (by decide) (by decide) dot
  exact absurd digit (by decide)

theorem index_eq_of_toString {m n : Nat} (same : toString m = toString n) : m = n := by
  have digits : Nat.toDigits 10 m = Nat.toDigits 10 n := by
    rw [← Nat.toList_repr, ← Nat.toList_repr]
    exact congrArg String.toList same
  rw [← Nat.ofDigitChars_ten_toDigits (n := m), digits, Nat.ofDigitChars_ten_toDigits]

theorem segments_intercalate (names : List String) :
    segments (".".intercalate names) = names.flatMap segments := by
  induction names with
  | nil => rfl
  | cons name rest ih =>
    cases rest with
    | nil => simp
    | cons next others =>
      rw [String.intercalate_cons_cons, segments_dot, ih, List.flatMap_cons (x := name)]

theorem flatMap_segments {names : List String} (simple : ∀ name ∈ names, IsSegment name) :
    names.flatMap segments = names := by
  rw [List.flatMap_congr simple, List.flatMap_singleton']

theorem segments_dottedPath (names : List String) :
    segments (dottedPath names) = names.flatMap segments := by
  rw [dottedPath, segments_intercalate]
  induction names with
  | nil => rfl
  | cons name rest ih =>
    by_cases empty : name = ""
    · have none : segments "" = [] := rfl
      simpa [empty, none] using ih
    · simpa [empty] using ih

/-- The segments of its path are the parts that a violation is ordered by. -/
theorem Violation.segments_path (v : Violation) : segments v.path = v.parts := by
  rw [path, segments_dottedPath, parts]
  simp

namespace Shape

/-- A violation reported of a value by its shape, at or below a place spelled by segments. -/
structure Reports (shape : Shape) (place : Place) (names : List String) (value : Value)
    (v : Violation) : Prop where
  orderly : ∃ depth keyed, shape.isOrderly depth keyed = true ∧ place.IsSpelled depth keyed names
  simple : ∀ name ∈ names, IsSegment name
  member : v ∈ shape.mismatches place value

variable {shape : Shape} {place : Place} {names : List String} {value : Value} {v : Violation}
  {next : String}

/-- Whatever is reported below a place has a path that goes on from the path of the place. -/
theorem Reports.prefix_path (reports : shape.Reports place names value v) :
    names <+: segments v.path := by
  obtain ⟨depth, keyed, orderly, spelled⟩ := reports.orderly
  obtain ⟨trail, declared, held, message, leads, _, rfl⟩ := leads_of_mem orderly reports.member
  have path : ((place.follow trail).violation message).path = _ := leads.isSpelled orderly spelled
  rw [path, segments_intercalate, List.flatMap_append, flatMap_segments reports.simple]
  exact List.prefix_append names _

/-- What is reported of a value is reported at its own place, or of one of its parts. -/
theorem Reports.here_or_within (reports : shape.Reports place names value v)
    (inner : ∀ part ∈ shape.parts value, ∃ name, part.turn.name? = some name ∧ IsSegment name) :
    shape.complains value = true ∧ segments v.path = names ∨
      ∃ part ∈ shape.parts value, ∃ name, part.turn.name? = some name ∧
        part.shape.Reports (place.turn part.turn) (names ++ [name]) part.value v := by
  obtain ⟨depth, keyed, orderly, spelled⟩ := reports.orderly
  have member := reports.member
  -- A shape that complains says nothing of the parts, so the path ends at the place or goes below it.
  rcases settles_of_isOrderly orderly place value with ⟨complaining, message, single⟩ | ⟨_, each⟩
  · rw [single] at member
    cases List.mem_singleton.mp member
    have path : (place.violation message).path = ".".intercalate names := spelled.path
    rw [path, segments_intercalate, flatMap_segments reports.simple]
    exact Or.inl ⟨complaining, rfl⟩
  · rw [each] at member
    obtain ⟨part, inside, own⟩ := List.mem_flatMap.mp member
    obtain ⟨name, given, segment⟩ := inner part inside
    obtain ⟨depth', keyed', descends, orderly'⟩ := isOrderly_of_mem_parts orderly inside
    have further := spelled.turn descends
    rw [given, Option.toList_some] at further
    refine Or.inr ⟨part, inside, name, given, ⟨depth', keyed', orderly', further⟩, ?_, own⟩
    exact List.forall_mem_append.mpr ⟨reports.simple, List.forall_mem_singleton.mpr segment⟩

/-- What is reported further down is reported of the part whose name comes next. -/
theorem Reports.part (reports : shape.Reports place names value v)
    (inner : ∀ part ∈ shape.parts value, ∃ name, part.turn.name? = some name ∧ IsSegment name)
    (further : names ++ [next] <+: segments v.path) :
    ∃ part ∈ shape.parts value, part.turn.name? = some next ∧
      part.shape.Reports (place.turn part.turn) (names ++ [next]) part.value v := by
  rcases reports.here_or_within inner with ⟨_, ended⟩ | ⟨part, inside, name, given, own⟩
  · have length := (ended ▸ further).length_le
    rw [List.length_append, List.length_singleton] at length
    omega
  · have same : names ++ [name] = names ++ [next] :=
      (List.prefix_of_prefix_length_le own.prefix_path further (by simp)).eq_of_length (by simp)
    cases List.append_cancel_left same
    exact ⟨part, inside, given, own⟩

theorem Reports.given (reports : (optional shape).Reports place names value v) :
    shape.Reports place names value v := by
  have member := reports.member
  rw [mismatches] at member
  split at member
  · cases member
  · exact ⟨reports.orderly, reports.simple, member⟩

/-- What is reported at its own place is a value that its shape complains of. -/
theorem Reports.complains (reports : shape.Reports place names value v)
    (inner : ∀ part ∈ shape.parts value, ∃ name, part.turn.name? = some name ∧ IsSegment name)
    (ended : segments v.path = names) : shape.complains value = true := by
  rcases reports.here_or_within inner with ⟨complaining, _⟩ | ⟨part, _, name, _, own⟩
  · exact complaining
  · have length := (ended ▸ own.prefix_path).length_le
    rw [List.length_append, List.length_singleton] at length
    omega

theorem named_of_recordOf {members : List (String × Shape)}
    (simple : ∀ name ∈ members.map Prod.fst, IsSegment name) :
    ∀ part ∈ (recordOf members).parts value,
      ∃ name, part.turn.name? = some name ∧ IsSegment name := by
  intro part inside
  obtain ⟨name, _, listed, rfl⟩ := part_of_mem_recordOf inside
  exact ⟨name, rfl, simple name (List.mem_map_of_mem listed)⟩

/-- What is reported further down in a record is reported of the member whose name comes next. -/
theorem Reports.ofMember {members : List (String × Shape)} {declared : Shape}
    (reports : (recordOf members).Reports place names value v)
    (inner : ∀ part ∈ (recordOf members).parts value,
      ∃ name, part.turn.name? = some name ∧ IsSegment name)
    (known : ∀ other, (next, other) ∈ members → other = declared)
    (further : names ++ [next] <+: segments v.path) :
    declared.Reports (place.member next) (names ++ [next]) (value.get next) v := by
  obtain ⟨part, inside, given, own⟩ := reports.part inner further
  obtain ⟨name, other, listed, rfl⟩ := part_of_mem_recordOf inside
  cases given
  cases known other listed
  exact own

/-- What is reported further down in a list is reported of the item whose index comes next. -/
theorem Reports.ofItem {inItems : Shape} {turn : Nat → Turn} {i : Nat}
    (reports : shape.Reports place names value v)
    (items : shape.parts value = value.itemParts turn inItems)
    (named : ∀ k, (turn k).name? = some (toString k))
    (further : names ++ [toString i] <+: segments v.path) :
    ∃ items item, value.sequence? = some items ∧ items[i]? = some item ∧
      inItems.Reports (place.turn (turn i)) (names ++ [toString i]) item v := by
  have numbered : ∀ part ∈ shape.parts value, ∃ items item k, value.sequence? = some items ∧
      items[k]? = some item ∧ part = ⟨turn k, inItems, item⟩ := by
    intro part inside
    rw [items] at inside
    obtain ⟨⟨item, k⟩, listed, rfl⟩ := List.mem_map.mp inside
    cases sequence : value.sequence? with
    | none => simp [sequence] at listed
    | some items =>
      rw [sequence] at listed
      exact ⟨items, item, k, rfl, List.mem_zipIdx_iff_getElem?.mp listed, rfl⟩
  have inner : ∀ part ∈ shape.parts value, ∃ name, part.turn.name? = some name ∧ IsSegment name := by
    intro part inside
    obtain ⟨_, _, k, _, _, rfl⟩ := numbered part inside
    exact ⟨toString k, named k, isSegment_toString k⟩
  obtain ⟨part, inside, given, own⟩ := reports.part inner further
  obtain ⟨items, item, k, sequence, listed, rfl⟩ := numbered part inside
  cases index_eq_of_toString (Option.some.inj ((named k).symm.trans given))
  exact ⟨items, item, sequence, listed, own⟩

end Shape

namespace Descriptor

theorem named_parts (value : Value) : ∀ area ∈ shape.parts value,
    ∃ name, area.turn.name? = some name ∧ IsSegment name :=
  Shape.named_of_recordOf (by decide +kernel)

theorem reports_of_mem {value : Value} {v : Violation} (member : v ∈ mismatches value) :
    shape.Reports {} [] value v :=
  ⟨⟨.root, false, isOrderly_shape, Place.isSpelled_empty⟩, by simp, member⟩

end Descriptor

end BucketPlan
