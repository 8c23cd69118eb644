import BucketPlan.Proofs.Shape.Trail

namespace BucketPlan

/-- The name that a turn adds to the path. An entry without a name adds none. -/
def Turn.name? : Turn → Option String
  | member name => some name
  | item index => some (toString index)
  | field _ name => some name
  | entry _ name => if name = "" then none else some name

/-- The names along a trail. -/
def Trail.names (trail : Trail) : List String :=
  trail.filterMap Turn.name?

/-- The path of what a trail leads to. -/
def Trail.path (trail : Trail) : String :=
  ".".intercalate trail.names

theorem intercalate_append_name {names : List String} (given : names ≠ []) (name : String) :
    ".".intercalate (names ++ [name]) = ".".intercalate names ++ "." ++ name := by
  rw [String.intercalate_append_of_ne_nil given (List.cons_ne_nil name []),
    String.intercalate_singleton]

namespace Place

def path (place : Place) : String :=
  dottedPath [place.area, place.rule, place.field]

theorem path_member {place : Place} {name : String} (inArea : place.area ≠ "")
    (named : name ≠ "" ∨ place.field ≠ "") : (place.member name).path = place.path ++ "." ++ name := by
  by_cases bare : place.field = ""
  · have given : name ≠ "" := named.resolve_right (not_not_intro bare)
    by_cases noRule : place.rule = "" <;>
      simp [path, member, dottedPath, inArea, bare, noRule, given, String.append_assoc]
  · by_cases noRule : place.rule = "" <;>
      simp [path, member, dottedPath, inArea, bare, noRule, String.append_assoc]

theorem path_entry {place : Place} {name : String} (inArea : place.area ≠ "")
    (unkeyed : place.rule = "") :
    (place.entry name).path = if name = "" then place.path else place.path ++ "." ++ name := by
  by_cases bare : place.field = "" <;> by_cases nameless : name = "" <;>
    simp [path, entry, dottedPath, inArea, unkeyed, bare, nameless, String.append_assoc]

/-- A place that is given to a depth, and whose path is spelled by names. -/
structure IsSpelled (place : Place) (depth : Depth) (keyed : Bool) (names : List String) : Prop where
  path : place.path = ".".intercalate names
  root : depth = .root → place = {} ∧ names = []
  area : depth ≠ .root → place.area ≠ "" ∧ names ≠ []
  rule : keyed = false → place.rule = ""
  field : depth = .field → place.field ≠ ""

variable {place : Place} {depth depth' : Depth} {keyed keyed' : Bool} {names : List String}

theorem isSpelled_empty : ({} : Place).IsSpelled .root false [] where
  path := rfl
  root _ := ⟨rfl, rfl⟩
  area below := absurd rfl below
  rule _ := rfl
  field below := absurd below (by decide)

/-- Below its area, a place goes on by a name and a dot before it. -/
theorem IsSpelled.member (spelled : place.IsSpelled depth keyed names) (inArea : depth ≠ .root)
    {name : String} (named : name ≠ "" ∨ depth = .field) :
    (place.member name).IsSpelled .field keyed (names ++ [name]) := by
  obtain ⟨given, nonempty⟩ := spelled.area inArea
  have spellable : name ≠ "" ∨ place.field ≠ "" := named.imp_right spelled.field
  refine ⟨?_, (absurd · (by decide)), fun _ => ⟨?_, by simp⟩, fun unkeyed => ?_, fun _ => ?_⟩
  · rw [path_member given spellable, spelled.path, intercalate_append_name nonempty]
  · simp [Place.member, given, apply_ite Place.area]
  · simpa [Place.member, given, apply_ite Place.rule] using spelled.rule unkeyed
  · by_cases bare : place.field = ""
    · simpa [Place.member, given, bare] using spellable
    · simp [Place.member, given, bare]

/-- A place keeps being spelled by the names of the turns that are taken from it. -/
theorem IsSpelled.turn (spelled : place.IsSpelled depth keyed names) {turn : Turn}
    (descends : turn.Descends depth keyed depth' keyed') :
    (place.turn turn).IsSpelled depth' keyed' (names ++ turn.name?.toList) := by
  cases descends with
  | @member name depth keyed named =>
    cases depth with
    | root =>
      obtain ⟨rfl, rfl⟩ := spelled.root rfl
      refine ⟨?_, (absurd · (by decide)), fun _ => ⟨named, by simp [Turn.name?]⟩, fun _ => rfl,
        (absurd · (by decide))⟩
      simp [Place.turn, Place.member, Place.path, dottedPath, named, Turn.name?]
    | area => exact spelled.member (by decide) (Or.inl named)
    | field => exact spelled.member (by decide) (Or.inl named)
  | @item index depth keyed inArea =>
    exact spelled.member inArea (Or.inl Nat.repr_ne_empty)
  | field => exact spelled.member (by decide) (Or.inr rfl)
  | @entry index name depth inArea =>
    obtain ⟨given, nonempty⟩ := spelled.area inArea
    refine ⟨?_, (absurd · (by decide)), fun _ => ⟨?_, by simp [nonempty]⟩, (absurd · (by decide)),
      (absurd · (by decide))⟩
    · rw [Place.turn, path_entry given (spelled.rule rfl), spelled.path, Turn.name?]
      split
      · simp
      · exact (intercalate_append_name nonempty name).symm
    · by_cases bare : place.field = "" <;> simp [Place.turn, Place.entry, dottedPath, given, bare]

end Place

/-- Whatever an orderly shape is led to has its path spelled by the names along the trail. -/
theorem Shape.Leads.isSpelled {shape declared : Shape} {value held : Value} {trail : Trail}
    (leads : shape.Leads value trail declared held) {depth : Depth} {keyed : Bool}
    (orderly : shape.isOrderly depth keyed = true) {place : Place} {names : List String}
    (spelled : place.IsSpelled depth keyed names) :
    (place.follow trail).path = ".".intercalate (names ++ trail.names) := by
  induction leads generalizing depth keyed place names with
  | here => simpa [Trail.names] using spelled.path
  | @into shape declared value held trail part accepted inside further ih =>
    obtain ⟨_, _, descends, inner⟩ := isOrderly_of_mem_parts orderly inside
    have own := ih inner (spelled.turn descends)
    rw [Place.follow_cons, own, List.append_assoc]
    simp only [Trail.names, List.filterMap_cons]
    cases part.turn.name? <;> rfl

end BucketPlan
