import BucketPlan.Proofs.Shape.Walk
import Mathlib.Data.List.TakeWhile

namespace BucketPlan

/-- Where a reader is: at the root, below an area, or inside an entry of a collection. -/
inductive Whereabouts where
  | root
  | outside (area : String) (below : List String)
  | inside (area rule : String) (below : List String)

namespace Whereabouts

def path : Whereabouts → String
  | root => ""
  | outside area below => ".".intercalate (area :: below)
  | inside area rule below => ".".intercalate (area :: rule :: below)

def place : Whereabouts → Place
  | root => {}
  | outside area below => ⟨area, "", ".".intercalate below⟩
  | inside area rule below => ⟨area, rule, ".".intercalate below⟩

def entry : Whereabouts → Option (String × String)
  | root => none
  | outside _ _ => none
  | inside area rule _ => some (area, rule)

/-- On to something that goes by a name. -/
def down : Whereabouts → String → Whereabouts
  | root, name => outside name []
  | outside area below, name => outside area (below ++ [name])
  | inside area rule below, name => inside area rule (below ++ [name])

/-- Into an entry of the collection that is here. -/
def enter (whereabouts : Whereabouts) (name : String) : Whereabouts :=
  inside whereabouts.path name []

def turn (whereabouts : Whereabouts) : Turn → Whereabouts
  | .member name => whereabouts.down name
  | .item index => whereabouts.down (toString index)
  | .field _ name => whereabouts.down name
  | .entry _ name => whereabouts.enter name

def follow (whereabouts : Whereabouts) (trail : Trail) : Whereabouts :=
  trail.foldl turn whereabouts

end Whereabouts

/-- What is known of the whereabouts from the shape alone: the names that lead there, as long as none of
them is taken from the value; otherwise whether an entry has been entered. -/
inductive Region where
  | top (names : List String)
  | loose
  | entry
  | inEntry
deriving DecidableEq

namespace Region

def member (name : String) : Region → Region
  | top names => top (names ++ [name])
  | loose => loose
  | entry => inEntry
  | inEntry => inEntry

def item : Region → Region
  | top _ => loose
  | loose => loose
  | entry => inEntry
  | inEntry => inEntry

/-- Whether a collection in the region is read as one whose entries are rules of their own. -/
def isKeyed : Region → Bool
  | top names => keyedAreas.contains (".".intercalate names)
  | _ => false

def isCollection : Region → Bool
  | top names => keyedCollections.contains names
  | _ => false

end Region

/-- Whether entries in their own right are exactly those of the keyed collections, wherever the shape
leads. -/
def Shape.isPlotted : Shape → Region → Bool
  | text, _ => true
  | integer, _ => true
  | boolean, _ => true
  | optional shape, region => shape.isPlotted region
  | unlessUntrue shape, region => shape.isPlotted region
  | record members, region => members.isPlotted region
  | member name shape others, region =>
    name != "" && (region != .top [] || !name.toList.contains '.') && !region.isKeyed &&
      shape.isPlotted (region.member name) && others.isPlotted region
  | noMore, _ => true
  | listOf shape, region =>
    region != .top [] && region != .loose && !region.isKeyed && shape.isPlotted region.item
  | listOfEntries shape, region => region.isCollection && shape.isPlotted .entry
  | oneOrMore shape, region =>
    region != .top [] && !region.isKeyed && shape.isPlotted region.item
  | fields shape, region => region == .inEntry && shape.isPlotted .inEntry
  | entries shape, region => region.isCollection && shape.isPlotted .entry
  | pair _ _ members, region => region == .inEntry && members.isPlotted .inEntry

theorem Region.isKeyed_of_isCollection {region : Region} (collection : region.isCollection = true) :
    region.isKeyed = true := by
  cases region with
  | top names =>
    have member : names ∈ keyedCollections := List.contains_iff_mem.mp collection
    exact List.contains_iff_mem.mpr (List.mem_map_of_mem member)
  | _ => cases collection

theorem Shape.isPlotted_member {name : String} {shape others : Shape} {region : Region}
    (plotted : (member name shape others).isPlotted region = true) :
    name ≠ "" ∧ (region = .top [] → '.' ∉ name.toList) ∧ region.isKeyed = false ∧
      shape.isPlotted (region.member name) = true ∧ others.isPlotted region = true := by
  simp only [isPlotted, Bool.and_eq_true, Bool.or_eq_true, bne_iff_ne, Bool.not_eq_true',
    List.contains_eq_mem, decide_eq_false_iff_not] at plotted
  obtain ⟨⟨⟨⟨named, dotless⟩, apart⟩, own⟩, rest⟩ := plotted
  exact ⟨named, fun root => dotless.resolve_left (not_not_intro root), apart, own, rest⟩

theorem Descriptor.isPlotted_shape : Descriptor.shape.isPlotted (.top []) = true := by
  decide +kernel

namespace Whereabouts

/-- The whereabouts agree with what is known of them. Names that are taken from the value may be empty,
but only below another name. -/
inductive IsIn : Whereabouts → Region → Prop
  | atRoot : root.IsIn (.top [])
  | inArea {area : String} {below : List String} (dotless : '.' ∉ area.toList) (named : area ≠ "")
      (spelled : below = [] ∨ ".".intercalate below ≠ "") :
      (outside area below).IsIn (.top (area :: below))
  | astray {area : String} {below : List String} (dotless : '.' ∉ area.toList) (named : area ≠ "")
      (spelled : ".".intercalate below ≠ "") : (outside area below).IsIn .loose
  | atEntry {area rule : String} (keyed : area ∈ keyedAreas) : (inside area rule []).IsIn .entry
  | belowEntry {area rule : String} {below : List String} (keyed : area ∈ keyedAreas)
      (spelled : ".".intercalate below ≠ "") : (inside area rule below).IsIn .inEntry

variable {w : Whereabouts} {region : Region} {name : String}

theorem intercalate_concat {below : List String} (spelled : below = [] ∨ ".".intercalate below ≠ "")
    (name : String) : ".".intercalate (below ++ [name]) =
      if ".".intercalate below = "" then name else ".".intercalate below ++ "." ++ name := by
  by_cases empty : below = []
  · simp [empty]
  · rw [if_neg (spelled.resolve_left empty), intercalate_append_name empty]

theorem intercalate_cons_ne_empty {area : String} (named : area ≠ "") (below : List String) :
    ".".intercalate (area :: below) ≠ "" := by
  cases below with
  | nil => simpa using named
  | cons next rest =>
    rw [String.intercalate_cons_cons]
    simp [named]

theorem ne_empty_of_keyed {area : String} (keyed : area ∈ keyedAreas) : area ≠ "" := by
  have all : ∀ area ∈ keyedAreas, area ≠ "" := by decide +kernel
  exact all area keyed

theorem IsIn.path_ne_empty (located : w.IsIn region) (below : region ≠ .top []) : w.path ≠ "" := by
  cases located with
  | atRoot => exact absurd rfl below
  | inArea _ named | astray _ named => exact intercalate_cons_ne_empty named _
  | atEntry keyed | belowEntry keyed => exact intercalate_cons_ne_empty (ne_empty_of_keyed keyed) _

theorem IsIn.path_down (located : w.IsIn region) (name : String) :
    pathBelow w.path name = (w.down name).path := by
  by_cases top : region = .top []
  · subst top
    cases located with
    | atRoot => simp [pathBelow, path, down]
  · rw [pathBelow, if_neg (located.path_ne_empty top)]
    cases located with
    | atRoot => exact absurd rfl top
    | inArea | astray => exact (intercalate_append_name (List.cons_ne_nil _ _) name).symm
    | atEntry | belowEntry => exact (intercalate_append_name (List.cons_ne_nil _ _) name).symm

theorem IsIn.path_enter (located : w.IsIn region) (collection : region.isCollection = true)
    (name : String) : pathBelow w.path name = (w.enter name).path := by
  have below : region ≠ .top [] := by
    rintro rfl
    cases collection
  rw [pathBelow, if_neg (located.path_ne_empty below), enter, path, String.intercalate_cons_cons,
    String.intercalate_singleton]

theorem spelled_concat {below : List String} (spelled : below = [] ∨ ".".intercalate below ≠ "")
    (named : name ≠ "" ∨ ".".intercalate below ≠ "") : ".".intercalate (below ++ [name]) ≠ "" := by
  rw [intercalate_concat spelled]
  split
  · rename_i empty
    exact named.resolve_right (not_not_intro empty)
  · simp

/-- What is known after the name of a member. -/
theorem IsIn.member (located : w.IsIn region) (named : name ≠ "")
    (dotless : region = .top [] → '.' ∉ name.toList) : (w.down name).IsIn (region.member name) := by
  cases located with
  | atRoot => exact .inArea (dotless rfl) named (Or.inl rfl)
  | inArea areaDotless areaNamed spelled =>
    exact .inArea areaDotless areaNamed (Or.inr (spelled_concat spelled (Or.inl named)))
  | astray areaDotless areaNamed spelled =>
    exact .astray areaDotless areaNamed (spelled_concat (Or.inr spelled) (Or.inl named))
  | atEntry keyed => exact .belowEntry keyed (spelled_concat (Or.inl rfl) (Or.inl named))
  | belowEntry keyed spelled =>
    exact .belowEntry keyed (spelled_concat (Or.inr spelled) (Or.inl named))

/-- What is known after the index of an item. -/
theorem IsIn.item (located : w.IsIn region) (below : region ≠ .top []) (i : Nat) :
    (w.down (toString i)).IsIn region.item := by
  have named : toString i ≠ "" := Nat.repr_ne_empty
  cases located with
  | atRoot => exact absurd rfl below
  | inArea areaDotless areaNamed spelled =>
    exact .astray areaDotless areaNamed (spelled_concat spelled (Or.inl named))
  | astray areaDotless areaNamed spelled =>
    exact .astray areaDotless areaNamed (spelled_concat (Or.inr spelled) (Or.inl named))
  | atEntry keyed => exact .belowEntry keyed (spelled_concat (Or.inl rfl) (Or.inl named))
  | belowEntry keyed spelled =>
    exact .belowEntry keyed (spelled_concat (Or.inr spelled) (Or.inl named))

/-- The name of a field may be empty, since there is another name before it. -/
theorem IsIn.field (located : w.IsIn .inEntry) (name : String) : (w.down name).IsIn .inEntry := by
  cases located with
  | belowEntry keyed spelled =>
    exact .belowEntry keyed (spelled_concat (Or.inr spelled) (Or.inr spelled))

/-- No path below an entry is that of a keyed collection. -/
theorem not_keyed_inside {area rule : String} (keyed : area ∈ keyedAreas) (below : List String) :
    (inside area rule below).path ∉ keyedAreas := by
  have apart : ∀ area ∈ keyedAreas, ∀ other ∈ keyedAreas,
      (area ++ ".").toList.isPrefixOf other.toList = false := by decide +kernel
  intro member
  have goesOn : (area ++ ".").toList.isPrefixOf (inside area rule below).path.toList = true := by
    rw [path, String.intercalate_cons_cons, List.isPrefixOf_iff_prefix]
    exact ⟨_, String.toList_append.symm⟩
  cases goesOn.symm.trans (apart area keyed _ member)

theorem IsIn.keyed_iff (located : w.IsIn region) (known : region ≠ .loose) :
    w.path ∈ keyedAreas ↔ region.isKeyed = true := by
  cases located with
  | atRoot => simp [path, Region.isKeyed]
  | inArea => simp [path, Region.isKeyed]
  | astray => exact absurd rfl known
  | atEntry keyed => simpa [Region.isKeyed] using not_keyed_inside keyed []
  | belowEntry keyed => simpa [Region.isKeyed] using not_keyed_inside keyed _

theorem IsIn.keyed_of_isCollection (located : w.IsIn region) (collection : region.isCollection = true) :
    w.path ∈ keyedAreas := by
  have known : region ≠ .loose := by
    rintro rfl
    cases collection
  exact (located.keyed_iff known).mpr (Region.isKeyed_of_isCollection collection)

/-- The place of a member, an item or a field is the one that the name leads to. -/
theorem IsIn.place_down (located : w.IsIn region)
    (named : name ≠ "" ∨ region = .loose ∨ region = .inEntry) :
    (w.down name).place = w.place.member name := by
  cases located with
  | atRoot => simp [place, down, Place.member]
  | @inArea area below dotless areaNamed spelled =>
    rw [down, place, intercalate_concat spelled]
    by_cases bare : ".".intercalate below = "" <;> simp [place, Place.member, areaNamed, bare]
  | astray dotless areaNamed spelled =>
    rw [down, place, intercalate_concat (Or.inr spelled)]
    simp [place, Place.member, areaNamed, spelled]
  | atEntry keyed => simp [place, down, Place.member, ne_empty_of_keyed keyed]
  | belowEntry keyed spelled =>
    rw [down, place, intercalate_concat (Or.inr spelled)]
    simp [place, Place.member, ne_empty_of_keyed keyed, spelled]

theorem IsIn.place_enter (located : w.IsIn region) (collection : region.isCollection = true)
    (name : String) : (w.enter name).place = w.place.entry name := by
  cases located with
  | atRoot => rfl
  | astray | atEntry | belowEntry => cases collection
  | @inArea area below dotless named spelled =>
    by_cases bare : ".".intercalate below = ""
    · have empty : below = [] := spelled.resolve_right (not_not_intro bare)
      simp [enter, place, path, Place.entry, dottedPath, empty, named]
    · have given : below ≠ [] := fun empty => bare (by simp [empty])
      obtain ⟨first, rest, rfl⟩ := List.exists_cons_of_ne_nil given
      simp [enter, place, path, Place.entry, dottedPath, named, bare, String.intercalate_cons_cons]

theorem afterPath?_self (base : String) : afterPath? base base = some "" := by
  simp [afterPath?]

theorem afterPath?_dot (base field : String) :
    afterPath? base (base ++ "." ++ field) = some field := by
  have longer : base ++ "." ++ field ≠ base := by
    intro same
    have letters := congrArg String.toList same
    simp at letters
  have goesOn : (base ++ ".").toList.isPrefixOf? (base ++ "." ++ field).toList = some field.toList := by
    simp
  rw [afterPath?, if_neg longer, goesOn]
  simp

theorem ofPath_dot {area : String} (dotless : '.' ∉ area.toList) (field : String) :
    Place.ofPath (area ++ "." ++ field) = ⟨area, "", field⟩ := by
  have apart : ∀ c ∈ area.toList, decide (c ≠ '.') = true := by
    intro c member
    simpa using fun same : c = '.' => dotless (same ▸ member)
  have text : (area ++ "." ++ field).toList = area.toList ++ '.' :: field.toList := by simp
  rw [Place.ofPath, text, List.takeWhile_append_of_pos apart, List.dropWhile_append_of_pos apart]
  simp

theorem ofPath_self {area : String} (dotless : '.' ∉ area.toList) :
    Place.ofPath area = ⟨area, "", ""⟩ := by
  have apart : ∀ c ∈ area.toList, decide (c ≠ '.') = true := by
    intro c member
    simpa using fun same : c = '.' => dotless (same ▸ member)
  rw [Place.ofPath, List.takeWhile_eq_self_iff.mpr apart, List.dropWhile_eq_nil_iff.mpr apart]
  simp

/-- From its path and the entry that is being read, the place of the whereabouts is found again. -/
theorem IsIn.ofPathWithin (located : w.IsIn region) : Place.ofPathWithin w.entry w.path = w.place := by
  cases located with
  | atRoot => rfl
  | @inArea area below dotless | @astray area below dotless =>
    cases below with
    | nil => simpa [Place.ofPathWithin, Whereabouts.entry, path, place] using ofPath_self dotless
    | cons first rest =>
      rw [path, String.intercalate_cons_cons]
      exact ofPath_dot dotless _
  | atEntry keyed =>
    simp [Place.ofPathWithin, Whereabouts.entry, path, place, String.intercalate_cons_cons, afterPath?_self]
  | @belowEntry area rule below keyed spelled =>
    have given : below ≠ [] := fun empty => spelled (by simp [empty])
    obtain ⟨first, rest, rfl⟩ := List.exists_cons_of_ne_nil given
    have split : (inside area rule (first :: rest)).path =
        area ++ "." ++ rule ++ "." ++ ".".intercalate (first :: rest) := by
      rw [path, String.intercalate_cons_cons, String.intercalate_cons_cons]
      simp [String.append_assoc]
    rw [split]
    simp only [Place.ofPathWithin, Whereabouts.entry, afterPath?_dot]
    rfl

end Whereabouts

end BucketPlan
