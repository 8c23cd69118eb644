import BucketPlan.Descriptor.Basic
import Mathlib.Data.List.Forall2

namespace BucketPlan

/-- One turn on the way into a value. An entry of a map goes by where it stands in the map, since two
keys may have one text. -/
inductive Turn where
  | member (name : String)
  | item (index : Nat)
  | field (index : Nat) (name : String)
  /-- To an entry in its own right, of a map or of a list. -/
  | entry (index : Nat) (name : String)
deriving DecidableEq, Repr

/-- The way from a value to something inside it. -/
abbrev Trail := List Turn

namespace Place

def turn (place : Place) : Turn → Place
  | .member name => place.member name
  | .item index => place.member (toString index)
  | .field _ name => place.member name
  | .entry _ name => place.entry name

def follow (place : Place) (trail : Trail) : Place :=
  trail.foldl turn place

@[simp]
theorem follow_nil (place : Place) : place.follow [] = place := rfl

@[simp]
theorem follow_cons (place : Place) (turn : Turn) (rest : Trail) :
    place.follow (turn :: rest) = (place.turn turn).follow rest := rfl

end Place

/-- What a shape looks at inside a value: the turn that leads there, the shape that is asked of it, and
what is found. -/
structure Part where
  turn : Turn
  shape : Shape
  value : Value

namespace Value

/-- The items of a sequence as parts, with the turn that their index makes. -/
def itemParts (value : Value) (turn : Nat → Turn) (shape : Shape) : List Part :=
  (value.sequence?.getD []).zipIdx.map fun (item, i) => ⟨turn i, shape, item⟩

/-- The entries of a map as parts. -/
def entryParts (value : Value) (turn : Nat → String → Turn) (shape : Shape) : List Part :=
  value.namedEntries.zipIdx.map fun ((name, item), i) => ⟨turn i name, shape, item⟩

end Value

namespace Shape

/-- Whether a value is of the kind that a shape declares, whatever is inside it. Null is as good as
nothing where something may be left out. -/
def accepts : Shape → Value → Bool
  | text, value => value.isStr
  | integer, value => value.int?.isSome
  | boolean, value => value.bool?.isSome
  | optional shape, value => value.isNull || shape.accepts value
  | unlessUntrue shape, value => value.isNull || shape.accepts value
  | record _, value => value.isMap
  | member _ _ _, _ => true
  | noMore, _ => true
  | listOf _, value => value.sequence?.isSome
  | listOfEntries _, value => value.sequence?.isSome
  | oneOrMore shape, value => shape.isSingle value || value.sequence?.isSome
  | fields _, value => value.isMap
  | entries _, value => value.isMap
  | pair _ _ _, value => value.isMap || value.sequence?.any (·.length = 2)

/-- Whether a value goes for nothing because it is untrue, of whatever kind it is. -/
def overlooks : Shape → Value → Bool
  | optional shape, value => shape.overlooks value
  | unlessUntrue shape, value => !value.isTrue || shape.overlooks value
  | _, _ => false

/-- What a shape looks at inside a value. There is nothing inside what goes for nothing. -/
def parts : Shape → Value → List Part
  | text, _ => []
  | integer, _ => []
  | boolean, _ => []
  | optional shape, value => if value.isNull then [] else shape.parts value
  | unlessUntrue shape, value => if value.isTrue then shape.parts value else []
  | record members, value => members.parts value
  | member name shape others, value =>
    ⟨.member name, shape, value.get name⟩ :: others.parts value
  | noMore, _ => []
  | listOf shape, value => value.itemParts .item shape
  | listOfEntries shape, value => value.itemParts (fun i => .entry i (toString i)) shape
  | oneOrMore shape, value =>
    if shape.isSingle value then [⟨.item 0, shape, value⟩] else value.itemParts .item shape
  | fields shape, value => value.entryParts .field shape
  | entries shape, value => value.entryParts .entry shape
  | pair first second members, value => members.parts (value.unpair first second)

/-- The trails that lead into a value through parts of the kinds that their shapes declare, with the
shape and the value at their end. -/
inductive Leads : Shape → Value → Trail → Shape → Value → Prop
  | here {shape : Shape} {value : Value} : Leads shape value [] shape value
  | into {shape declared : Shape} {value held : Value} {trail : Trail} {part : Part}
      (accepted : shape.accepts value = true) (inside : part ∈ shape.parts value)
      (further : Leads part.shape part.value trail declared held) :
      Leads shape value (part.turn :: trail) declared held

/-- A value of another kind than its shape declares, and not overlooked, is complained of. -/
def complains (shape : Shape) (value : Value) : Bool :=
  !shape.accepts value && !shape.overlooks value

theorem refuses_of_complains {shape : Shape} {value : Value}
    (complaining : shape.complains value = true) : shape.accepts value = false :=
  (Bool.not_eq_true' _).mp (Bool.and_eq_true_iff.mp complaining).1

/-- Whether a shape is a chain of members. -/
def isChain : Shape → Bool
  | member _ _ others => others.isChain
  | noMore => true
  | _ => false

/-- The names of the members of a chain. -/
def names : Shape → List String
  | member name _ others => name :: others.names
  | _ => []

theorem mem_names_of_mem_parts {members : Shape} (chain : members.isChain = true) {value : Value}
    {part : Part} (inside : part ∈ members.parts value) :
    ∃ name ∈ members.names, part.turn = .member name := by
  induction members with
  | member name shape others _ ih =>
    rcases List.mem_cons.mp inside with rfl | later
    · exact ⟨name, List.mem_cons_self, rfl⟩
    · obtain ⟨other, member, same⟩ := ih chain later
      exact ⟨other, List.mem_cons_of_mem name member, same⟩
  | noMore => cases inside
  | _ => cases chain

theorem part_of_mem_recordOf {members : List (String × Shape)} {value : Value} {part : Part}
    (inside : part ∈ (recordOf members).parts value) :
    ∃ name shape, (name, shape) ∈ members ∧ part = ⟨.member name, shape, value.get name⟩ := by
  induction members with
  | nil => cases inside
  | cons first rest ih =>
    rcases List.mem_cons.mp inside with rfl | later
    · exact ⟨_, _, List.mem_cons_self, rfl⟩
    · obtain ⟨name, shape, member, same⟩ := ih later
      exact ⟨name, shape, List.mem_cons_of_mem first member, same⟩

theorem parts_of_overlooks {shape : Shape} {value : Value} (overlooked : shape.overlooks value = true) :
    shape.parts value = [] := by
  induction shape with
  | optional shape ih => simp [parts, ih overlooked]
  | unlessUntrue shape ih =>
    rcases Bool.or_eq_true_iff.mp overlooked with untrue | within
    · simp only [Bool.not_eq_eq_eq_not, Bool.not_true] at untrue
      simp [parts, untrue]
    · simp [parts, ih within]
  | _ => cases overlooked

/-- What a shape looks at is asked for by a smaller shape. -/
theorem sizeOf_lt_of_mem_parts {shape : Shape} {value : Value} {part : Part}
    (inside : part ∈ shape.parts value) : sizeOf part.shape < sizeOf shape := by
  induction shape generalizing value with
  | text | integer | boolean | noMore => cases inside
  | optional shape ih =>
    rw [parts] at inside
    split at inside
    · cases inside
    · have smaller := ih inside
      simp only [optional.sizeOf_spec]
      omega
  | unlessUntrue shape ih =>
    rw [parts] at inside
    split at inside
    · have smaller := ih inside
      simp only [unlessUntrue.sizeOf_spec]
      omega
    · cases inside
  | record members ih =>
    have smaller := ih inside
    simp only [record.sizeOf_spec]
    omega
  | member name shape others _ ih =>
    simp only [member.sizeOf_spec]
    rcases List.mem_cons.mp inside with rfl | later
    · simp only
      omega
    · have smaller := ih later
      omega
  | listOf shape | listOfEntries shape =>
    obtain ⟨⟨item, i⟩, _, rfl⟩ := List.mem_map.mp inside
    simp
  | oneOrMore shape =>
    rw [parts] at inside
    split at inside
    · cases List.mem_singleton.mp inside
      simp
    · obtain ⟨⟨item, i⟩, _, rfl⟩ := List.mem_map.mp inside
      simp
  | fields shape | entries shape =>
    obtain ⟨⟨entry, i⟩, _, rfl⟩ := List.mem_map.mp inside
    simp
  | pair first second members ih =>
    have smaller := ih inside
    simp only [pair.sizeOf_spec]
    omega

/-- Induction along the parts of a value, instead of along the shape. -/
theorem partInduction {motive : Shape → Value → Prop}
    (step : ∀ shape value, (∀ part ∈ shape.parts value, motive part.shape part.value) →
      motive shape value) : ∀ shape value, motive shape value
  | shape, value => step shape value fun part _ => partInduction step part.shape part.value
termination_by shape => sizeOf shape
decreasing_by exact sizeOf_lt_of_mem_parts (by assumption)

end Shape

/-- How much of a place is given: nothing yet, its area, or something below that as well. -/
inductive Depth where
  | root
  | area
  | field
deriving DecidableEq, Repr

def Depth.below : Depth → Depth
  | root => area
  | area => field
  | field => field

/-- The turns that can be told from the path they lead to. Only entries may lack a name without being
below a field, and there are no entries within entries. -/
inductive Turn.Descends : Turn → Depth → (keyed : Bool) → Depth → (keyed : Bool) → Prop
  | member {name : String} {depth : Depth} {keyed : Bool} (named : name ≠ "") :
      Descends (.member name) depth keyed depth.below keyed
  | item {index : Nat} {depth : Depth} {keyed : Bool} (inArea : depth ≠ .root) :
      Descends (.item index) depth keyed .field keyed
  | field {index : Nat} {name : String} {keyed : Bool} :
      Descends (.field index name) .field keyed .field keyed
  | entry {index : Nat} {name : String} {depth : Depth} (inArea : depth ≠ .root) :
      Descends (.entry index name) depth false .area true

namespace Shape

/-- Whether a shape has records that name each of their members once, and leads into a value by turns
that can be told from the path. -/
def isOrderly : Shape → Depth → (keyed : Bool) → Bool
  | text, _, _ => true
  | integer, _, _ => true
  | boolean, _, _ => true
  | optional shape, depth, keyed => shape.isOrderly depth keyed
  | unlessUntrue shape, depth, keyed => shape.isOrderly depth keyed
  | record members, depth, keyed => members.isChain && members.isOrderly depth keyed
  | member name shape others, depth, keyed =>
    name != "" && !others.names.contains name && shape.isOrderly depth.below keyed &&
      (others.isChain && others.isOrderly depth keyed)
  | noMore, _, _ => true
  | listOf shape, depth, keyed => depth != .root && shape.isOrderly .field keyed
  | listOfEntries shape, depth, keyed => depth != .root && !keyed && shape.isOrderly .area true
  | oneOrMore shape, depth, keyed => depth != .root && shape.isOrderly .field keyed
  | fields shape, depth, keyed => depth == .field && shape.isOrderly .field keyed
  | entries shape, depth, keyed => depth != .root && !keyed && shape.isOrderly .area true
  | pair _ _ members, depth, keyed => members.isChain && members.isOrderly depth keyed

/-- What an orderly shape looks at is asked for by an orderly shape again, one turn further down. -/
theorem isOrderly_of_mem_parts {shape : Shape} {depth : Depth} {keyed : Bool}
    (orderly : shape.isOrderly depth keyed = true) {value : Value} {part : Part}
    (inside : part ∈ shape.parts value) : ∃ depth' keyed',
      part.turn.Descends depth keyed depth' keyed' ∧ part.shape.isOrderly depth' keyed' = true := by
  induction shape generalizing value with
  | text | integer | boolean | noMore => cases inside
  | optional shape ih =>
    rw [parts] at inside
    split at inside
    · cases inside
    · exact ih orderly inside
  | unlessUntrue shape ih =>
    rw [parts] at inside
    split at inside
    · exact ih orderly inside
    · cases inside
  | record members ih => exact ih (Bool.and_eq_true_iff.mp orderly).2 inside
  | member name shape others _ ih =>
    simp only [isOrderly, Bool.and_eq_true, bne_iff_ne] at orderly
    obtain ⟨⟨⟨named, _⟩, own⟩, _, rest⟩ := orderly
    rcases List.mem_cons.mp inside with rfl | later
    · exact ⟨_, _, .member named, own⟩
    · exact ih rest later
  | listOf shape =>
    simp only [isOrderly, Bool.and_eq_true, bne_iff_ne] at orderly
    obtain ⟨⟨item, i⟩, _, rfl⟩ := List.mem_map.mp inside
    exact ⟨_, _, .item orderly.1, orderly.2⟩
  | oneOrMore shape =>
    simp only [isOrderly, Bool.and_eq_true, bne_iff_ne] at orderly
    rw [parts] at inside
    split at inside
    · cases List.mem_singleton.mp inside
      exact ⟨_, _, .item orderly.1, orderly.2⟩
    · obtain ⟨⟨item, i⟩, _, rfl⟩ := List.mem_map.mp inside
      exact ⟨_, _, .item orderly.1, orderly.2⟩
  | listOfEntries shape | entries shape =>
    simp only [isOrderly, Bool.and_eq_true, bne_iff_ne, Bool.not_eq_true'] at orderly
    obtain ⟨⟨inArea, rfl⟩, inner⟩ := orderly
    obtain ⟨⟨item, i⟩, _, rfl⟩ := List.mem_map.mp inside
    exact ⟨_, _, .entry inArea, inner⟩
  | fields shape =>
    simp only [isOrderly, Bool.and_eq_true, beq_iff_eq] at orderly
    obtain ⟨rfl, inner⟩ := orderly
    obtain ⟨⟨entry, i⟩, _, rfl⟩ := List.mem_map.mp inside
    exact ⟨_, _, .field, inner⟩
  | pair first second members ih => exact ih (Bool.and_eq_true_iff.mp orderly).2 inside

end Shape

theorem Descriptor.isOrderly_shape : Descriptor.shape.isOrderly .root false = true := by
  decide +kernel

end BucketPlan
