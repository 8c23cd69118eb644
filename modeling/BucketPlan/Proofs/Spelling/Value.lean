import Mathlib.Data.List.Forall2
import Mathlib.Logic.Relation
import BucketPlan.Proofs.Shape.Reported

namespace BucketPlan

namespace Value

variable {key : String} {k v w : Value} {before after : List (Value × Value)}

theorem lookup_cons_self : lookup key ((.str key, v) :: after) = v := if_pos rfl

theorem lookup_cons_of_ne (other : k ≠ .str key) :
    lookup key ((k, v) :: after) = lookup key after := by
  cases k with
  | str name => exact if_neg fun same => other (congrArg Value.str same)
  | _ => rfl

theorem lookup_insert_of_ne (other : k ≠ .str key) :
    lookup key (before ++ (k, v) :: after) = lookup key (before ++ after) := by
  induction before with
  | nil => exact lookup_cons_of_ne other
  | cons entry rest ih =>
    obtain ⟨first, held⟩ := entry
    by_cases own : first = .str key
    · subst own
      exact lookup_cons_self.trans lookup_cons_self.symm
    · rw [List.cons_append, List.cons_append, lookup_cons_of_ne own, lookup_cons_of_ne own, ih]

theorem lookup_insert_null (absent : lookup key (before ++ after) = .null) :
    lookup key (before ++ (.str key, .null) :: after) = .null := by
  induction before with
  | nil => exact lookup_cons_self
  | cons entry rest ih =>
    obtain ⟨first, held⟩ := entry
    by_cases own : first = .str key
    · subst own
      exact lookup_cons_self.trans (lookup_cons_self.symm.trans absent)
    · rw [List.cons_append, lookup_cons_of_ne own] at absent ⊢
      exact ih absent

/-- Of several entries under one name the first counts. -/
theorem lookup_replace (key : String) (before after : List (Value × Value)) :
    (∀ v, lookup key (before ++ (.str key, v) :: after) = v) ∨
      ∃ held, ∀ v, lookup key (before ++ (.str key, v) :: after) = held := by
  induction before with
  | nil => exact Or.inl fun _ => lookup_cons_self
  | cons entry rest ih =>
    obtain ⟨first, held⟩ := entry
    by_cases own : first = .str key
    · subst own
      exact Or.inr ⟨held, fun _ => lookup_cons_self⟩
    · simpa only [List.cons_append, lookup_cons_of_ne own] using ih

theorem unpair_of_isMap {first second : String} (isMap : v.isMap = true) :
    v.unpair first second = v := by
  cases v with
  | map => rfl
  | _ => cases isMap

theorem isMap_of_entries? {held : List (Value × Value)} (opened : v.entries? = some held) :
    v.isMap = true := by
  cases v with
  | map => rfl
  | _ => cases opened

/-- The same value, or two that open to related contents. -/
def EquatedBy {β : Type} (contents : Value → Option β) (related : β → β → Prop) (v w : Value) :
    Prop :=
  v = w ∨ ∃ a b, contents v = some a ∧ contents w = some b ∧ related a b

end Value

namespace Shape

/-- The shape of the member of a name. -/
def ofMember? (name : String) : Shape → Option Shape
  | member other shape others => if other = name then some shape else others.ofMember? name
  | _ => none

/-- The shape of the items of a sequence. -/
def ofItems? : Shape → Option Shape
  | listOf shape => some shape
  | listOfEntries shape => some shape
  | oneOrMore shape => some shape
  | _ => none

/-- The shape of what stands under names of the user's own. -/
def ofValues? : Shape → Option Shape
  | fields shape => some shape
  | entries shape => some shape
  | _ => none

/-- Whether a value of the shape may be a sequence. -/
def isSequential : Shape → Bool
  | pair _ _ _ => true
  | shape => shape.ofItems?.isSome

/-- The items of a sequence, or the one item without a sequence around it. -/
def items? (shape : Shape) (value : Value) : Option (List Value) :=
  if shape.isSingle value then some [value] else value.sequence?

/-- A value and another way to write the same, different in one place: a shorthand written out, a
tuple for a list, or a record with another null or another key that the shape does not know. -/
inductive Respells : Shape → Value → Value → Prop
  /-- A pair may be written as the record of its two members. -/
  | pair {first second : String} {members : Shape} (a b : Value) :
      Respells (.pair first second members) (.list [a, b]) (.record [(first, a), (second, b)])
  | single {shape : Shape} {value : Value} (single : shape.isSingle value = true) :
      Respells (.oneOrMore shape) value (.list [value])
  | tuple {shape : Shape} (items : List Value) (sequential : shape.isSequential = true) :
      Respells shape (.list items) (.tuple items)
  | null {members : Shape} (name : String) (before after : List (Value × Value))
      (known : name ∈ members.names) (absent : (Value.map (before ++ after)).get name = .null) :
      Respells (.record members) (.map (before ++ after))
        (.map (before ++ (.str name, .null) :: after))
  | unknown {members : Shape} (key value : Value) (before after : List (Value × Value))
      (unknown : ∀ name, key = .str name → name ∉ members.names) :
      Respells (.record members) (.map (before ++ after)) (.map (before ++ (key, value) :: after))
  | inOptional {shape : Shape} {v w : Value} (step : Respells shape v w) :
      Respells (.optional shape) v w
  | inUnlessUntrue {shape : Shape} {v w : Value} (named : shape.ofValues?.isSome = true)
      (step : Respells shape v w) : Respells (.unlessUntrue shape) v w
  | inMember {members shape : Shape} {name : String} {v w : Value}
      (before after : List (Value × Value)) (known : members.ofMember? name = some shape)
      (step : Respells shape v w) :
      Respells (.record members) (.map (before ++ (.str name, v) :: after))
        (.map (before ++ (.str name, w) :: after))
  | inPair {first second : String} {members : Shape} {v w : Value}
      (step : Respells (.record members) v w) : Respells (.pair first second members) v w
  | inItem {shape item : Shape} {v w : Value} (before after : List Value)
      (items : shape.ofItems? = some item) (step : Respells item v w) :
      Respells shape (.list (before ++ v :: after)) (.list (before ++ w :: after))
  | inEntry {shape item : Shape} {key v w : Value} (before after : List (Value × Value))
      (values : shape.ofValues? = some item) (step : Respells item v w) :
      Respells shape (.map (before ++ (key, v) :: after)) (.map (before ++ (key, w) :: after))

/-- Two values that the shape tells nothing apart in. -/
def Equates : Shape → Value → Value → Prop
  | optional shape, v, w => v.isNull = w.isNull ∧ shape.Equates v w
  | unlessUntrue shape, v, w => v.isTrue = w.isTrue ∧ shape.Equates v w
  | record members, v, w => v = w ∨ v.isMap = true ∧ w.isMap = true ∧ members.Equates v w
  | member name shape others, v, w => shape.Equates (v.get name) (w.get name) ∧ others.Equates v w
  | noMore, _, _ => True
  | listOf shape, v, w =>
    Value.EquatedBy Value.sequence? (List.Forall₂ fun a b => shape.Equates a b) v w
  | listOfEntries shape, v, w =>
    Value.EquatedBy Value.sequence? (List.Forall₂ fun a b => shape.Equates a b) v w
  | oneOrMore shape, v, w =>
    Value.EquatedBy shape.items? (List.Forall₂ fun a b => shape.Equates a b) v w
  | fields shape, v, w =>
    Value.EquatedBy Value.entries? (List.Forall₂ fun a b => a.1 = b.1 ∧ shape.Equates a.2 b.2) v w
  | entries shape, v, w =>
    Value.EquatedBy Value.entries? (List.Forall₂ fun a b => a.1 = b.1 ∧ shape.Equates a.2 b.2) v w
  | pair first second members, v, w =>
    Value.EquatedBy Value.sequence? Eq v w ∨
      (v.unpair first second).isMap = true ∧ (w.unpair first second).isMap = true ∧
        members.Equates (v.unpair first second) (w.unpair first second)
  | _, v, w => v = w

variable {shape members item : Shape} {depth : Depth} {keyed : Bool} {v w : Value}

theorem Equates.refl (shape : Shape) (value : Value) : shape.Equates value value := by
  induction shape generalizing value with
  | optional shape ih | unlessUntrue shape ih => exact ⟨rfl, ih value⟩
  | member name shape others ihShape ihOthers => exact ⟨ihShape _, ihOthers value⟩
  | noMore => trivial
  | pair => exact Or.inl (Or.inl rfl)
  | text | integer | boolean => rfl
  | _ => exact Or.inl rfl

theorem isSingle_list (shape : Shape) (items : List Value) :
    shape.isSingle (.list items) = false := by
  cases shape <;> rfl

theorem isSingle_tuple (shape : Shape) (items : List Value) :
    shape.isSingle (.tuple items) = false := by
  cases shape <;> rfl

theorem items?_list (shape : Shape) (items : List Value) :
    shape.items? (.list items) = some items := by
  rw [items?, isSingle_list]
  rfl

theorem items?_tuple (shape : Shape) (items : List Value) :
    shape.items? (.tuple items) = some items := by
  rw [items?, isSingle_tuple]
  rfl

theorem items?_single (single : shape.isSingle v = true) : shape.items? v = some [v] := if_pos single

theorem isSingle_null (shape : Shape) : shape.isSingle .null = false := by
  cases shape <;> rfl

/-- What has several spellings is never null. -/
theorem Respells.given (step : shape.Respells v w) : v.isNull = false ∧ w.isNull = false := by
  induction step with
  | @single shape value single =>
    refine ⟨?_, rfl⟩
    cases value with
    | null => rw [isSingle_null] at single; cases single
    | _ => rfl
  | inOptional _ ih | inUnlessUntrue _ _ ih | inPair _ ih => exact ih
  | _ => exact ⟨rfl, rfl⟩

/-- Under names of the user's own there is as much in one spelling as in the other. -/
theorem Respells.isTrue_eq (step : shape.Respells v w) (named : shape.ofValues?.isSome = true) :
    v.isTrue = w.isTrue := by
  cases step with
  | tuple items sequential => cases shape <;> simp_all [isSequential, ofItems?, ofValues?]
  | inItem before after items => cases shape <;> simp_all [ofItems?, ofValues?]
  | inEntry before after => cases before <;> rfl
  | _ => cases named

theorem equates_of_get (chain : members.isChain = true)
    (same : ∀ name ∈ members.names, v.get name = w.get name) : members.Equates v w := by
  induction members with
  | member name shape others _ ih =>
    refine ⟨?_, ih chain fun other later => same other (List.mem_cons_of_mem name later)⟩
    rw [same name List.mem_cons_self]
    exact Equates.refl shape _
  | noMore => trivial
  | _ => cases chain

/-- Records that differ under one name only are equated when their members of that name are. -/
theorem equates_of_member {name : String} (orderly : members.isOrderly depth keyed = true)
    (chain : members.isChain = true) (known : members.ofMember? name = some item)
    (own : item.Equates (v.get name) (w.get name))
    (others : ∀ other, other ≠ name → v.get other = w.get other) : members.Equates v w := by
  induction members with
  | member first shape rest _ ih =>
    simp only [isOrderly, Bool.and_eq_true, Bool.not_eq_true', List.contains_eq_mem,
      decide_eq_false_iff_not] at orderly
    obtain ⟨⟨⟨_, once⟩, _⟩, _, restOrderly⟩ := orderly
    rw [ofMember?] at known
    split at known
    · rename_i same
      cases known
      cases same
      refine ⟨own, equates_of_get chain fun other later => others other ?_⟩
      exact fun same => once (same ▸ later)
    · rename_i apart
      refine ⟨?_, ih restOrderly chain known⟩
      rw [others first apart]
      exact Equates.refl shape _
  | _ => cases known

theorem forall₂_equates_replace (before after : List Value) (equated : item.Equates v w) :
    List.Forall₂ (fun a b => item.Equates a b) (before ++ v :: after) (before ++ w :: after) :=
  List.rel_append (R := fun a b => item.Equates a b)
    (List.forall₂_same.mpr fun value _ => Equates.refl item value)
    (.cons equated (List.forall₂_same.mpr fun value _ => Equates.refl item value))

theorem forall₂_equates_replaceEntry (key : Value) (before after : List (Value × Value))
    (equated : item.Equates v w) :
    List.Forall₂ (fun a b => a.1 = b.1 ∧ item.Equates a.2 b.2) (before ++ (key, v) :: after)
      (before ++ (key, w) :: after) :=
  List.rel_append (R := fun a b : Value × Value => a.1 = b.1 ∧ item.Equates a.2 b.2)
    (List.forall₂_same.mpr fun entry _ => ⟨rfl, Equates.refl item entry.2⟩)
    (.cons ⟨rfl, equated⟩ (List.forall₂_same.mpr fun entry _ => ⟨rfl, Equates.refl item entry.2⟩))

theorem isOrderly_of_member {name : String} (orderly : members.isOrderly depth keyed = true)
    (known : members.ofMember? name = some item) : item.isOrderly depth.below keyed = true := by
  induction members with
  | member first shape rest _ ih =>
    simp only [isOrderly, Bool.and_eq_true] at orderly
    rw [ofMember?] at known
    split at known
    · cases known
      exact orderly.1.2
    · exact ih orderly.2.2 known
  | _ => cases known

theorem isOrderly_of_items (orderly : shape.isOrderly depth keyed = true)
    (items : shape.ofItems? = some item) : ∃ below keyed', item.isOrderly below keyed' = true := by
  cases shape with
  | listOf | oneOrMore | listOfEntries =>
    cases items
    exact ⟨_, _, (Bool.and_eq_true_iff.mp orderly).2⟩
  | _ => cases items

theorem isOrderly_of_values (orderly : shape.isOrderly depth keyed = true)
    (values : shape.ofValues? = some item) : ∃ below keyed', item.isOrderly below keyed' = true := by
  cases shape with
  | fields | entries =>
    cases values
    exact ⟨_, _, (Bool.and_eq_true_iff.mp orderly).2⟩
  | _ => cases values

/-- Where members are named once, what is written in another way at one place is equated. -/
theorem Respells.equates (step : shape.Respells v w) (orderly : shape.isOrderly depth keyed = true) :
    shape.Equates v w := by
  induction step generalizing depth keyed with
  | @pair first second members a b =>
    exact Or.inr ⟨rfl, rfl, Equates.refl members _⟩
  | @single shape value single =>
    refine Or.inr ⟨_, _, items?_single single, items?_list shape _, ?_⟩
    exact .cons (Equates.refl shape value) .nil
  | @tuple shape items sequential =>
    have same (item : Shape) : List.Forall₂ (fun a b => item.Equates a b) items items :=
      List.forall₂_same.mpr fun value _ => Equates.refl item value
    cases shape with
    | listOf item | listOfEntries item => exact Or.inr ⟨items, items, rfl, rfl, same item⟩
    | oneOrMore item => exact Or.inr ⟨items, items, items?_list item _, items?_tuple item _, same item⟩
    | pair => exact Or.inl (Or.inr ⟨items, items, rfl, rfl, rfl⟩)
    | _ => cases sequential
  | @null members name before after known absent =>
    obtain ⟨chain, _⟩ := Bool.and_eq_true_iff.mp orderly
    refine Or.inr ⟨rfl, rfl, equates_of_get chain fun other _ => ?_⟩
    by_cases own : other = name
    · subst own
      exact absent.trans (Value.lookup_insert_null absent).symm
    · exact (Value.lookup_insert_of_ne fun same => own (Value.str.inj same).symm).symm
  | @unknown members key value before after unknown =>
    obtain ⟨chain, _⟩ := Bool.and_eq_true_iff.mp orderly
    refine Or.inr ⟨rfl, rfl, equates_of_get chain fun name member => ?_⟩
    exact (Value.lookup_insert_of_ne fun same => unknown name same member).symm
  | inOptional step ih =>
    obtain ⟨given, given'⟩ := step.given
    exact ⟨given.trans given'.symm, ih orderly⟩
  | inUnlessUntrue named step ih => exact ⟨step.isTrue_eq named, ih orderly⟩
  | @inMember members shape name v w before after known step ih =>
    obtain ⟨chain, within⟩ := Bool.and_eq_true_iff.mp orderly
    refine Or.inr ⟨rfl, rfl, equates_of_member within chain known ?_ fun other apart => ?_⟩
    · show shape.Equates (Value.lookup name _) (Value.lookup name _)
      -- an earlier entry of the same name hides the one that is written in another way
      rcases Value.lookup_replace name before after with seen | ⟨held, hidden⟩
      · rw [seen, seen]
        exact ih (isOrderly_of_member within known)
      · rw [hidden, hidden]
        exact Equates.refl shape held
    · have unnamed : Value.str name ≠ .str other := fun same => apart (Value.str.inj same).symm
      exact (Value.lookup_insert_of_ne unnamed).trans (Value.lookup_insert_of_ne unnamed).symm
  | @inPair first second members v w step ih =>
    rcases ih orderly with same | ⟨isMap, isMap', inner⟩
    · exact Or.inl (Or.inl same)
    · refine Or.inr ?_
      rw [Value.unpair_of_isMap isMap, Value.unpair_of_isMap isMap']
      exact ⟨isMap, isMap', inner⟩
  | @inItem shape item v w before after items step ih =>
    obtain ⟨below, keyed', itemOrderly⟩ := isOrderly_of_items orderly items
    have replaced := forall₂_equates_replace before after (ih itemOrderly)
    cases shape with
    | listOf | listOfEntries =>
      cases items
      exact Or.inr ⟨_, _, rfl, rfl, replaced⟩
    | oneOrMore =>
      cases items
      exact Or.inr ⟨_, _, items?_list item _, items?_list item _, replaced⟩
    | _ => cases items
  | @inEntry shape item key v w before after values step ih =>
    obtain ⟨below, keyed', itemOrderly⟩ := isOrderly_of_values orderly values
    have replaced := forall₂_equates_replaceEntry key before after (ih itemOrderly)
    cases shape with
    | fields | entries =>
      cases values
      exact Or.inr ⟨_, _, rfl, rfl, replaced⟩
    | _ => cases values

theorem flatMap_indexed_of_equates {β : Type} {check : String × Value → List β}
    {items items' : List Value} {related : Value → Value → Prop}
    (matched : List.Forall₂ related items items')
    (same : ∀ i a b, related a b → check (i, a) = check (i, b)) :
    (Value.indexed items).flatMap check = (Value.indexed items').flatMap check := by
  rw [Value.indexed, Value.indexed]
  generalize 0 = start
  induction matched generalizing start with
  | nil => rfl
  | cons own _ ih =>
    simp only [List.zipIdx_cons, List.map_cons, List.flatMap_cons]
    rw [same _ _ _ own, ih (start + 1)]

theorem mismatches_oneOrMore (shape : Shape) (place : Place) (value : Value) :
    (oneOrMore shape).mismatches place value =
      match shape.items? value with
      | some items =>
        (Value.indexed items).flatMap fun (i, item) => shape.mismatches (place.member i) item
      | none => [place.mistyped "a list" value] := by
  rw [mismatches, items?]
  split
  · exact (List.append_nil _).symm
  · rfl

theorem mismatches_pair (first second : String) (members : Shape) (place : Place) {value : Value}
    (isMap : (value.unpair first second).isMap = true) :
    (pair first second members).mismatches place value =
      members.mismatches place (value.unpair first second) := by
  by_cases paired : ∃ a b, value.sequence? = some [a, b]
  · obtain ⟨a, b, sequence⟩ := paired
    rw [mismatches, Value.unpair, sequence]
  · have other : value.unpair first second = value :=
      Value.unpair_of_not_pair fun a b sequence => paired ⟨a, b, sequence⟩
    rw [other] at isMap ⊢
    cases value with
    | map held => rfl
    | _ => cases isMap

/-- What a shape tells nothing apart in has the same mismatches. -/
theorem Equates.mismatches_eq (equated : shape.Equates v w) (place : Place) :
    shape.mismatches place v = shape.mismatches place w := by
  induction shape generalizing place v w with
  | optional shape ih =>
    obtain ⟨null, inner⟩ := equated
    rw [mismatches, mismatches, null, ih inner]
  | unlessUntrue shape ih =>
    obtain ⟨untrue, inner⟩ := equated
    rw [mismatches, mismatches, untrue, ih inner]
  | record members ih =>
    rcases equated with rfl | ⟨isMap, isMap', inner⟩
    · rfl
    · rw [mismatches, mismatches, if_pos isMap, if_pos isMap', ih inner]
  | member name shape others ihShape ihOthers =>
    rw [mismatches, mismatches, ihShape equated.1, ihOthers equated.2]
  | noMore => rfl
  | listOf shape ih | listOfEntries shape ih =>
    rcases equated with rfl | ⟨items, items', opened, opened', matched⟩
    · rfl
    · rw [mismatches, mismatches, opened, opened']
      exact flatMap_indexed_of_equates matched fun i a b inner => ih inner _
  | oneOrMore shape ih =>
    rcases equated with rfl | ⟨items, items', opened, opened', matched⟩
    · rfl
    · rw [mismatches_oneOrMore, mismatches_oneOrMore, opened, opened']
      exact flatMap_indexed_of_equates matched fun i a b inner => ih inner _
  | fields shape ih | entries shape ih =>
    rcases equated with rfl | ⟨held, held', opened, opened', matched⟩
    · rfl
    · rw [mismatches, mismatches, if_pos (Value.isMap_of_entries? opened),
        if_pos (Value.isMap_of_entries? opened'), Value.namedEntries, Value.namedEntries, opened, opened']
      clear opened opened'
      induction matched with
      | nil => rfl
      | cons own _ ihRest =>
        simp only [Option.getD_some, List.map_cons, List.flatMap_cons] at ihRest ⊢
        rw [own.1, ih own.2, ihRest]
  | pair first second members ih =>
    rcases equated with (rfl | ⟨items, items', opened, opened', rfl⟩) | ⟨isMap, isMap', inner⟩
    · rfl
    · rw [mismatches, mismatches, opened, opened']
      rcases items with _ | ⟨a, _ | ⟨b, _ | ⟨c, rest⟩⟩⟩ <;> rfl
    · rw [mismatches_pair _ _ _ _ isMap, mismatches_pair _ _ _ _ isMap', ih inner]
  | text | integer | boolean =>
    have same : v = w := equated
    rw [same]

end Shape

end BucketPlan
