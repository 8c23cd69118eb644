import BucketPlan.Proofs.Shape.Trail
import Mathlib.Data.List.Nodup

namespace BucketPlan

theorem forall₂_flatMap {α β γ : Type} {related : β → γ → Prop} {items : List α} {first : α → List β}
    {second : α → List γ} (each : ∀ item ∈ items, List.Forall₂ related (first item) (second item)) :
    List.Forall₂ related (items.flatMap first) (items.flatMap second) := by
  induction items with
  | nil => exact .nil
  | cons item rest ih =>
    obtain ⟨own, others⟩ := List.forall_mem_cons.mp each
    exact List.rel_append own (ih others)

/-- Where an item or an entry stands. -/
def Turn.index : Turn → Nat
  | member _ => 0
  | item index => index
  | field index _ => index
  | entry index _ => index

namespace Value

variable {α : Type} {value : Value} {shape : Shape}

theorem flatMap_itemParts {items : List Value} (sequence : value.sequence? = some items)
    (turn : Nat → Turn) (check : Part → List α) :
    (value.itemParts turn shape).flatMap check =
      items.zipIdx.flatMap fun (item, i) => check ⟨turn i, shape, item⟩ := by
  rw [itemParts, sequence, List.flatMap_map]
  rfl

theorem flatMap_indexed (items : List Value) (check : String × Value → List α) :
    (indexed items).flatMap check = items.zipIdx.flatMap fun (item, i) => check (toString i, item) := by
  rw [indexed, List.flatMap_map]

theorem flatMap_entryParts (turn : Nat → String → Turn) (check : Part → List α)
    (byName : String × Value → List α)
    (same : ∀ i name item, check ⟨turn i name, shape, item⟩ = byName (name, item)) :
    (value.entryParts turn shape).flatMap check = value.namedEntries.flatMap byName := by
  rw [entryParts, List.flatMap_map]
  conv_rhs => rw [← List.zipIdx_map_fst 0 value.namedEntries, List.flatMap_map]
  simp only [same]

theorem nodup_itemParts (value : Value) {turn : Nat → Turn} (counted : ∀ i, (turn i).index = i) :
    ((value.itemParts turn shape).map Part.turn).Nodup := by
  refine List.Nodup.of_map Turn.index ?_
  have indices : ((value.itemParts turn shape).map Part.turn).map Turn.index =
      (value.sequence?.getD []).zipIdx.map Prod.snd := by
    simp only [itemParts, List.map_map, Function.comp_def, counted]
  rw [indices, List.zipIdx_map_snd]
  exact List.nodup_range'

theorem nodup_entryParts (value : Value) {turn : Nat → String → Turn}
    (counted : ∀ i name, (turn i name).index = i) :
    ((value.entryParts turn shape).map Part.turn).Nodup := by
  refine List.Nodup.of_map Turn.index ?_
  have indices : ((value.entryParts turn shape).map Part.turn).map Turn.index =
      value.namedEntries.zipIdx.map Prod.snd := by
    simp only [entryParts, List.map_map, Function.comp_def, counted]
  rw [indices, List.zipIdx_map_snd]
  exact List.nodup_range'

theorem unpair_of_not_pair {first second : String}
    (other : ∀ a b, value.sequence? ≠ some [a, b]) : value.unpair first second = value := by
  unfold unpair
  split
  · rename_i a b sequence
    exact absurd sequence (other a b)
  · rfl

theorem isMap_eq_false_of_sequence {items : List Value} (sequence : value.sequence? = some items) :
    value.isMap = false := by
  cases value with
  | map => cases sequence
  | _ => rfl

end Value

namespace Shape

/-- Either a shape complains of the value itself, or it leaves that to the shapes of what it looks at
inside. -/
def Settles (shape : Shape) (place : Place) (value : Value) : Prop :=
  (shape.complains value = true ∧
    ∃ message, shape.mismatches place value = [place.violation message]) ∨
  (shape.complains value = false ∧ shape.mismatches place value =
    (shape.parts value).flatMap fun part => part.shape.mismatches (place.turn part.turn) part.value)

variable {shape : Shape} {place : Place} {value : Value}

theorem settles_of_strict (strict : shape.overlooks value = false)
    (accepting : shape.accepts value = true → shape.mismatches place value =
      (shape.parts value).flatMap fun part => part.shape.mismatches (place.turn part.turn) part.value)
    (refusing : shape.accepts value = false →
      ∃ message, shape.mismatches place value = [place.violation message]) :
    shape.Settles place value := by
  cases fits : shape.accepts value with
  | true => exact Or.inr ⟨by simp [complains, fits], accepting fits⟩
  | false => exact Or.inl ⟨by simp [complains, fits, strict], refusing fits⟩

/-- The members of a record are checked one after the other, whatever holds them. -/
theorem mismatches_of_isChain {members : Shape} (chain : members.isChain = true) (place : Place)
    (value : Value) :
    members.mismatches place value = (members.parts value).flatMap fun part =>
      part.shape.mismatches (place.turn part.turn) part.value := by
  induction members with
  | member name shape others _ ih =>
    rw [mismatches, parts, List.flatMap_cons, ih chain]
    rfl
  | noMore => rfl
  | _ => cases chain

theorem settles_pair {first second : String} {members : Shape} (chain : members.isChain = true)
    (place : Place) (value : Value) : (pair first second members).Settles place value := by
  have asRecord := mismatches_of_isChain chain place (value.unpair first second)
  by_cases isPair : ∃ a b, value.sequence? = some [a, b]
  · obtain ⟨a, b, sequence⟩ := isPair
    refine Or.inr ⟨by simp [complains, accepts, sequence], ?_⟩
    simp only [Value.unpair, sequence] at asRecord
    simpa only [mismatches, parts, Value.unpair, sequence] using asRecord
  · have same : value.unpair first second = value :=
      Value.unpair_of_not_pair fun a b sequence => isPair ⟨a, b, sequence⟩
    rw [same] at asRecord
    cases sequence : value.sequence? with
    | none =>
      refine settles_of_strict rfl (fun fits => ?_) fun unfit => ?_
      · simp only [accepts, sequence, Option.any_none, Bool.or_false] at fits
        simpa only [mismatches, parts, same, sequence, fits, if_true] using asRecord
      · simp only [accepts, sequence, Option.any_none, Bool.or_false] at unfit
        simp only [mismatches, sequence, unfit, Bool.false_eq_true, if_false]
        exact ⟨_, rfl⟩
    | some items =>
      have notMap := Value.isMap_eq_false_of_sequence sequence
      have notTwo : items.length ≠ 2 := by
        intro two
        obtain ⟨a, b, rfl⟩ := List.length_eq_two.mp two
        exact isPair ⟨a, b, sequence⟩
      refine Or.inl ⟨by simp [complains, accepts, overlooks, notMap, sequence, notTwo], ?_⟩
      rw [mismatches, sequence]
      split
      · rename_i a b found
        exact absurd ⟨a, b, sequence.trans found⟩ isPair
      · exact ⟨_, rfl⟩
      · rename_i found
        cases found

theorem settles_of_isOrderly {depth : Depth} {keyed : Bool}
    (orderly : shape.isOrderly depth keyed = true) (place : Place) (value : Value) :
    shape.Settles place value := by
  induction shape generalizing depth keyed value with
  | text | integer | boolean =>
    exact settles_of_strict rfl (fun fits => if_pos fits)
      fun unfit => ⟨_, if_neg (Bool.eq_false_iff.mp unfit)⟩
  | optional shape ih =>
    cases absent : value.isNull with
    | true =>
      refine Or.inr ⟨by simp [complains, accepts, absent], ?_⟩
      simp [mismatches, parts, absent]
    | false =>
      have own := ih orderly value
      simpa [Settles, complains, accepts, overlooks, mismatches, parts, absent] using own
  | unlessUntrue shape ih =>
    cases holds : value.isTrue with
    | false =>
      refine Or.inr ⟨by simp [complains, overlooks, holds], ?_⟩
      simp [mismatches, parts, holds]
    | true =>
      have given : value.isNull = false := by
        cases value with
        | null => cases holds
        | _ => rfl
      have own := ih orderly value
      simpa [Settles, complains, accepts, overlooks, mismatches, parts, holds, given] using own
  | record members =>
    obtain ⟨chain, _⟩ := Bool.and_eq_true_iff.mp orderly
    exact settles_of_strict rfl
      (fun fits => (if_pos fits).trans (mismatches_of_isChain chain place value))
      fun unfit => ⟨_, if_neg (Bool.eq_false_iff.mp unfit)⟩
  | member name shape others =>
    have chain : (member name shape others).isChain = true :=
      (Bool.and_eq_true_iff.mp (Bool.and_eq_true_iff.mp orderly).2).1
    exact Or.inr ⟨rfl, mismatches_of_isChain chain place value⟩
  | noMore => exact Or.inr ⟨rfl, rfl⟩
  | listOf shape | listOfEntries shape =>
    refine settles_of_strict rfl (fun fits => ?_) fun unfit => ?_
    · obtain ⟨items, sequence⟩ := Option.isSome_iff_exists.mp fits
      rw [mismatches, parts, Value.flatMap_itemParts sequence, sequence]
      exact Value.flatMap_indexed items _
    · rw [mismatches, Option.not_isSome_iff_eq_none.mp (Bool.eq_false_iff.mp unfit)]
      exact ⟨_, rfl⟩
  | oneOrMore shape =>
    cases single : shape.isSingle value with
    | true =>
      refine Or.inr ⟨by simp [complains, accepts, single], ?_⟩
      rw [mismatches, parts, if_pos single, if_pos single, List.flatMap_singleton]
      rfl
    | false =>
      refine settles_of_strict rfl (fun fits => ?_) fun unfit => ?_
      · simp only [accepts, single, Bool.false_or] at fits
        obtain ⟨items, sequence⟩ := Option.isSome_iff_exists.mp fits
        simp only [mismatches, parts, single, Bool.false_eq_true, if_false,
          Value.flatMap_itemParts sequence, sequence]
        exact Value.flatMap_indexed items _
      · simp only [accepts, single, Bool.false_or] at unfit
        simp only [mismatches, single, Bool.false_eq_true, if_false,
          Option.not_isSome_iff_eq_none.mp (Bool.eq_false_iff.mp unfit)]
        exact ⟨_, rfl⟩
  | fields shape | entries shape =>
    exact settles_of_strict rfl
      (fun fits => (if_pos fits).trans (Value.flatMap_entryParts _ _ _ fun _ _ _ => rfl).symm)
      fun unfit => ⟨_, if_neg (Bool.eq_false_iff.mp unfit)⟩
  | pair first second members =>
    obtain ⟨chain, _⟩ := Bool.and_eq_true_iff.mp orderly
    exact settles_pair chain place value

/-- The trails to all that a shape complains of, in the order of the complaints. -/
def complaints (shape : Shape) (value : Value) : List Trail :=
  if shape.complains value then [[]]
  else (shape.parts value).attach.flatMap fun ⟨part, _⟩ =>
    (part.shape.complaints part.value).map (part.turn :: ·)
termination_by sizeOf shape
decreasing_by exact sizeOf_lt_of_mem_parts (by assumption)

theorem complaints_of_complains (complains : shape.complains value = true) :
    shape.complaints value = [[]] := by
  rw [complaints, if_pos complains]

theorem complaints_of_silent (silent : shape.complains value = false) :
    shape.complaints value = (shape.parts value).flatMap fun part =>
      (part.shape.complaints part.value).map (part.turn :: ·) := by
  rw [complaints, if_neg (by simp [silent])]
  simp

/-- Only what is of the right kind is looked into. -/
theorem accepts_of_mem_parts (silent : shape.complains value = false) {part : Part}
    (inside : part ∈ shape.parts value) : shape.accepts value = true := by
  cases fits : shape.accepts value with
  | true => rfl
  | false =>
    have overlooked : shape.overlooks value = true := by simpa [complains, fits] using silent
    rw [parts_of_overlooks overlooked] at inside
    cases inside

/-- A shape complains at the end of those trails, among all that lead into a value, which end at
something it complains of. -/
theorem mem_complaints {trail : Trail} : trail ∈ shape.complaints value ↔
    ∃ declared held, shape.Leads value trail declared held ∧ declared.complains held = true := by
  induction shape, value using partInduction generalizing trail with
  | step shape value ih =>
    cases complaining : shape.complains value with
    | true =>
      rw [complaints_of_complains complaining, List.mem_singleton]
      constructor
      · rintro rfl
        exact ⟨shape, value, .here, complaining⟩
      · intro found
        obtain ⟨declared, held, leads, _⟩ := found
        cases leads with
        | here => rfl
        | into accepted => simp [complains, accepted] at complaining
    | false =>
      rw [complaints_of_silent complaining]
      simp only [List.mem_flatMap, List.mem_map]
      constructor
      · intro found
        obtain ⟨part, inside, rest, member, rfl⟩ := found
        obtain ⟨declared, held, leads, complains⟩ := (ih part inside).mp member
        exact ⟨declared, held, .into (accepts_of_mem_parts complaining inside) inside leads, complains⟩
      · intro found
        obtain ⟨declared, held, leads, complains⟩ := found
        cases leads with
        | here => cases complaining.symm.trans complains
        | @into _ _ _ _ rest part _ inside further =>
          exact ⟨part, inside, rest, (ih part inside).mpr ⟨declared, held, further, complains⟩, rfl⟩

/-- No two parts of a value are found by the same turn. -/
theorem nodup_turns {depth : Depth} {keyed : Bool} (orderly : shape.isOrderly depth keyed = true)
    (value : Value) : ((shape.parts value).map Part.turn).Nodup := by
  induction shape generalizing depth keyed value with
  | text | integer | boolean | noMore => exact List.nodup_nil
  | optional shape ih =>
    rw [parts]
    split
    · exact List.nodup_nil
    · exact ih orderly value
  | unlessUntrue shape ih =>
    rw [parts]
    split
    · exact ih orderly value
    · exact List.nodup_nil
  | record members ih => exact ih (Bool.and_eq_true_iff.mp orderly).2 value
  | member name shape others _ ih =>
    simp only [isOrderly, Bool.and_eq_true, Bool.not_eq_true', List.contains_eq_mem,
      decide_eq_false_iff_not] at orderly
    obtain ⟨⟨⟨_, fresh⟩, _⟩, chain, rest⟩ := orderly
    rw [parts, List.map_cons, List.nodup_cons]
    refine ⟨fun again => ?_, ih rest value⟩
    obtain ⟨part, inside, same⟩ := List.mem_map.mp again
    obtain ⟨other, member, turn⟩ := mem_names_of_mem_parts chain inside
    cases same.symm.trans turn
    exact fresh member
  | listOf shape => exact Value.nodup_itemParts value fun _ => rfl
  | listOfEntries shape => exact Value.nodup_itemParts value fun _ => rfl
  | oneOrMore shape =>
    rw [parts]
    split
    · exact List.nodup_singleton _
    · exact Value.nodup_itemParts value fun _ => rfl
  | fields shape => exact Value.nodup_entryParts value fun _ _ => rfl
  | entries shape => exact Value.nodup_entryParts value fun _ _ => rfl
  | pair first second members ih => exact ih (Bool.and_eq_true_iff.mp orderly).2 _

theorem nodup_complaints {depth : Depth} {keyed : Bool} (orderly : shape.isOrderly depth keyed = true)
    (value : Value) : (shape.complaints value).Nodup := by
  induction shape, value using partInduction generalizing depth keyed with
  | step shape value ih =>
    cases complaining : shape.complains value with
    | true => simp [complaints_of_complains complaining]
    | false =>
      rw [complaints_of_silent complaining, List.nodup_flatMap]
      refine ⟨fun part inside => ?_, ?_⟩
      · obtain ⟨_, _, _, inner⟩ := isOrderly_of_mem_parts orderly inside
        exact (ih part inside inner).map (List.cons_injective)
      · refine (List.pairwise_map.mp (nodup_turns orderly value)).imp fun apart => ?_
        intro trail first second
        obtain ⟨_, _, rfl⟩ := List.mem_map.mp first
        obtain ⟨_, _, same⟩ := List.mem_map.mp second
        exact apart (List.cons_eq_cons.mp same).1.symm

/-- What a shape has to say of a value stands at the ends of the trails to what it complains of, each
once and in their order. -/
theorem forall₂_complaints {depth : Depth} {keyed : Bool}
    (orderly : shape.isOrderly depth keyed = true) (place : Place) (value : Value) :
    List.Forall₂ (fun trail v => ∃ message, v = (place.follow trail).violation message)
      (shape.complaints value) (shape.mismatches place value) := by
  induction shape, value using partInduction generalizing depth keyed place with
  | step shape value ih =>
    rcases settles_of_isOrderly orderly place value with ⟨complaining, message, single⟩ | ⟨silent, each⟩
    · rw [complaints_of_complains complaining, single]
      exact .cons ⟨message, rfl⟩ .nil
    · rw [complaints_of_silent silent, each]
      refine forall₂_flatMap fun part inside => ?_
      obtain ⟨_, _, _, inner⟩ := isOrderly_of_mem_parts orderly inside
      exact List.forall₂_map_left_iff.mpr (ih part inside inner _)

theorem leads_of_mem {depth : Depth} {keyed : Bool} (orderly : shape.isOrderly depth keyed = true)
    {v : Violation} (member : v ∈ shape.mismatches place value) : ∃ trail declared held message,
      shape.Leads value trail declared held ∧ declared.complains held = true ∧
        v = (place.follow trail).violation message := by
  have placed := forall₂_complaints orderly place value
  obtain ⟨⟨i, inLog⟩, rfl⟩ := List.mem_iff_get.mp member
  have inTrails : i < (shape.complaints value).length := placed.length_eq ▸ inLog
  obtain ⟨message, found⟩ := placed.get inTrails inLog
  obtain ⟨declared, held, leads, complaining⟩ := mem_complaints.mp (List.get_mem _ ⟨i, inTrails⟩)
  exact ⟨_, declared, held, message, leads, complaining, found⟩

theorem code_of_mem {depth : Depth} {keyed : Bool} (orderly : shape.isOrderly depth keyed = true)
    {v : Violation} (member : v ∈ shape.mismatches place value) : v.code = .outOfRange := by
  obtain ⟨_, _, _, _, _, _, rfl⟩ := leads_of_mem orderly member
  rfl

end Shape

end BucketPlan
