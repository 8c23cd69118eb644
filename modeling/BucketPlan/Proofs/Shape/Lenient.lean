import BucketPlan.Proofs.Shape.Trail

namespace BucketPlan

/-- A turn without what it takes from the value. -/
def Turn.kind : Turn → Turn
  | member name => member name
  | item _ => item 0
  | field _ _ => field 0 ""
  | entry _ _ => entry 0 ""

namespace Shape

/-- The trails at which anything untrue goes for nothing, without what they take from the value. -/
def lenient : Shape → List Trail
  | text => []
  | integer => []
  | boolean => []
  | optional shape => shape.lenient
  | unlessUntrue shape => [] :: shape.lenient
  | record members => members.lenient
  | member name shape others => shape.lenient.map (.member name :: ·) ++ others.lenient
  | noMore => []
  | listOf shape => shape.lenient.map (.item 0 :: ·)
  | listOfEntries shape => shape.lenient.map (.entry 0 "" :: ·)
  | oneOrMore shape => shape.lenient.map (.item 0 :: ·)
  | fields shape => shape.lenient.map (.field 0 "" :: ·)
  | entries shape => shape.lenient.map (.entry 0 "" :: ·)
  | pair _ _ members => members.lenient

variable {shape : Shape} {depth : Depth} {keyed : Bool}

theorem mem_lenient_of_isChain {members : Shape} (chain : members.isChain = true) {trail : Trail}
    (member : trail ∈ members.lenient) :
    ∃ name ∈ members.names, ∃ rest, trail = .member name :: rest := by
  induction members with
  | member name shape others _ ih =>
    rcases List.mem_append.mp member with own | later
    · obtain ⟨rest, _, rfl⟩ := List.mem_map.mp own
      exact ⟨name, List.mem_cons_self, rest, rfl⟩
    · obtain ⟨other, known, rest, rfl⟩ := ih chain later
      exact ⟨other, List.mem_cons_of_mem name known, rest, rfl⟩
  | noMore => cases member
  | _ => cases chain

theorem nil_not_mem_lenient {members : Shape} (chain : members.isChain = true) :
    [] ∉ members.lenient := by
  intro member
  obtain ⟨name, _, rest, same⟩ := mem_lenient_of_isChain chain member
  cases same

theorem overlooks_iff (orderly : shape.isOrderly depth keyed = true) {value : Value} :
    shape.overlooks value = true ↔ value.isTrue = false ∧ [] ∈ shape.lenient := by
  induction shape generalizing depth keyed with
  | optional shape ih => exact ih orderly
  | unlessUntrue shape ih =>
    simpa [overlooks, lenient] using fun within => ((ih orderly).mp within).1
  | record members | pair first second members =>
    have inside := nil_not_mem_lenient (Bool.and_eq_true_iff.mp orderly).1
    simpa [overlooks, lenient] using fun _ => inside
  | member name shape others =>
    have chain := (Bool.and_eq_true_iff.mp (Bool.and_eq_true_iff.mp orderly).2).1
    simpa [overlooks, lenient] using fun _ => nil_not_mem_lenient chain
  | _ => simp [overlooks, lenient]

theorem kind_cons_mem_lenient_iff (orderly : shape.isOrderly depth keyed = true) {value : Value}
    {part : Part} (inside : part ∈ shape.parts value) {rest : Trail} :
    part.turn.kind :: rest ∈ shape.lenient ↔ rest ∈ part.shape.lenient := by
  induction shape generalizing depth keyed value with
  | text | integer | boolean | noMore => cases inside
  | optional shape ih =>
    rw [parts] at inside
    split at inside
    · cases inside
    · exact ih orderly inside
  | unlessUntrue shape ih =>
    rw [parts] at inside
    split at inside
    · simpa [lenient] using ih orderly inside
    · cases inside
  | record members ih => exact ih (Bool.and_eq_true_iff.mp orderly).2 inside
  | member name shape others _ ih =>
    simp only [isOrderly, Bool.and_eq_true, Bool.not_eq_true', List.contains_eq_mem,
      decide_eq_false_iff_not] at orderly
    obtain ⟨⟨⟨_, fresh⟩, _⟩, chain, others'⟩ := orderly
    rcases List.mem_cons.mp inside with rfl | later
    · have elsewhere : .member name :: rest ∉ others.lenient := by
        intro member
        obtain ⟨other, known, _, same⟩ := mem_lenient_of_isChain chain member
        cases same
        exact fresh known
      simp [lenient, Turn.kind, elsewhere]
    · obtain ⟨other, known, turn⟩ := mem_names_of_mem_parts chain later
      have apart : name ≠ other := fun same => fresh (same ▸ known)
      rw [← ih others' later, turn]
      simp [lenient, Turn.kind, apart]
  | listOf shape | listOfEntries shape | fields shape | entries shape =>
    obtain ⟨⟨_, _⟩, _, rfl⟩ := List.mem_map.mp inside
    simp [lenient, Turn.kind]
  | oneOrMore shape =>
    rw [parts] at inside
    split at inside
    · cases List.mem_singleton.mp inside
      simp [lenient, Turn.kind]
    · obtain ⟨⟨_, _⟩, _, rfl⟩ := List.mem_map.mp inside
      simp [lenient, Turn.kind]
  | pair first second members ih => exact ih (Bool.and_eq_true_iff.mp orderly).2 inside

/-- A trail ends where something untrue goes for nothing exactly when its turns are those of such a
trail. -/
theorem Leads.overlooks_iff {declared : Shape} {value held : Value} {trail : Trail}
    (leads : shape.Leads value trail declared held) (orderly : shape.isOrderly depth keyed = true) :
    declared.overlooks held = true ↔ held.isTrue = false ∧ trail.map Turn.kind ∈ shape.lenient := by
  induction leads generalizing depth keyed with
  | here => exact Shape.overlooks_iff orderly
  | into accepted inside further ih =>
    obtain ⟨_, _, _, inner⟩ := isOrderly_of_mem_parts orderly inside
    rw [List.map_cons, kind_cons_mem_lenient_iff orderly inside]
    exact ih inner

end Shape

/-- The trails to the destinations of notifications and to the tierings of a rule. -/
def Trail.IsLenient (trail : Trail) : Prop :=
  trail = [.member "notifications", .member "destinations"] ∨
    ∃ index rule, trail = [.member "intelligent_tiering_rules", .entry index rule, .member "tierings"]

theorem Descriptor.lenient_shape : shape.lenient =
    [[.member "notifications", .member "destinations"],
      [.member "intelligent_tiering_rules", .entry 0 "", .member "tierings"]] := by
  decide +kernel

theorem Turn.kind_eq_member {turn : Turn} {name : String} :
    turn.kind = .member name ↔ turn = .member name := by
  cases turn <;> simp [kind]

theorem Turn.kind_eq_entry {turn : Turn} :
    turn.kind = .entry 0 "" ↔ ∃ index name, turn = .entry index name := by
  cases turn <;> simp [kind]

theorem Trail.isLenient_iff {trail : Trail} :
    trail.IsLenient ↔ trail.map Turn.kind ∈ Descriptor.shape.lenient := by
  rw [Descriptor.lenient_shape]
  simp only [List.mem_cons, List.not_mem_nil, or_false, List.map_eq_cons_iff, List.map_eq_nil_iff,
    Turn.kind_eq_member, Turn.kind_eq_entry]
  constructor
  · rintro (rfl | ⟨index, rule, rfl⟩)
    · exact Or.inl ⟨_, _, rfl, rfl, _, _, rfl, rfl, rfl⟩
    · exact Or.inr ⟨_, _, rfl, rfl, _, _, rfl, ⟨_, _, rfl⟩, _, _, rfl, rfl, rfl⟩
  · rintro (⟨_, _, rfl, rfl, _, _, rfl, rfl, rfl⟩ |
      ⟨_, _, rfl, rfl, _, _, rfl, ⟨index, rule, rfl⟩, _, _, rfl, rfl, rfl⟩)
    · exact Or.inl rfl
    · exact Or.inr ⟨index, rule, rfl⟩

end BucketPlan
