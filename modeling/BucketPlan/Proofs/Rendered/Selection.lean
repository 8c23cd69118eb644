import Mathlib.Data.List.Nodup
import BucketPlan.Proofs.Filter
import BucketPlan.Proofs.Rendered.Member

namespace BucketPlan

/-- An object as filters see it. -/
structure StoredObject where
  key : String
  tags : Keyed String := {}
  size : Nat

/-- What may be asked of an object. -/
inductive Condition where
  | keyPrefix (text : String)
  | tag (name value : String)
  | sizeAbove (size : Int)
  | sizeBelow (size : Int)
deriving DecidableEq, Repr

def Condition.Holds (object : StoredObject) : Condition → Prop
  | keyPrefix text => text.toList <+: object.key.toList
  | tag name value => object.tags.get? name = some value
  | sizeAbove size => size < object.size
  | sizeBelow size => object.size < size

def ObjectFilter.conditions (filter : ObjectFilter) : List Condition :=
  filter.keyPrefix.toList.map .keyPrefix ++
    filter.tags.entries.map (fun (name, value) => .tag name value) ++
    filter.sizeAbove.toList.map .sizeAbove ++ filter.sizeBelow.toList.map .sizeBelow

namespace Value

/-- A tag with its value. -/
def tagCondition? (tag : Value) : Option Condition :=
  match tag.member? "Key", tag.member? "Value" with
  | some (.str name), some (.str value) => some (.tag name value)
  | _, _ => none

/-- The condition of a member that can stand alone as well as in a conjunction. -/
def plainCondition? : String → Value → Option Condition
  | "Prefix", .str text => some (.keyPrefix text)
  | "ObjectSizeGreaterThan", .int size => some (.sizeAbove size)
  | "ObjectSizeLessThan", .int size => some (.sizeBelow size)
  | _, _ => none

/-- The conditions of one member of a conjunction, in which all tags are together. -/
def conjunct? : String × Value → Option (List Condition)
  | ("Tags", .list tags) => tags.mapM tagCondition?
  | (name, item) => (plainCondition? name item).map ([·])

def conjuncts? (members : List (String × Value)) : Option (List Condition) :=
  (members.mapM conjunct?).map List.flatten

/-- The conditions that the filter of a request consists of. It has a single member, which is a
condition or a conjunction. -/
def conditions? (request : Value) : Option (List Condition) :=
  match request with
  | .map [(.str "And", conjunction)] => conjuncts? conjunction.members
  | .map [(.str "Tag", tag)] => (tagCondition? tag).map ([·])
  | .map [(.str name, item)] => (plainCondition? name item).map ([·])
  | _ => none

/-- A filter selects the objects of which all its conditions hold; one that cannot be read selects
nothing. -/
def Selects (request : Value) (object : StoredObject) : Prop :=
  ∃ conditions, request.conditions? = some conditions ∧
    ∀ condition ∈ conditions, condition.Holds object

theorem conjuncts?_append {first second : List (String × Value)} {own other : List Condition}
    (reads : conjuncts? first = some own) (reads' : conjuncts? second = some other) :
    conjuncts? (first ++ second) = some (own ++ other) := by
  obtain ⟨parts, found, rfl⟩ := Option.map_eq_some_iff.mp reads
  obtain ⟨parts', found', rfl⟩ := Option.map_eq_some_iff.mp reads'
  simp [conjuncts?, found, found']

theorem conjuncts?_singleton (member : String × Value) : conjuncts? [member] = conjunct? member := by
  rw [conjuncts?, List.mapM_cons]
  cases conjunct? member with
  | none => rfl
  | some own => simp

theorem conjuncts?_tags (tags : List (String × String)) :
    conjuncts? (fieldsIf (!tags.isEmpty) [("Tags", tagSet tags)]) =
      some (tags.map fun (name, value) => .tag name value) := by
  have read : (tags.map fun (name, value) =>
      record [("Key", plain name), ("Value", plain value)]).mapM tagCondition? =
        some (tags.map fun (name, value) => .tag name value) := by
    rw [List.mapM_map]
    exact List.mapM_pure
  cases tags with
  | nil => rfl
  | cons tag rest => exact (conjuncts?_singleton _).trans read

end Value

namespace FilterPlan

def conditions (filter : FilterPlan) : List Condition :=
  filter.keyPrefix.toList.map .keyPrefix ++
    filter.tags.map (fun (name, value) => .tag name value) ++
    filter.sizeAbove.toList.map .sizeAbove ++ filter.sizeBelow.toList.map .sizeBelow

theorem predicates_eq_length (filter : FilterPlan) : filter.predicates = filter.conditions.length := by
  simp [predicates, conditions, Nat.add_assoc]

theorem conjuncts?_conjunction (filter : FilterPlan) :
    Value.conjuncts? filter.conjunction.members = some filter.conditions := by
  have keyPrefix : Value.conjuncts? (fieldIfSet "Prefix" filter.keyPrefix) =
      some (filter.keyPrefix.toList.map .keyPrefix) := by
    cases filter.keyPrefix <;> rfl
  have above : Value.conjuncts? (fieldIfSet "ObjectSizeGreaterThan" filter.sizeAbove) =
      some (filter.sizeAbove.toList.map .sizeAbove) := by
    cases filter.sizeAbove <;> rfl
  have below : Value.conjuncts? (fieldIfSet "ObjectSizeLessThan" filter.sizeBelow) =
      some (filter.sizeBelow.toList.map .sizeBelow) := by
    cases filter.sizeBelow <;> rfl
  rw [conjunction, Value.members_record]
  exact Value.conjuncts?_append (Value.conjuncts?_append (Value.conjuncts?_append keyPrefix
    (Value.conjuncts?_tags filter.tags)) above) below

/-- A single condition stands alone, whichever of the four kinds it is of. -/
theorem conditions?_single {filter : FilterPlan} (single : filter.predicates = 1) :
    filter.request.conditions? = some filter.conditions := by
  have alone : ¬filter.isEmpty = true ∧ ¬filter.isConjunctive = true := by
    simp [isEmpty, isConjunctive, single]
  rw [request, if_neg alone.1, if_neg alone.2]
  obtain ⟨keyPrefix, tags, above, below⟩ := filter
  cases keyPrefix with
  | some text =>
    obtain ⟨rfl, rfl, rfl⟩ : tags = [] ∧ above = none ∧ below = none := by
      simpa [predicates, Nat.add_assoc] using single
    rfl
  | none =>
    cases tags with
    | cons tag rest =>
      obtain ⟨⟨rfl, rfl⟩, rfl⟩ : (rest = [] ∧ above = none) ∧ below = none := by
        simpa [predicates, Nat.add_right_comm _ 1] using single
      rfl
    | nil =>
      cases above with
      | some size =>
        obtain rfl : below = none := by simpa [predicates] using single
        rfl
      | none =>
        obtain ⟨size, rfl⟩ : ∃ size, below = some size := by
          cases below with
          | none => cases single
          | some size => exact ⟨size, rfl⟩
        rfl

/-- What a request states is what its plan asks for; where that is nothing, it states the empty
prefix. -/
theorem conditions?_request (filter : FilterPlan) :
    filter.request.conditions? =
      some (if filter.conditions = [] then [.keyPrefix ""] else filter.conditions) := by
  by_cases none : filter.conditions = []
  · have isEmpty : filter.isEmpty = true := by simp [isEmpty, predicates_eq_length, none]
    rw [request, if_pos isEmpty, if_pos none]
    rfl
  · have some : ¬filter.isEmpty = true := by simpa [isEmpty, predicates_eq_length] using none
    rw [if_neg none]
    by_cases several : filter.isConjunctive = true
    · rw [request, if_neg some, if_pos several]
      exact filter.conjuncts?_conjunction
    · refine conditions?_single ?_
      simp only [isConjunctive, decide_eq_true_eq] at several
      simp only [isEmpty, beq_iff_eq] at some
      omega

theorem selects_request_iff (filter : FilterPlan) (object : StoredObject) :
    filter.request.Selects object ↔ ∀ condition ∈ filter.conditions, condition.Holds object := by
  simp only [Value.Selects, conditions?_request, Option.some.injEq, exists_eq_left']
  by_cases none : filter.conditions = []
  · simp [none, Condition.Holds]
  · rw [if_neg none]

/-- A request has one member, which is a conjunction exactly where there are several conditions. -/
theorem request_eq_singleton (filter : FilterPlan) : ∃ name item,
    filter.request = .record [(name, item)] ∧ (name = "And" ↔ 2 ≤ filter.conditions.length) := by
  rw [← predicates_eq_length, request]
  split
  · rename_i isEmpty
    simp only [FilterPlan.isEmpty, beq_iff_eq] at isEmpty
    exact ⟨_, _, rfl, by simp [isEmpty]⟩
  · split
    · rename_i several
      exact ⟨_, _, rfl, iff_of_true rfl (of_decide_eq_true several)⟩
    · rename_i alone
      have few : ¬2 ≤ filter.predicates := by simpa [isConjunctive, Nat.succ_le_iff] using alone
      split
      all_goals exact ⟨_, _, rfl, iff_of_false (by decide) few⟩

end FilterPlan

namespace ObjectFilter

/-- No condition is asked for twice, since every tag has its own name. -/
theorem nodup_conditions (filter : ObjectFilter) : filter.conditions.Nodup := by
  have tags : (filter.tags.entries.map fun (name, value) => Condition.tag name value).Nodup := by
    refine List.Nodup.of_map (fun | .tag name _ => name | _ => "") ?_
    simpa [Function.comp_def] using filter.tags.distinct
  have atMostOne {α : Type} (given : Option α) (condition : α → Condition) :
      (given.toList.map condition).Nodup := by
    cases given <;> simp
  simp only [conditions, List.nodup_append, tags, atMostOne, true_and]
  grind

/-- Where no bounds are left out, a plan asks for what its filter does. -/
theorem conditions_plan_perm {filter : ObjectFilter} {sizes : Bool}
    (kept : sizes = true ∨ filter.hasBounds = false) :
    (filter.plan sizes).conditions.Perm filter.conditions := by
  have bounds : (filter.plan sizes).sizeAbove = filter.sizeAbove ∧
      (filter.plan sizes).sizeBelow = filter.sizeBelow := by
    rcases kept with rfl | unbounded
    · exact ⟨rfl, rfl⟩
    · obtain ⟨above, below⟩ : filter.sizeAbove = none ∧ filter.sizeBelow = none := by
        simpa [hasBounds] using unbounded
      simp [plan, above, below]
  have tags : (filter.plan sizes).tags.Perm filter.tags.entries := List.mergeSort_perm _ _
  rw [FilterPlan.conditions, conditions, bounds.1, bounds.2]
  exact (((tags.map _).append_left _).append_right _).append_right _

end ObjectFilter

/-- A request that says of objects what is asked of them: it has one member, a conjunction where there
are several conditions, and holds each of the conditions once. -/
structure Value.States (request : Value) (asked : List Condition) : Prop where
  selects : ∀ object, request.Selects object ↔ ∀ condition ∈ asked, condition.Holds object
  single : ∃ name item, request = .record [(name, item)] ∧ (name = "And" ↔ 2 ≤ asked.length)
  once : asked.Nodup ∧
    (asked ≠ [] → ∃ stated, request.conditions? = some stated ∧ stated.Perm asked)

namespace FilterPlan

theorem states_of_perm {filter : FilterPlan} {asked : List Condition}
    (perm : filter.conditions.Perm asked) (distinct : asked.Nodup) : filter.request.States asked where
  selects object := by
    rw [selects_request_iff]
    exact ⟨fun holds condition member => holds condition (perm.mem_iff.mpr member),
      fun holds condition member => holds condition (perm.mem_iff.mp member)⟩
  single := perm.length_eq ▸ filter.request_eq_singleton
  once := by
    refine ⟨distinct, fun some => ⟨filter.conditions, ?_, perm⟩⟩
    rw [conditions?_request, if_neg fun none => some (none ▸ perm).nil_eq.symm]

theorem conditions_ofFilter_perm {filter : Option ObjectFilter} {scope : Scope} {sizes : Bool}
    {field : String} (passes : Passes (findings filter scope sizes field)) :
    (ofFilter filter sizes).conditions.Perm (filter.toList.flatMap ObjectFilter.conditions) := by
  cases filter with
  | none => exact .refl _
  | some filter =>
    rw [Option.toList_some, List.flatMap_singleton]
    exact ObjectFilter.conditions_plan_perm (passes_findings.mp passes filter rfl).1

/-- Where a filter is reported without an error, its request says of objects what the filter does; and
no condition is left out without an error. -/
theorem request_states (filter : Option ObjectFilter) (sizes : Bool) (scope : Scope) (field : String)
    (log : Log) :
    ((∀ v ∈ log.reports (findings filter scope sizes field), v.isError = false) →
      (ofFilter filter sizes).request.States (filter.toList.flatMap ObjectFilter.conditions)) ∧
    ((∃ condition ∈ filter.toList.flatMap ObjectFilter.conditions,
        condition ∉ (ofFilter filter sizes).conditions) →
      ∃ v ∈ log.reports (findings filter scope sizes field), v.isError = true) := by
  rw [reports_findings]
  constructor
  · intro passes
    refine states_of_perm (conditions_ofFilter_perm passes) ?_
    cases filter with
    | none => exact .nil
    | some filter => simpa using filter.nodup_conditions
  · intro dropped
    obtain ⟨condition, asked, missing⟩ := dropped
    by_contra clean
    have passes : ∀ v ∈ log.reports (findings filter scope sizes field), v.isError = false :=
      fun v member => Bool.eq_false_iff.mpr fun error => clean ⟨v, member, error⟩
    exact missing ((conditions_ofFilter_perm ((reports_findings log).mp passes)).mem_iff.mpr asked)

/-- Large photographs of one kind. -/
def rawPhotos : ObjectFilter where
  keyPrefix := some "photos/"
  tags.entries := [("kind", "raw")]
  tags.distinct := by decide
  sizeAbove := some 1000

/-- A lifecycle rule may go by the size of the photographs, whereas a replication rule is told that it
may not. -/
theorem request_states_rawPhotos :
    Log.reports [] (findings (some rawPhotos) { area := "lifecycle_rules", rule := "r" } true) = [] ∧
    (ofFilter (some rawPhotos) true).request.States
      [.keyPrefix "photos/", .tag "kind" "raw", .sizeAbove 1000] ∧
    Condition.sizeAbove 1000 ∉ (ofFilter (some rawPhotos) false).conditions ∧
    ∃ v ∈ Log.reports [] (findings (some rawPhotos) { area := "replication.rules", rule := "r" } false),
      v.isError = true := by
  have silent : Log.reports []
      (findings (some rawPhotos) { area := "lifecycle_rules", rule := "r" } true) = [] := by decide
  have dropped : Condition.sizeAbove 1000 ∉ (ofFilter (some rawPhotos) false).conditions := by
    decide +kernel
  have stated := (request_states (some rawPhotos) true
    { area := "lifecycle_rules", rule := "r" } "filter" []).1 fun v member => by
      rw [silent] at member
      cases member
  exact ⟨silent, stated, dropped, (request_states (some rawPhotos) false
    { area := "replication.rules", rule := "r" } "filter" []).2 ⟨.sizeAbove 1000, by decide, dropped⟩⟩

end FilterPlan

end BucketPlan
