import Mathlib.Data.List.Nodup
import Mathlib.Data.List.Perm.Basic
import BucketPlan.Keyed
import BucketPlan.Proofs.Sorting

namespace BucketPlan

namespace Keyed

variable {α β : Type}

theorem eq_of_entries {map other : Keyed α} (same : map.entries = other.entries) : map = other := by
  cases map
  cases other
  cases same
  rfl

@[simp]
theorem entries_mapValues (f : String → α → β) (map : Keyed α) :
    (map.mapValues f).entries = map.entries.map fun entry => (entry.1, f entry.1 entry.2) := rfl

theorem eq_of_name_eq (map : Keyed α) {entry other : String × α} (member : entry ∈ map.entries)
    (member' : other ∈ map.entries) (same : entry.1 = other.1) : entry = other :=
  List.inj_on_of_nodup_map map.distinct member member' same

theorem get?_eq_some_iff {map : Keyed α} {name : String} {value : α} :
    map.get? name = some value ↔ (name, value) ∈ map.entries := by
  rw [get?, List.lookup_eq_some_iff]
  constructor
  · rintro ⟨before, after, split, _⟩
    rw [split]
    exact List.mem_append_right before List.mem_cons_self
  · intro member
    obtain ⟨before, after, split⟩ := List.append_of_mem member
    refine ⟨before, after, split, fun entry earlier => bne_iff_ne.mpr fun same => ?_⟩
    have distinct := map.distinct
    rw [split, List.map_append, List.nodup_append] at distinct
    exact distinct.2.2 entry.1 (List.mem_map_of_mem earlier) name
      (List.mem_map_of_mem List.mem_cons_self) same.symm

theorem lookup_of_nodup {entries : List (String × α)} (distinct : (entries.map Prod.fst).Nodup)
    {entry : String × α} (member : entry ∈ entries) : entries.lookup entry.1 = some entry.2 :=
  get?_eq_some_iff.mpr (show entry ∈ (⟨entries, distinct⟩ : Keyed α).entries from member)

theorem putEntry_of_notMem {name : String} {value : α} {entries : List (String × α)}
    (absent : name ∉ entries.map Prod.fst) :
    putEntry name value entries = entries ++ [(name, value)] := by
  induction entries with
  | nil => rfl
  | cons entry rest ih =>
    obtain ⟨other, old⟩ := entry
    rw [List.map_cons, List.mem_cons, not_or] at absent
    rw [putEntry, if_neg (Ne.symm absent.1), ih absent.2, List.cons_append]

theorem entries_foldl_put {map : Keyed α} {added : List (String × α)}
    (distinct : ((map.entries ++ added).map Prod.fst).Nodup) :
    (added.foldl (fun built entry => built.put entry.1 entry.2) map).entries =
      map.entries ++ added := by
  induction added generalizing map with
  | nil => exact (List.append_nil _).symm
  | cons entry rest ih =>
    have absent : entry.1 ∉ map.entries.map Prod.fst := by
      intro present
      rw [List.map_append, List.nodup_append] at distinct
      exact distinct.2.2 entry.1 present entry.1 List.mem_cons_self rfl
    have placed : (map.put entry.1 entry.2).entries = map.entries ++ [entry] :=
      putEntry_of_notMem absent
    have next : map.entries ++ entry :: rest = (map.put entry.1 entry.2).entries ++ rest := by
      rw [placed, List.append_assoc, List.singleton_append]
    rw [next] at distinct ⊢
    exact ih distinct

/-- Where no name comes twice, a map takes its entries as they are. -/
theorem entries_ofList {entries : List (String × α)} (distinct : (entries.map Prod.fst).Nodup) :
    (ofList entries).entries = entries :=
  entries_foldl_put distinct

theorem byName_trans (a b c : String × α) (first : decide (a.1 ≤ b.1) = true)
    (second : decide (b.1 ≤ c.1) = true) : decide (a.1 ≤ c.1) = true :=
  decide_eq_true (String.le_trans (of_decide_eq_true first) (of_decide_eq_true second))

theorem byName_total (a b : String × α) : (decide (a.1 ≤ b.1) || decide (b.1 ≤ a.1)) = true :=
  Bool.or_eq_true_iff.mpr
    ((String.le_total a.1 b.1).imp (fun le => decide_eq_true le) (fun le => decide_eq_true le))

section InOrder

variable (map : Keyed α)

theorem sorted_perm : map.sorted.Perm map.entries :=
  List.mergeSort_perm _ _

/-- The same map with its entries in the order of their names. -/
def inOrder : Keyed α where
  entries := map.sorted
  distinct := (map.sorted_perm.map Prod.fst).nodup_iff.mpr map.distinct

theorem entries_inOrder_perm : map.inOrder.entries.Perm map.entries :=
  map.sorted_perm

variable {map} {other : Keyed α}

theorem sorted_eq_of_perm (perm : map.entries.Perm other.entries) : map.sorted = other.sorted := by
  refine mergeSort_eq_of_perm perm byName_trans byName_total fun a inMap b inMap' first second => ?_
  exact map.eq_of_name_eq inMap inMap'
    (String.le_antisymm (of_decide_eq_true first) (of_decide_eq_true second))

theorem inOrder_eq_iff : map.inOrder = other.inOrder ↔ map.entries.Perm other.entries := by
  constructor
  · intro same
    have entries : map.inOrder.entries = other.inOrder.entries := by rw [same]
    exact map.entries_inOrder_perm.symm.trans (entries ▸ other.entries_inOrder_perm)
  · intro perm
    exact eq_of_entries (sorted_eq_of_perm perm)

@[simp]
theorem sorted_inOrder (map : Keyed α) : map.inOrder.sorted = map.sorted :=
  sorted_eq_of_perm map.entries_inOrder_perm

@[simp]
theorem size_inOrder (map : Keyed α) : map.inOrder.size = map.size :=
  map.entries_inOrder_perm.length_eq

@[simp]
theorem isEmpty_inOrder (map : Keyed α) : map.inOrder.isEmpty = map.isEmpty :=
  map.entries_inOrder_perm.isEmpty_eq

@[simp]
theorem get?_inOrder (map : Keyed α) (name : String) : map.inOrder.get? name = map.get? name := by
  refine Option.ext fun value => ?_
  rw [get?_eq_some_iff, get?_eq_some_iff, map.entries_inOrder_perm.mem_iff]

theorem names_inOrder_perm (map : Keyed α) : map.inOrder.names.Perm map.names :=
  map.entries_inOrder_perm.map Prod.fst

theorem inOrder_mapValues (f : String → α → β) (map : Keyed α) :
    (map.mapValues f).inOrder = map.inOrder.mapValues f := by
  let planned := fun entry : String × α => (entry.1, f entry.1 entry.2)
  have sorted : map.sorted.map planned = (map.entries.map planned).mergeSort fun a b =>
      decide (a.1 ≤ b.1) := List.map_mergeSort fun _ _ _ _ => rfl
  exact eq_of_entries sorted.symm

end InOrder

section Arranged

/-- A map in order whose values are arranged as well. -/
def arranged (f : α → α) (map : Keyed α) : Keyed α :=
  (map.mapValues fun _ value => f value).inOrder

variable {f : α → α}

theorem entries_arranged_perm (map : Keyed α) :
    (map.arranged f).entries.Perm (map.entries.map fun entry => (entry.1, f entry.2)) :=
  entries_inOrder_perm _

theorem arranged_eq_iff {map other : Keyed α} :
    map.arranged f = other.arranged f ↔ (map.entries.map fun entry => (entry.1, f entry.2)).Perm
      (other.entries.map fun entry => (entry.1, f entry.2)) :=
  inOrder_eq_iff

@[simp]
theorem arranged_id (map : Keyed α) : map.arranged id = map.inOrder :=
  congrArg inOrder (eq_of_entries (List.map_id map.entries))

theorem isEmpty_arranged (map : Keyed α) : (map.arranged f).isEmpty = map.isEmpty := by
  rw [arranged, isEmpty_inOrder, isEmpty, isEmpty, entries_mapValues, List.isEmpty_map]

/-- What is said of the entries one by one is said of an arranged map in another order. -/
theorem flatMap_arranged_perm {say : String × α → List β} (map : Keyed α)
    (same : ∀ name value, (say (name, f value)).Perm (say (name, value))) :
    ((map.arranged f).entries.flatMap say).Perm (map.entries.flatMap say) := by
  refine (map.entries_arranged_perm.flatMap_right say).trans ?_
  rw [List.flatMap_map]
  exact List.Perm.flatMap_left _ fun entry _ => same entry.1 entry.2

theorem forall_mem_arranged {good : String × α → Prop} (map : Keyed α)
    (same : ∀ name value, good (name, f value) ↔ good (name, value)) :
    (∀ entry ∈ (map.arranged f).entries, good entry) ↔ ∀ entry ∈ map.entries, good entry := by
  simp only [map.entries_arranged_perm.mem_iff, List.forall_mem_map, same]

theorem mapValues_arranged {plan : String → α → β} (map : Keyed α)
    (same : ∀ name value, plan name (f value) = plan name value) :
    (map.arranged f).mapValues plan = (map.mapValues plan).inOrder := by
  rw [arranged, ← inOrder_mapValues]
  refine congrArg inOrder (eq_of_entries ?_)
  simp only [entries_mapValues, List.map_map, Function.comp_def, same]

/-- Maps that are arranged alike hold the same plans, when these do not tell arranged values from the
values themselves. -/
theorem mapValues_perm_of_arranged {plan : String → α → β} {map other : Keyed α}
    (alike : map.arranged f = other.arranged f)
    (same : ∀ name value, plan name (f value) = plan name value) :
    (map.mapValues plan).entries.Perm (other.mapValues plan).entries := by
  rw [← inOrder_eq_iff, ← mapValues_arranged map same, ← mapValues_arranged other same, alike]

theorem arranged_mapValues {g : α → α} (map : Keyed α) (commute : ∀ value, f (g value) = g (f value)) :
    (map.mapValues fun _ value => g value).arranged f =
      (map.arranged f).mapValues fun _ value => g value := by
  rw [arranged, arranged, ← inOrder_mapValues]
  refine congrArg inOrder (eq_of_entries ?_)
  simp only [entries_mapValues, List.map_map, Function.comp_def, commute]

end Arranged

end Keyed

end BucketPlan
