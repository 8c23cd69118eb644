import Mathlib.Data.List.Induction
import BucketPlan.Replication.Plan

namespace BucketPlan

theorem eraseDups_concat {α : Type} [DecidableEq α] (items : List α) (item : α) :
    (items ++ [item]).eraseDups =
      if item ∈ items.eraseDups then items.eraseDups else items.eraseDups ++ [item] := by
  rw [List.eraseDups_append]
  by_cases known : item ∈ items
  · simp [known, List.removeAll]
  · simp [known, List.removeAll, List.eraseDups_cons]

theorem nodup_eraseDups {α : Type} [DecidableEq α] (items : List α) : items.eraseDups.Nodup := by
  induction items using List.reverseRecOn with
  | nil => exact List.nodup_nil
  | append_singleton earlier item ih =>
    rw [eraseDups_concat]
    by_cases known : item ∈ earlier.eraseDups
    · rwa [if_pos known]
    · rw [if_neg known, (List.perm_append_singleton item _).nodup_iff]
      exact List.nodup_cons.mpr ⟨known, ih⟩

namespace Replication

/-- The priorities that entries have set, each once, in the order in which they first occur. -/
def priorities (entries : List (String × ReplicationRule)) : List Int :=
  (entries.filterMap fun entry => entry.2.priority).eraseDups

/-- The names of the entries that have set a priority. -/
def holders (entries : List (String × ReplicationRule)) (priority : Int) : List String :=
  (entries.filter fun entry => entry.2.priority = some priority).map Prod.fst

variable {entries : List (String × ReplicationRule)} {name : String} {priority : Int}

theorem holders_concat (entry : String × ReplicationRule) (other : Int) :
    holders (entries ++ [entry]) other =
      holders entries other ++ if entry.2.priority = some other then [entry.1] else [] := by
  rw [holders, List.filter_append, List.map_append, ← holders]
  by_cases own : entry.2.priority = some other
  · simp [own]
  · simp [own]

theorem holders_eq_nil (unset : priority ∉ priorities entries) : holders entries priority = [] := by
  rw [holders, List.map_eq_nil_iff, List.filter_eq_nil_iff]
  intro entry member set
  refine unset (List.mem_eraseDups.mpr (List.mem_filterMap.mpr ⟨entry, member, ?_⟩))
  exact of_decide_eq_true set

/-- Among groups of names by priorities, a name is added to the group of its own priority and to no
other, and only a priority without a group gets a new one. -/
theorem addHolder_map {groups : List Int} {names : Int → List String} (distinct : groups.Nodup)
    (empty : priority ∉ groups → names priority = []) :
    addHolder priority name (groups.map fun other => (other, names other)) =
      (if priority ∈ groups then groups else groups ++ [priority]).map fun other =>
        (other, names other ++ if priority = other then [name] else []) := by
  induction groups with
  | nil => simp [addHolder, empty]
  | cons first rest ih =>
    obtain ⟨apart, distinct⟩ := List.nodup_cons.mp distinct
    rw [List.map_cons, addHolder]
    by_cases own : first = priority
    · subst own
      have others : (rest.map fun other => (other, names other)) =
          rest.map fun other => (other, names other ++ if first = other then [name] else []) := by
        refine List.map_congr_left fun other member => ?_
        rw [if_neg (ne_of_mem_of_not_mem member apart).symm, List.append_nil]
      simp [others]
    · have added := ih distinct fun absent => empty (by simp [Ne.symm own, absent])
      rw [if_neg own, added]
      by_cases known : priority ∈ rest
      · simp [known, Ne.symm own]
      · simp [known, Ne.symm own]

theorem priorities_concat {entry : String × ReplicationRule} (set : entry.2.priority = some priority) :
    priorities (entries ++ [entry]) =
      if priority ∈ priorities entries then priorities entries
      else priorities entries ++ [priority] := by
  have all : (entries ++ [entry]).filterMap (fun entry => entry.2.priority) =
      entries.filterMap (fun entry => entry.2.priority) ++ [priority] := by
    simp [set]
  rw [priorities, all]
  exact eraseDups_concat _ _

/-- Each priority with its holders among some entries. -/
def groups (entries : List (String × ReplicationRule)) : List (Int × List String) :=
  (priorities entries).map fun priority => (priority, holders entries priority)

/-- With one entry more, the groups of the entries before it become the groups of all. -/
theorem addRule_groups (entry : String × ReplicationRule) :
    addRule (groups entries) entry = groups (entries ++ [entry]) := by
  unfold addRule groups
  cases set : entry.2.priority with
  | none =>
    have same : priorities (entries ++ [entry]) = priorities entries := by
      simp [priorities, set]
    simp only [same, holders_concat, set, reduceCtorEq, if_false, List.append_nil]
  | some priority =>
    rw [priorities_concat set]
    simp only [holders_concat, set, Option.some.injEq]
    exact addHolder_map (nodup_eraseDups _) holders_eq_nil

theorem heldPriorities_eq_groups (rules : Keyed ReplicationRule) :
    heldPriorities rules = groups rules.entries := by
  have grouped (entries : List (String × ReplicationRule)) :
      entries.foldl addRule [] = groups entries := by
    induction entries using List.reverseRecOn with
    | nil => rfl
    | append_singleton earlier entry ih =>
      rw [List.foldl_append, ih, List.foldl_cons, List.foldl_nil, addRule_groups]
  exact grouped rules.entries

/-- The findings of a replication are those of each of its priorities. -/
theorem priorityFindings_eq (rules : Keyed ReplicationRule) :
    priorityFindings rules = (priorities rules.entries).flatMap fun priority =>
      sharingFindings (priority, holders rules.entries priority) := by
  rw [priorityFindings, heldPriorities_eq_groups, groups, List.flatMap_map]

end Replication

end BucketPlan
