namespace BucketPlan

/-- A map from names to values that remembers the order in which the names first came. -/
structure Keyed (α : Type) where
  entries : List (String × α) := []
  distinct : (entries.map Prod.fst).Nodup := by exact List.nodup_nil
deriving DecidableEq

namespace Keyed

variable {α β : Type}

instance : Inhabited (Keyed α) := ⟨{}⟩

/-- Replaces the value of a name in place, or adds the name at the end. -/
def putEntry (name : String) (value : α) : List (String × α) → List (String × α)
  | [] => [(name, value)]
  | (other, old) :: rest =>
    if other = name then (name, value) :: rest else (other, old) :: putEntry name value rest

theorem map_fst_putEntry (name : String) (value : α) (entries : List (String × α)) :
    (putEntry name value entries).map Prod.fst =
      if name ∈ entries.map Prod.fst then entries.map Prod.fst else entries.map Prod.fst ++ [name] := by
  induction entries with
  | nil => simp [putEntry]
  | cons entry rest ih =>
    obtain ⟨other, old⟩ := entry
    by_cases same : other = name
    · simp [putEntry, same]
    · simp only [putEntry, if_neg same, List.map_cons, ih, List.mem_cons, Ne.symm same, false_or]
      split <;> simp

def put (map : Keyed α) (name : String) (value : α) : Keyed α where
  entries := putEntry name value map.entries
  distinct := by
    rw [map_fst_putEntry]
    split
    · exact map.distinct
    · next absent =>
      refine List.nodup_append.2 ⟨map.distinct, by simp, fun a old b new same => absent ?_⟩
      rwa [← List.mem_singleton.1 new, ← same]

/-- Of two entries with one name the later value counts, at the earlier place. -/
def ofList (entries : List (String × α)) : Keyed α :=
  entries.foldl (fun map (name, value) => map.put name value) {}

def names (map : Keyed α) : List String :=
  map.entries.map Prod.fst

def values (map : Keyed α) : List α :=
  map.entries.map Prod.snd

def isEmpty (map : Keyed α) : Bool :=
  map.entries.isEmpty

def size (map : Keyed α) : Nat :=
  map.entries.length

def get? (map : Keyed α) (name : String) : Option α :=
  map.entries.lookup name

def mapValues (f : String → α → β) (map : Keyed α) : Keyed β where
  entries := map.entries.map fun (name, value) => (name, f name value)
  distinct := by simpa [Function.comp_def] using map.distinct

/-- The entries in the order of their names. -/
def sorted (map : Keyed α) : List (String × α) :=
  map.entries.mergeSort fun a b => decide (a.1 ≤ b.1)

end Keyed

end BucketPlan
