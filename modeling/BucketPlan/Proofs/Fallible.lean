import Mathlib.Data.List.Forall2
import Mathlib.Data.List.Perm.Basic

namespace BucketPlan

variable {ε α β γ : Type}

/-- What a computation in two steps has returned, its second step has, from what the first has. -/
theorem steps_of_bind_ok {first : Except ε α} {next : α → Except ε β} {result : β}
    (done : first >>= next = .ok result) : ∃ a, first = .ok a ∧ next a = .ok result := by
  cases first with
  | error fault => cases done
  | ok a => exact ⟨a, rfl, done⟩

theorem bind_of_ok {first : Except ε α} {next : α → Except ε β} {a : α} (done : first = .ok a) :
    first >>= next = next a := by
  rw [done]
  rfl

theorem steps_of_bind_error {first : Except ε α} {next : α → Except ε β} {fault : ε}
    (failed : first >>= next = .error fault) :
    first = .error fault ∨ ∃ a, first = .ok a ∧ next a = .error fault := by
  cases first with
  | error other =>
    cases failed
    exact Or.inl rfl
  | ok a => exact Or.inr ⟨a, rfl, failed⟩

/-- A computation fails or returns, and not both. -/
theorem returns_iff_not_error {outcome : Except ε α} :
    (∃ result, outcome = .ok result) ↔ ∀ fault, outcome ≠ .error fault := by
  cases outcome <;> simp

theorem returns_of_isOk {outcome : Except ε α} (returned : outcome.isOk = true) :
    ∃ result, outcome = .ok result := by
  cases outcome with
  | error fault => cases returned
  | ok result => exact ⟨result, rfl⟩

theorem eq_ok_of_toOption {outcome : Except ε α} {result : α} (found : outcome.toOption = some result) :
    outcome = .ok result := by
  cases outcome with
  | error fault => cases found
  | ok other =>
    cases found
    rfl

/-- The fault of a list is the fault of one of its items. -/
theorem mem_of_mapM_error {f : α → Except ε β} {items : List α} {fault : ε}
    (failed : items.mapM f = .error fault) : ∃ item ∈ items, f item = .error fault := by
  induction items with
  | nil => cases failed
  | cons item rest ih =>
    rw [List.mapM_cons] at failed
    obtain first | ⟨result, _, others⟩ := steps_of_bind_error failed
    · exact ⟨item, List.mem_cons_self, first⟩
    · obtain later | ⟨results, _, ended⟩ := steps_of_bind_error others
      · obtain ⟨found, member, fails⟩ := ih later
        exact ⟨found, List.mem_cons_of_mem item member, fails⟩
      · cases ended

/-- The results stand in the order of their items. -/
theorem forall₂_of_mapM {f : α → Except ε β} {items : List α} {results : List β}
    (done : items.mapM f = .ok results) :
    List.Forall₂ (fun item result => f item = .ok result) items results := by
  induction items generalizing results with
  | nil =>
    cases done
    exact .nil
  | cons item rest ih =>
    rw [List.mapM_cons] at done
    obtain ⟨result, first, others⟩ := steps_of_bind_ok done
    obtain ⟨further, later, ended⟩ := steps_of_bind_ok others
    cases ended
    exact .cons first (ih later)

/-- What is seen of the results is what is known of their items. -/
theorem map_of_mapM {γ : Type} {f : α → Except ε β} {seen : β → γ} {known : α → γ} {items : List α}
    {results : List β} (done : items.mapM f = .ok results)
    (same : ∀ item result, f item = .ok result → seen result = known item) :
    results.map seen = items.map known := by
  have matched := forall₂_of_mapM done
  clear done
  induction matched with
  | nil => rfl
  | cons first _ ih => rw [List.map_cons, List.map_cons, same _ _ first, ih]

theorem mapM_of_forall₂ {f : α → Except ε β} {items : List α} {results : List β}
    (matched : List.Forall₂ (fun item result => f item = .ok result) items results) :
    items.mapM f = .ok results := by
  induction matched with
  | nil => rfl
  | cons first _ ih =>
    rw [List.mapM_cons, first, ih]
    rfl

/-- In another order, the items have the same results in another order. -/
theorem mapM_perm {f : α → Except ε β} {items moved : List α} {results : List β}
    (perm : moved.Perm items) (done : items.mapM f = .ok results) :
    ∃ others, moved.mapM f = .ok others ∧ others.Perm results := by
  obtain ⟨others, matched, reordered⟩ := List.perm_comp_forall₂ perm (forall₂_of_mapM done)
  exact ⟨others, mapM_of_forall₂ matched, reordered⟩

theorem mapM_returns_iff {f : α → Except ε β} {items : List α} :
    (∃ results, items.mapM f = .ok results) ↔ ∀ item ∈ items, ∃ result, f item = .ok result := by
  constructor
  · intro returns
    obtain ⟨results, done⟩ := returns
    have matched := forall₂_of_mapM done
    clear done
    induction matched with
    | nil => simp
    | cons first _ ih => exact List.forall_mem_cons.mpr ⟨⟨_, first⟩, ih⟩
  · intro each
    refine returns_iff_not_error.mpr fun fault failed => ?_
    obtain ⟨item, member, fails⟩ := mem_of_mapM_error failed
    obtain ⟨result, returned⟩ := each item member
    rw [returned] at fails
    cases fails

theorem foldlM_returns {f : β → α → Except ε β} {items : List α}
    (each : ∀ item ∈ items, ∀ state, ∃ result, f state item = .ok result) (state : β) :
    ∃ result, items.foldlM f state = .ok result := by
  induction items generalizing state with
  | nil => exact ⟨state, rfl⟩
  | cons item rest ih =>
    obtain ⟨next, first⟩ := each item List.mem_cons_self state
    have later := fun other member => each other (List.mem_cons_of_mem item member)
    obtain ⟨result, others⟩ := ih later next
    exact ⟨result, by rw [List.foldlM_cons, first]; exact others⟩

end BucketPlan
