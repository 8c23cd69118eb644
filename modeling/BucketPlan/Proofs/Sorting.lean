namespace BucketPlan

variable {α : Type} {le : α → α → Bool}

/-- Sorted permutations of one list agree where no two different items stand level. -/
theorem mergeSort_eq_of_perm {first second : List α} (perm : first.Perm second)
    (trans : ∀ a b c, le a b = true → le b c = true → le a c = true)
    (total : ∀ a b, (le a b || le b a) = true)
    (apart : ∀ a ∈ first, ∀ b ∈ first, le a b = true → le b a = true → a = b) :
    first.mergeSort le = second.mergeSort le := by
  have inOrder := List.pairwise_mergeSort trans total
  refine List.Perm.eq_of_pairwise ?_ (inOrder first) (inOrder second) ?_
  · intro a b inFirst inSecond
    exact apart a (List.mem_mergeSort.mp inFirst) b (perm.mem_iff.mpr (List.mem_mergeSort.mp inSecond))
  · exact (List.mergeSort_perm first le).trans (perm.trans (List.mergeSort_perm second le).symm)

theorem mem_iff_of_filter {κ : Type} [DecidableEq κ] {key : α → κ} {first second : List α}
    (same : ∀ k, first.filter (fun a => key a = k) = second.filter fun a => key a = k) (b : α) :
    b ∈ first ↔ b ∈ second := by
  have level := congrArg (b ∈ ·) (same (key b))
  simpa only [List.mem_filter, decide_true, and_true, eq_iff_iff] using level

/-- Two lists in order agree when they have the same items, in the same order, at each level. -/
theorem eq_of_pairwise_of_filter {κ : Type} [DecidableEq κ] {related : α → α → Prop} {key : α → κ}
    (antisymm : ∀ a b, related a b → related b a → key a = key b) {first second : List α}
    (inOrder : first.Pairwise related) (otherOrder : second.Pairwise related)
    (same : ∀ k, first.filter (fun a => key a = k) = second.filter fun a => key a = k) :
    first = second := by
  induction first generalizing second with
  | nil =>
    refine (List.eq_nil_iff_forall_not_mem.mpr fun b member => ?_).symm
    exact List.not_mem_nil ((mem_iff_of_filter same b).mpr member)
  | cons a rest ih =>
    have inSecond : a ∈ second := (mem_iff_of_filter same a).mp (List.mem_cons_self ..)
    cases second with
    | nil => exact absurd inSecond List.not_mem_nil
    | cons b others =>
      have inFirst : b ∈ a :: rest := (mem_iff_of_filter same b).mpr (List.mem_cons_self ..)
      rw [List.pairwise_cons] at inOrder otherOrder
      -- both heads are first among the same items, so neither is before the other
      have level : key a = key b := by
        rcases List.mem_cons.mp inSecond with equal | later
        · rw [equal]
        · rcases List.mem_cons.mp inFirst with equal | after
          · rw [equal]
          · exact antisymm _ _ (inOrder.1 b after) (otherOrder.1 a later)
      have heads : a = b := by
        have atHead := same (key a)
        rw [List.filter_cons_of_pos (by simp), List.filter_cons_of_pos (by simp [level])] at atHead
        exact (List.cons.inj atHead).1
      subst heads
      refine congrArg (a :: ·) (ih inOrder.2 otherOrder.2 fun k => ?_)
      have atKey := same k
      by_cases own : key a = k
      · rw [List.filter_cons_of_pos (by simp [own]), List.filter_cons_of_pos (by simp [own])] at atKey
        exact (List.cons.inj atKey).2
      · rwa [List.filter_cons_of_neg (by simp [own]), List.filter_cons_of_neg (by simp [own])] at atKey

section

variable (trans : ∀ a b c, le a b = true → le b c = true → le a c = true)
  (total : ∀ a b, (le a b || le b a) = true)

include trans total

/-- The first item of a list is sorted in before all others that stand level with it. -/
theorem mergeSort_cons_eq (a : α) (rest : List α) :
    (a :: rest).mergeSort le =
      (rest.mergeSort le).filter (fun b => !le a b) ++ a :: (rest.mergeSort le).filter (le a) := by
  obtain ⟨before, after, sorted, others, above⟩ := List.mergeSort_cons trans total a rest
  have inOrder := List.pairwise_mergeSort trans total (a :: rest)
  rw [sorted, List.pairwise_append, List.pairwise_cons] at inOrder
  have below : ∀ b ∈ after, le a b = true := inOrder.2.1.1
  have left : before.filter (fun b => !le a b) = before := List.filter_eq_self.mpr above
  have noneLeft : after.filter (fun b => !le a b) = [] := by
    simpa [List.filter_eq_nil_iff] using below
  have right : after.filter (le a) = after := List.filter_eq_self.mpr below
  have noneRight : before.filter (le a) = [] := by
    simpa [List.filter_eq_nil_iff] using above
  rw [sorted, others, List.filter_append, List.filter_append, left, noneLeft, right, noneRight,
    List.append_nil, List.nil_append]

/-- A part of a list is, once sorted, a part of the sorted list, its items in the same order. -/
theorem mergeSort_sublist {part whole : List α} (sub : part.Sublist whole) :
    (part.mergeSort le).Sublist (whole.mergeSort le) := by
  induction sub with
  | slnil => exact .refl _
  | @cons part whole a _ ih =>
    obtain ⟨before, after, sorted, others, _⟩ := List.mergeSort_cons trans total a whole
    rw [sorted]
    rw [others] at ih
    exact ih.middle a
  | @cons_cons part whole a _ ih =>
    rw [mergeSort_cons_eq trans total, mergeSort_cons_eq trans total]
    exact (ih.filter _).append ((ih.filter _).cons_cons a)

/-- Some of the items can be picked before or after the list is sorted. -/
theorem mergeSort_filter (items : List α) (picked : α → Bool) :
    (items.mergeSort le).filter picked = (items.filter picked).mergeSort le := by
  have sub : ((items.filter picked).mergeSort le).Sublist (items.mergeSort le) :=
    mergeSort_sublist trans total List.filter_sublist
  have all : ((items.filter picked).mergeSort le).filter picked = (items.filter picked).mergeSort le := by
    refine List.filter_eq_self.mpr fun a member => ?_
    exact (List.mem_filter.mp (List.mem_mergeSort.mp member)).2
  have fitting := sub.filter picked
  rw [all] at fitting
  refine (fitting.eq_of_length ?_).symm
  rw [List.length_mergeSort]
  exact ((List.mergeSort_perm items le).filter picked).length_eq.symm

end

end BucketPlan
