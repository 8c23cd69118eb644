import BucketPlan.Proofs.Order
import BucketPlan.Proofs.Sorting

namespace BucketPlan

namespace Segment

theorem compare_swap (a b : Segment) : compare a b = (compare b a).swap := by
  cases a with
  | number m =>
    cases b with
    | number n => exact @Std.OrientedCmp.eq_swap Nat Ord.compare _ m n
    | text t => rfl
  | text s =>
    cases b with
    | number n => rfl
    | text t => exact @Std.OrientedCmp.eq_swap String Ord.compare _ s t

theorem compare_isLE_trans {a b c : Segment} (first : (compare a b).isLE = true)
    (second : (compare b c).isLE = true) : (compare a c).isLE = true := by
  cases a with
  | number m =>
    cases c with
    | number k =>
      cases b with
      | number n => exact @Std.TransCmp.isLE_trans Nat Ord.compare _ m n k first second
      | text t => cases second
    | text u => rfl
  | text s =>
    cases b with
    | number n => cases first
    | text t =>
      cases c with
      | number k => cases second
      | text u => exact @Std.TransCmp.isLE_trans String Ord.compare _ s t u first second

instance : Std.TransCmp compare where
  eq_swap := compare_swap _ _
  isLE_trans := compare_isLE_trans

theorem compareAll_eq_compareLex (first second : List Segment) :
    compareAll first second = List.compareLex compare first second := by
  induction first generalizing second with
  | nil => cases second <;> rfl
  | cons a rest ih =>
    cases second with
    | nil => rfl
    | cons b others => rw [compareAll, ih, List.compareLex_cons_cons]

instance : Std.TransCmp compareAll := by
  rw [funext fun first => funext (compareAll_eq_compareLex first)]
  infer_instance

end Segment

theorem transCmp_on {α β : Type} (key : α → β) (cmp : β → β → Ordering) [Std.TransCmp cmp] :
    Std.TransCmp fun a b => cmp (key a) (key b) where
  eq_swap := Std.OrientedCmp.eq_swap
  isLE_trans := Std.TransCmp.isLE_trans

instance : Std.TransCmp Position.compare := by
  have area := transCmp_on Position.area Segment.compareAll
  have rule := transCmp_on Position.rule Segment.compareAll
  have field := transCmp_on Position.field Segment.compareAll
  exact inferInstanceAs (Std.TransCmp (compareLex _ (compareLex _ _)))

namespace Violation

/-- Where a violation stands among others, and the very beginning when it has no position. -/
def place (v : Violation) : Position :=
  v.position.toOption.getD ⟨[], [], []⟩

def comesBefore (v other : Violation) : Bool :=
  (v.place.compare other.place).isLE

theorem comesBefore_trans (a b c : Violation) (first : a.comesBefore b = true)
    (second : b.comesBefore c = true) : a.comesBefore c = true :=
  Std.TransCmp.isLE_trans first second

theorem comesBefore_total (a b : Violation) : (a.comesBefore b || b.comesBefore a) = true := by
  have swapped : b.place.compare a.place = (a.place.compare b.place).swap := Std.OrientedCmp.eq_swap
  rw [comesBefore, comesBefore, swapped]
  cases a.place.compare b.place <;> rfl

end Violation

namespace Log

theorem positioned_eq_map {log : Log} {placed : List (Position × Violation)}
    (done : log.positioned = .ok placed) : placed = log.map fun v => (v.place, v) := by
  have matched : List.Forall₂ (fun v entry => (v.place, v) = entry) log placed := by
    refine (positioned_forall₂ done).imp fun v entry placedAt => ?_
    obtain ⟨position, same⟩ := placedAt
    rw [Violation.place, position, ← same]
    rfl
  rw [← List.forall₂_map_left_iff, List.forall₂_eq_eq_eq] at matched
  exact matched.symm

/-- A log that can be sorted is sorted by one order of all violations, whatever else is in it. -/
theorem sorted_eq_mergeSort {log : Log} {violations : List Violation}
    (done : log.sorted = .ok violations) : violations = log.mergeSort Violation.comesBefore := by
  obtain ⟨placed, found, ended⟩ := steps_of_bind_ok done
  cases ended
  have marked : (log.mergeSort Violation.comesBefore).map (fun v => (v.place, v)) =
      (log.map fun v => (v.place, v)).mergeSort fun a b => (a.1.compare b.1).isLE :=
    List.map_mergeSort fun _ _ _ _ => rfl
  rw [positioned_eq_map found, ← marked, List.map_map]
  exact List.map_id _

end Log

end BucketPlan
