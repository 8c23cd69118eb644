import Mathlib.Data.Nat.Digits.Defs
import Mathlib.Data.String.Basic
import BucketPlan.Proofs.Report

namespace BucketPlan

/-- The number that a row of decimal digits writes, whatever scripts they are of. -/
def writtenNumber (digits : List Char) : Nat :=
  Nat.ofDigits 10 (digits.reverse.map fun c => (decimal? c).getD 0)

theorem decimalNumber?_eq {total n : Nat} {digits : List Char}
    (found : decimalNumber? total digits = some n) :
    n = 10 ^ digits.length * total + writtenNumber digits := by
  induction digits generalizing total with
  | nil =>
    have ended : total = n := Option.some.inj found
    simp [writtenNumber, ended]
  | cons c rest ih =>
    obtain ⟨digit, value, later⟩ := Option.bind_eq_some_iff.mp found
    have written : writtenNumber (c :: rest) = writtenNumber rest + 10 ^ rest.length * digit := by
      simp [writtenNumber, Nat.ofDigits_append, value]
    rw [ih later, written, List.length_cons]
    ring

namespace Segment

/-- What a part of a path counts as: one of digits as the number they write, another as it is. -/
def ofPart (part : String) : Segment :=
  if part.toList.all isDigit then .number (writtenNumber part.toList) else .text part

def ofPath (path : String) : List Segment :=
  (segments path).map ofPart

theorem eq_ofPart_of_read {part : String} {segment : Segment} (done : read part = .ok segment) :
    segment = ofPart part := by
  unfold read at done
  unfold ofPart
  by_cases digits : part.toList.all isDigit = true
  · simp only [if_pos digits] at done ⊢
    split at done
    · rename_i number found
      have value := decimalNumber?_eq found
      rw [← Except.ok.inj done, value, Nat.mul_zero, Nat.zero_add]
    · cases done
  · simp only [if_neg digits] at done ⊢
    exact (Except.ok.inj done).symm

theorem eq_ofPath_of_readAll {path : String} {read : List Segment} (done : readAll path = .ok read) :
    read = ofPath path := by
  have matched := (forall₂_of_mapM done).imp fun _ _ found => (eq_ofPart_of_read found).symm
  rw [← List.forall₂_map_left_iff, List.forall₂_eq_eq_eq] at matched
  exact matched.symm

/-- Numbers are ordered by value and before all texts, texts by their code points. -/
inductive IsBelow : Segment → Segment → Prop
  | numbers {m n} : m < n → IsBelow (.number m) (.number n)
  | mixed {n s} : IsBelow (.number n) (.text s)
  | texts {s t} : s < t → IsBelow (.text s) (.text t)

theorem compare_eq_lt_iff {a b : Segment} : compare a b = .lt ↔ a.IsBelow b := by
  constructor
  · intro before
    cases a with
    | number m =>
      cases b with
      | number n => exact .numbers (Nat.compare_eq_lt.mp before)
      | text t => exact .mixed
    | text s =>
      cases b with
      | number n => cases before
      | text t => exact .texts (compare_lt_iff_lt.mp before)
  · intro below
    cases below with
    | numbers smaller => exact Nat.compare_eq_lt.mpr smaller
    | mixed => rfl
    | texts smaller => exact compare_lt_iff_lt.mpr smaller

theorem eq_of_compare {a b : Segment} (level : compare a b = .eq) : a = b := by
  cases a with
  | number m =>
    cases b with
    | number n => exact congrArg number (Nat.compare_eq_eq.mp level)
    | text t => cases level
  | text s =>
    cases b with
    | number n => cases level
    | text t => exact congrArg text (compare_eq_iff_eq.mp level)

instance : Std.LawfulEqCmp compare where
  eq_of_compare := eq_of_compare

theorem compareAll_eq_iff {first second : List Segment} :
    compareAll first second = .eq ↔ first = second := by
  rw [compareAll_eq_compareLex, Std.LawfulEqCmp.compare_eq_iff_eq]

/-- Paths are compared at the first segments that differ, and a path is before its continuations. -/
theorem compareAll_eq_lt_iff {first second : List Segment} :
    compareAll first second = .lt ↔ List.Lex IsBelow first second := by
  induction first generalizing second with
  | nil =>
    cases second with
    | nil => exact ⟨nofun, nofun⟩
    | cons b others => exact ⟨fun _ => .nil, fun _ => rfl⟩
  | cons a rest ih =>
    cases second with
    | nil => exact ⟨nofun, nofun⟩
    | cons b others =>
      rw [compareAll, Ordering.then_eq_lt, ih, compare_eq_lt_iff, Std.LawfulEqCmp.compare_eq_iff_eq]
      constructor
      · rintro (below | ⟨rfl, later⟩)
        · exact .rel below
        · exact .cons later
      · intro before
        cases before with
        | rel below => exact Or.inl below
        | cons later => exact Or.inr ⟨rfl, later⟩

end Segment

/-- Positions are ordered by area, within an area by rule, and within a rule by field. -/
inductive Position.IsBelow (p q : Position) : Prop
  | area : List.Lex Segment.IsBelow p.area q.area → IsBelow p q
  | rule : p.area = q.area → List.Lex Segment.IsBelow p.rule q.rule → IsBelow p q
  | field : p.area = q.area → p.rule = q.rule → List.Lex Segment.IsBelow p.field q.field →
      IsBelow p q

theorem Position.compare_eq_lt_iff {p q : Position} : p.compare q = .lt ↔ p.IsBelow q := by
  rw [compare, Ordering.then_eq_lt, Ordering.then_eq_lt]
  simp only [Segment.compareAll_eq_lt_iff, Segment.compareAll_eq_iff]
  constructor
  · rintro (area | ⟨sameArea, rule | ⟨sameRule, field⟩⟩)
    · exact .area area
    · exact .rule sameArea rule
    · exact .field sameArea sameRule field
  · intro below
    cases below with
    | area area => exact Or.inl area
    | rule sameArea rule => exact Or.inr ⟨sameArea, Or.inl rule⟩
    | field sameArea sameRule field => exact Or.inr ⟨sameArea, Or.inr ⟨sameRule, field⟩⟩

theorem Position.compare_eq_iff {p q : Position} : p.compare q = .eq ↔ p = q := by
  rw [compare, Ordering.then_eq_eq, Ordering.then_eq_eq]
  simp only [Segment.compareAll_eq_iff]
  constructor
  · rintro ⟨area, rule, field⟩
    cases p
    cases q
    simp_all only
  · rintro rfl
    exact ⟨rfl, rfl, rfl⟩

instance (part : String) : Decidable (IsReadable part) :=
  inferInstanceAs (Decidable (_ → _))

namespace Violation

instance (v : Violation) : Decidable v.IsPlaceable :=
  inferInstanceAs (Decidable (∀ part ∈ v.parts, IsReadable part))

/-- What a violation is ordered by, for paths of all kinds of names. -/
def key (v : Violation) : Position :=
  ⟨Segment.ofPath v.area, Segment.ofPath v.rule, Segment.ofPath v.field⟩

/-- Whether a violation is not after another one, whatever log they are in. -/
def IsAtMost (v other : Violation) : Prop :=
  v.key.IsBelow other.key ∨ v.key = other.key

theorem position_eq_key {v : Violation} {position : Position} (done : v.position = .ok position) :
    position = v.key := by
  obtain ⟨area, areaRead, rest⟩ := steps_of_bind_ok done
  obtain ⟨rule, ruleRead, rest⟩ := steps_of_bind_ok rest
  obtain ⟨field, fieldRead, ended⟩ := steps_of_bind_ok rest
  cases ended
  rw [key, Segment.eq_ofPath_of_readAll areaRead, Segment.eq_ofPath_of_readAll ruleRead,
    Segment.eq_ofPath_of_readAll fieldRead]

theorem place_eq_key {v : Violation} (placeable : v.IsPlaceable) : v.place = v.key := by
  obtain ⟨position, done⟩ := position_returns_iff.mpr placeable
  rw [place, done]
  exact position_eq_key done

theorem isAtMost_iff {v other : Violation} : v.IsAtMost other ↔ (v.key.compare other.key).isLE := by
  rw [IsAtMost, Ordering.isLE_iff_eq_lt_or_eq_eq, Position.compare_eq_lt_iff, Position.compare_eq_iff]

theorem comesBefore_iff {v other : Violation} (placeable : v.IsPlaceable)
    (otherPlaceable : other.IsPlaceable) : v.comesBefore other = true ↔ v.IsAtMost other := by
  rw [comesBefore, place_eq_key placeable, place_eq_key otherPlaceable, isAtMost_iff]

theorem isAtMost_total (v other : Violation) : v.IsAtMost other ∨ other.IsAtMost v := by
  have swapped : other.key.compare v.key = (v.key.compare other.key).swap := Std.OrientedCmp.eq_swap
  rw [isAtMost_iff, isAtMost_iff, swapped]
  cases v.key.compare other.key with
  | lt => exact Or.inl rfl
  | eq => exact Or.inl rfl
  | gt => exact Or.inr rfl

theorem isAtMost_trans {u v w : Violation} (first : u.IsAtMost v) (second : v.IsAtMost w) :
    u.IsAtMost w := by
  rw [isAtMost_iff] at first second ⊢
  exact Std.TransCmp.isLE_trans first second

theorem key_eq_of_isAtMost {v other : Violation} (first : v.IsAtMost other)
    (second : other.IsAtMost v) : v.key = other.key := by
  rw [isAtMost_iff] at first second
  exact Position.compare_eq_iff.mp (Std.OrientedCmp.isLE_antisymm first second)

end Violation

/-- Whether two lists of violations have those at each position in the same order. -/
def AgreeWithin (first second : List Violation) : Prop :=
  ∀ position, first.filter (fun v => v.key = position) = second.filter fun v => v.key = position

namespace Log

/-- The violations of a log by position, those at one position in the order of their reports. -/
structure IsStablySorted (log : Log) (violations : List Violation) : Prop where
  perm : violations.Perm log
  inOrder : violations.Pairwise Violation.IsAtMost
  stable : AgreeWithin violations log

theorem IsStablySorted.unique {log : Log} {first second : List Violation}
    (sorted : log.IsStablySorted first) (again : log.IsStablySorted second) : first = second := by
  have same : AgreeWithin first second := fun position =>
    (sorted.stable position).trans (again.stable position).symm
  have antisymm : ∀ v w : Violation, v.IsAtMost w → w.IsAtMost v → v.key = w.key :=
    fun _ _ => Violation.key_eq_of_isAtMost
  exact eq_of_pairwise_of_filter antisymm sorted.inOrder again.inOrder same

theorem isStablySorted_of_sorted {log : Log} {violations : List Violation}
    (done : log.sorted = .ok violations) : log.IsStablySorted violations := by
  have placeable := sorted_returns_iff.mp ⟨violations, done⟩
  have merged := sorted_eq_mergeSort done
  have perm := sorted_perm done
  have ordered := List.pairwise_mergeSort Violation.comesBefore_trans Violation.comesBefore_total log
  rw [← merged] at ordered
  refine ⟨perm, ?_, fun position => ?_⟩
  · refine ordered.imp_of_mem fun {v w} atV atW before => ?_
    have first := placeable v (perm.mem_iff.mp atV)
    have second := placeable w (perm.mem_iff.mp atW)
    exact (Violation.comesBefore_iff first second).mp before
  · -- those at one position are level, and sorting them alone moves none
    rw [merged, mergeSort_filter Violation.comesBefore_trans Violation.comesBefore_total]
    refine List.mergeSort_of_pairwise (List.pairwise_iff_forall_sublist.mpr fun {v w} pair => ?_)
    have atV := List.mem_filter.mp (pair.subset (List.mem_cons_self ..))
    have atW := List.mem_filter.mp (pair.subset (List.mem_cons_of_mem _ (List.mem_cons_self ..)))
    have level : v.key = w.key := (of_decide_eq_true atV.2).trans (of_decide_eq_true atW.2).symm
    exact (Violation.comesBefore_iff (placeable v atV.1) (placeable w atW.1)).mpr (Or.inr level)

/-- A log is sorted stably by one order of all violations, so that only the violations and, at each
position, the order of their reports decide the outcome. -/
theorem sorted_isStable {log : Log} {violations : List Violation}
    (done : log.sorted = .ok violations) :
    log.IsStablySorted violations ∧
      (∀ v w : Violation, v.IsAtMost w ∨ w.IsAtMost v) ∧
      (∀ u v w : Violation, u.IsAtMost v → v.IsAtMost w → u.IsAtMost w) ∧
      (∀ v w : Violation, v.IsAtMost w ∧ w.IsAtMost v ↔ v.key = w.key) ∧
      ∀ other : Log, other.Perm log → AgreeWithin other log → other.sorted = .ok violations := by
  have sorted := isStablySorted_of_sorted done
  have placeable := sorted_returns_iff.mp ⟨violations, done⟩
  refine ⟨sorted, Violation.isAtMost_total, fun _ _ _ => Violation.isAtMost_trans, fun v w => ?_,
    fun other perm agree => ?_⟩
  · constructor
    · rintro ⟨first, second⟩
      exact Violation.key_eq_of_isAtMost first second
    · intro level
      exact ⟨Or.inr level, Or.inr level.symm⟩
  · obtain ⟨result, returned⟩ := sorted_returns_iff.mpr fun v member =>
      placeable v (perm.mem_iff.mp member)
    have own := isStablySorted_of_sorted returned
    have again : log.IsStablySorted result :=
      ⟨own.perm.trans perm, own.inOrder, fun position => (own.stable position).trans (agree position)⟩
    rw [returned, again.unique sorted]

/-- Reports of rules that are numbered in two scripts and with a leading zero. -/
def numberedReports : Log :=
  [⟨"cors_rules", "10", "allowed_origins", .requiresField, "allowed_origins is required", .error⟩,
    ⟨"cors_rules", "02", "max_age..seconds", .outOfRange, "must not be negative", .error⟩,
    ⟨"cors_rules", "٢", "max_age.seconds", .outOfRange, "must not be huge", .error⟩,
    ⟨"cors_rules", "2", "max_age", .requiresField, "max_age is required", .error⟩]

/-- The second and the third are level, and remain in their order. -/
def numberedReportsInOrder : List Violation :=
  [⟨"cors_rules", "2", "max_age", .requiresField, "max_age is required", .error⟩,
    ⟨"cors_rules", "02", "max_age..seconds", .outOfRange, "must not be negative", .error⟩,
    ⟨"cors_rules", "٢", "max_age.seconds", .outOfRange, "must not be huge", .error⟩,
    ⟨"cors_rules", "10", "allowed_origins", .requiresField, "allowed_origins is required", .error⟩]

theorem numberedReports_isStable :
    numberedReports.sorted = .ok numberedReportsInOrder ∧
      numberedReports.IsStablySorted numberedReportsInOrder ∧
      ∀ other : Log, other.Perm numberedReports → AgreeWithin other numberedReports →
        other.sorted = .ok numberedReportsInOrder := by
  obtain ⟨violations, done⟩ := sorted_returns_iff.mpr
    (by decide +kernel : ∀ v ∈ numberedReports, v.IsPlaceable)
  have inOrder : violations = numberedReportsInOrder := by
    rw [sorted_eq_mergeSort done, numberedReports]
    simp only [mergeSort_cons_eq Violation.comesBefore_trans Violation.comesBefore_total,
      List.mergeSort_nil]
    decide +kernel
  subst inOrder
  obtain ⟨sorted, _, _, _, same⟩ := sorted_isStable done
  exact ⟨done, sorted, same⟩

end Log

end BucketPlan
