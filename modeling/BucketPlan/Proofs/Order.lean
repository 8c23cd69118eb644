import BucketPlan.Proofs.Fallible
import BucketPlan.Violation.Order

namespace BucketPlan

/-- A part of a path that consists of digits and is still no number, since some of them are not
decimal. -/
def IsOddNumber (part : String) : Prop :=
  part.toList.all isDigit = true ∧ part.toList.all isDecimal = false

/-- A part of a path that can be ordered: when it consists of digits, they are decimal digits. -/
def IsReadable (part : String) : Prop :=
  part.toList.all isDigit = true → part.toList.all isDecimal = true

theorem IsOddNumber.not_isReadable {part : String} (odd : IsOddNumber part) : ¬IsReadable part := by
  intro readable
  cases odd.2.symm.trans (readable odd.1)

theorem decimalNumber?_isSome (total : Nat) (digits : List Char) :
    (decimalNumber? total digits).isSome = digits.all isDecimal := by
  induction digits generalizing total with
  | nil => rfl
  | cons c rest ih =>
    cases value : decimal? c with
    | none => simp [decimalNumber?, isDecimal, value]
    | some digit => simp [decimalNumber?, isDecimal, value, ih]

namespace Segment

theorem isReadable_of_read {part : String} {segment : Segment} (done : read part = .ok segment) :
    IsReadable part := by
  intro digits
  simp only [read, if_pos digits] at done
  split at done
  · rename_i number found
    rw [← decimalNumber?_isSome 0, found, Option.isSome_some]
  · cases done

/-- There is one way in which a part of a path resists its reading. -/
theorem fault_of_read {part : String} {fault : Fault} (failed : read part = .error fault) :
    fault = .notDecimal part ∧ IsOddNumber part := by
  simp only [read] at failed
  split at failed
  · rename_i digits
    split at failed
    · cases failed
    · rename_i unread
      refine ⟨(Except.error.inj failed).symm, digits, ?_⟩
      rw [← decimalNumber?_isSome 0, unread, Option.isSome_none]
  · cases failed

theorem read_returns_iff {part : String} : (∃ segment, read part = .ok segment) ↔ IsReadable part := by
  constructor
  · intro returns
    obtain ⟨segment, done⟩ := returns
    exact isReadable_of_read done
  · intro readable
    cases outcome : read part with
    | ok segment => exact ⟨segment, rfl⟩
    | error fault => exact absurd readable (fault_of_read outcome).2.not_isReadable

end Segment

namespace Violation

/-- The parts of its path that the position of a violation is read from. -/
def parts (v : Violation) : List String :=
  segments v.area ++ segments v.rule ++ segments v.field

/-- Whether a violation has a position among others. -/
def IsPlaceable (v : Violation) : Prop :=
  ∀ part ∈ v.parts, IsReadable part

theorem fault_of_position {v : Violation} {fault : Fault} (failed : v.position = .error fault) :
    ∃ part ∈ v.parts, Segment.read part = .error fault := by
  simp only [parts, List.mem_append]
  obtain area | ⟨_, _, rest⟩ := steps_of_bind_error failed
  · obtain ⟨part, member, fails⟩ := mem_of_mapM_error area
    exact ⟨part, Or.inl (Or.inl member), fails⟩
  · obtain rule | ⟨_, _, rest⟩ := steps_of_bind_error rest
    · obtain ⟨part, member, fails⟩ := mem_of_mapM_error rule
      exact ⟨part, Or.inl (Or.inr member), fails⟩
    · obtain field | ⟨_, _, ended⟩ := steps_of_bind_error rest
      · obtain ⟨part, member, fails⟩ := mem_of_mapM_error field
        exact ⟨part, Or.inr member, fails⟩
      · cases ended

theorem position_returns_iff {v : Violation} :
    (∃ position, v.position = .ok position) ↔ v.IsPlaceable := by
  constructor
  · intro returns part member
    obtain ⟨position, done⟩ := returns
    obtain ⟨_, area, rest⟩ := steps_of_bind_ok done
    obtain ⟨_, rule, rest⟩ := steps_of_bind_ok rest
    obtain ⟨_, field, _⟩ := steps_of_bind_ok rest
    simp only [parts, List.mem_append] at member
    rcases member with (inArea | inRule) | inField
    · exact Segment.read_returns_iff.mp (mapM_returns_iff.mp ⟨_, area⟩ part inArea)
    · exact Segment.read_returns_iff.mp (mapM_returns_iff.mp ⟨_, rule⟩ part inRule)
    · exact Segment.read_returns_iff.mp (mapM_returns_iff.mp ⟨_, field⟩ part inField)
  · intro placeable
    refine returns_iff_not_error.mpr fun fault failed => ?_
    obtain ⟨part, member, unread⟩ := fault_of_position failed
    exact (Segment.fault_of_read unread).2.not_isReadable (placeable part member)

end Violation

namespace Log

theorem fault_of_positioned {log : Log} {fault : Fault} (failed : log.positioned = .error fault) :
    ∃ v ∈ log, v.position = .error fault := by
  obtain ⟨v, member, fails⟩ := mem_of_mapM_error failed
  obtain unplaced | ⟨_, _, ended⟩ := steps_of_bind_error fails
  · exact ⟨v, member, unplaced⟩
  · cases ended

theorem fault_of_sorted {log : Log} {fault : Fault} (failed : log.sorted = .error fault) :
    ∃ v ∈ log, ∃ part ∈ v.parts, fault = .notDecimal part ∧ IsOddNumber part := by
  obtain unplaced | ⟨_, _, ended⟩ := steps_of_bind_error failed
  · obtain ⟨v, member, fails⟩ := fault_of_positioned unplaced
    obtain ⟨part, inPath, unread⟩ := Violation.fault_of_position fails
    exact ⟨v, member, part, inPath, Segment.fault_of_read unread⟩
  · cases ended

theorem positioned_forall₂ {log : Log} {placed : List (Position × Violation)}
    (done : log.positioned = .ok placed) :
    List.Forall₂ (fun v entry => v.position = .ok entry.1 ∧ entry.2 = v) log placed := by
  refine (forall₂_of_mapM done).imp fun v entry placedAt => ?_
  obtain ⟨position, found, ended⟩ := steps_of_bind_ok placedAt
  cases ended
  exact ⟨found, rfl⟩

/-- A log can be sorted exactly when every violation has a position. -/
theorem sorted_returns_iff {log : Log} :
    (∃ violations, log.sorted = .ok violations) ↔ ∀ v ∈ log, v.IsPlaceable := by
  constructor
  · intro returns v member
    obtain ⟨violations, done⟩ := returns
    obtain ⟨placed, found, _⟩ := steps_of_bind_ok done
    obtain ⟨entry, placedAt⟩ := mapM_returns_iff.mp ⟨placed, found⟩ v member
    obtain ⟨position, returned, _⟩ := steps_of_bind_ok placedAt
    exact Violation.position_returns_iff.mp ⟨position, returned⟩
  · intro placeable
    refine returns_iff_not_error.mpr fun fault failed => ?_
    obtain ⟨v, member, part, inPath, _, odd⟩ := fault_of_sorted failed
    exact odd.not_isReadable (placeable v member part inPath)

/-- Sorting neither loses nor adds a violation. -/
theorem sorted_perm {log : Log} {violations : List Violation}
    (done : log.sorted = .ok violations) : violations.Perm log := by
  obtain ⟨placed, found, ended⟩ := steps_of_bind_ok done
  cases ended
  have kept : List.Forall₂ (· = ·) log (placed.map Prod.snd) :=
    List.forall₂_map_right_iff.mpr ((positioned_forall₂ found).imp fun _ _ own => own.2.symm)
  rw [List.forall₂_eq_eq_eq] at kept
  have sorted := (List.mergeSort_perm placed fun a b => (a.1.compare b.1).isLE).map Prod.snd
  rwa [← kept] at sorted

end Log

end BucketPlan
