import BucketPlan.Fault
import BucketPlan.Text.Digit
import BucketPlan.Violation.Basic

namespace BucketPlan

/-- A part of a dotted path as it is ordered: numbers by value, and before all texts. -/
inductive Segment where
  | number (n : Nat)
  | text (s : String)
deriving DecidableEq, Repr

namespace Segment

/-- Reads a part of a path. One that consists of digits has to be a number in decimal digits. -/
def read (part : String) : Except Fault Segment :=
  let digits := part.toList
  if digits.all isDigit then
    match decimalNumber? 0 digits with
    | some n => .ok (.number n)
    | none => .error (.notDecimal part)
  else .ok (.text part)

def readAll (path : String) : Except Fault (List Segment) :=
  (segments path).mapM read

def compare : Segment → Segment → Ordering
  | number m, number n => Ord.compare m n
  | number _, text _ => .lt
  | text _, number _ => .gt
  | text a, text b => Ord.compare a b

/-- Segment by segment; a path comes before its continuations. -/
def compareAll : List Segment → List Segment → Ordering
  | [], [] => .eq
  | [], _ :: _ => .lt
  | _ :: _, [] => .gt
  | a :: as, b :: bs => (compare a b).then (compareAll as bs)

end Segment

/-- What violations are ordered by. -/
structure Position where
  area : List Segment
  rule : List Segment
  field : List Segment
deriving DecidableEq, Repr

def Position.compare (p q : Position) : Ordering :=
  (Segment.compareAll p.area q.area).then
    ((Segment.compareAll p.rule q.rule).then (Segment.compareAll p.field q.field))

def Violation.position (v : Violation) : Except Fault Position := do
  return ⟨← Segment.readAll v.area, ← Segment.readAll v.rule, ← Segment.readAll v.field⟩

namespace Log

def positioned (log : Log) : Except Fault (List (Position × Violation)) :=
  log.mapM fun v => return (← v.position, v)

/-- The violations by position; those at one position stay in the order of their reports. -/
def sorted (log : Log) : Except Fault (List Violation) := do
  let placed ← log.positioned
  return (placed.mergeSort fun a b => (a.1.compare b.1).isLE).map Prod.snd

end Log

end BucketPlan
