import BucketPlan.Descriptor.Basic
import BucketPlan.Violation.Order

namespace BucketPlan

/-- Why a description was not read: the first mismatch in the order of paths, or no order at all. -/
inductive ReadFault where
  | mismatch (path message : String)
  | unordered (fault : Fault)
deriving DecidableEq, Repr

def ReadFault.message : ReadFault → String
  | mismatch path message => path ++ ": " ++ message
  | unordered fault => fault.message

namespace Descriptor

/-- Reads a description that has to have the right form throughout. -/
def read (value : Value) : Except ReadFault Descriptor :=
  match Log.sorted (mismatches value) with
  | .error fault => .error (.unordered fault)
  | .ok [] => .ok (ofValue value)
  | .ok (first :: _) =>
    .error (.mismatch (if first.path = "" then "<root>" else first.path) first.message)

end Descriptor

end BucketPlan
