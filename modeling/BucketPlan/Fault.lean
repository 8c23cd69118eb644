import BucketPlan.Calendar
import BucketPlan.Text.Quoted

namespace BucketPlan

/-- What can stop a computation, as opposed to what it reports. -/
inductive Fault where
  /-- A path segment of digits that are not all decimal. -/
  | notDecimal (segment : String)
  | date (fault : DateFault)
  | priorityUnset
  /-- A part that was needed for one of its members is not there. -/
  | partUnset (member : String)
  | unknownAction (name : String)
  | unknownDestination (kind : String)
  | illegalMove (source target : String)
  | unknownState (name : String)
  | unwritableKey (typeName : String)
deriving DecidableEq, Repr

namespace DateFault

def message : DateFault → String
  | malformed text => "Invalid isoformat string: " ++ quoted text
  | yearOutOfRange year => s!"year {year} is out of range"
  | monthOutOfRange => "month must be in 1..12"
  | dayOutOfRange => "day is out of range for month"

end DateFault

namespace Fault

/-- The name under which logs and counters file the fault. -/
def category : Fault → String
  | notDecimal _ => "ValueError"
  | date _ => "ValueError"
  | priorityUnset => "TypeError"
  | partUnset _ => "AttributeError"
  | unknownAction _ => "RuntimeError"
  | unknownDestination _ => "KeyError"
  | illegalMove _ _ => "RuntimeError"
  | unknownState _ => "ValueError"
  | unwritableKey _ => "TypeError"

def message : Fault → String
  | notDecimal segment =>
    "invalid literal for int() with base 10: " ++ String.ofList ((quoted segment).toList.take 200)
  | date fault => fault.message
  | priorityUnset => "bad operand type for unary -: 'NoneType'"
  | partUnset member => s!"'NoneType' object has no attribute '{member}'"
  | unknownAction name => "Unknown lifecycle action " ++ quoted name
  | unknownDestination kind => quoted kind
  | illegalMove source target => s!"Illegal pipeline transition {source} -> {target}"
  | unknownState name => quoted name ++ " is not a valid PipelineState"
  | unwritableKey typeName => s!"keys must be str, int, float, bool or None, not {typeName}"

end Fault

end BucketPlan
