import BucketPlan.Text.Quoted
import BucketPlan.Text.Sorted
import BucketPlan.Violation.Basic

namespace BucketPlan

/-- What a check has to say. A violation is always reported; an absence only where no error stands
at its path, since a value dropped for its type is reported there already. -/
inductive Finding where
  | violation (v : Violation)
  | absence (v : Violation)
deriving DecidableEq, Repr

namespace Finding

def reported : Finding → Violation
  | violation v => v
  | absence v => v

end Finding

namespace Log

def settle (log : Log) : Finding → Log
  | .violation v => log ++ [v]
  | .absence v => if log.hasErrorAt v.path then log else log ++ [v]

def record (log : Log) (findings : List Finding) : Log :=
  findings.foldl settle log

end Log

/-- The place that a group of checks reports for. -/
structure Scope where
  area : String
  rule : String := ""
deriving DecidableEq, Repr

namespace Scope

def path (scope : Scope) (field : String) : String :=
  dottedPath [scope.area, scope.rule, field]

def label (scope : Scope) (field : String) : String :=
  if field = "" then scope.area else field

def violation (scope : Scope) (field : String) (code : Code) (message : String)
    (severity : Severity := .error) : Violation :=
  ⟨scope.area, scope.rule, field, code, message, severity⟩

def error (scope : Scope) (field : String) (code : Code) (message : String) : List Finding :=
  [.violation (scope.violation field code message)]

def warning (scope : Scope) (field : String) (code : Code) (message : String) : List Finding :=
  [.violation (scope.violation field code message .warning)]

/-- Asks for a value to be given. Without a message of its own, the absence is named by the field. -/
def require (scope : Scope) (given : Bool) (field : String) (message : String := "") :
    List Finding :=
  if given then []
  else [.absence (scope.violation field .requiresField
    (if message = "" then scope.label field ++ " is required" else message))]

/-- A value, as it is shown to the reader, that is none of those allowed. -/
def unlisted (scope : Scope) (shown : String) (allowed : List String) (field : String) :
    List Finding :=
  scope.error field .invalidEnumValue
    (scope.label field ++ " " ++ shown ++ " is not one of: " ++ ", ".intercalate (sortedSet allowed))

/-- Asks a value, where it is set, to be one of those allowed. -/
def oneOf (scope : Scope) (value : Option String) (allowed : List String) (field : String) :
    List Finding :=
  match value with
  | none => []
  | some text => if text ∈ allowed then [] else scope.unlisted (quoted text) allowed field

def bounds : (least most : Option Int) → String
  | some least, some most => s!"between {least} and {most}"
  | least, none => "at least " ++ (least.map toString).getD "None"
  | none, some most => s!"at most {most}"

/-- Whether a number lies between two bounds, where they are set. -/
def within (value : Int) (least most : Option Int) : Bool :=
  least.all (· ≤ value) && most.all (value ≤ ·)

/-- Asks a number, where it is set, to lie between two bounds. -/
def inRange (scope : Scope) (value : Option Int) (field : String) (least : Option Int)
    (most : Option Int := none) : List Finding :=
  match value with
  | none => []
  | some number =>
    if within number least most then []
    else scope.error field .outOfRange
      s!"{scope.label field} must be {bounds least most}, got {number}"

end Scope

/-- Whether a text is set and not empty. -/
def isFilled (text : Option String) : Bool :=
  text.any (· ≠ "")

end BucketPlan
