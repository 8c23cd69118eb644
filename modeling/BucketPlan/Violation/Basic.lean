import BucketPlan.Text.Dotted

namespace BucketPlan

inductive Code where
  | mutuallyExclusive
  | requiresField
  | duplicateKey
  | outOfRange
  | invalidEnumValue
  | nonMonotonicSequence
deriving DecidableEq, Repr

inductive Severity where
  | error
  | warning
deriving DecidableEq, Repr

def Code.all : List Code :=
  [.mutuallyExclusive, .requiresField, .duplicateKey, .outOfRange, .invalidEnumValue,
    .nonMonotonicSequence]

def Code.name : Code → String
  | mutuallyExclusive => "MUTUALLY_EXCLUSIVE"
  | requiresField => "REQUIRES_FIELD"
  | duplicateKey => "DUPLICATE_KEY"
  | outOfRange => "OUT_OF_RANGE"
  | invalidEnumValue => "INVALID_ENUM_VALUE"
  | nonMonotonicSequence => "NON_MONOTONIC_SEQUENCE"

def Severity.name : Severity → String
  | error => "error"
  | warning => "warning"

/-- One problem of a description: the area it belongs to, the rule within a keyed area, and the path
below that. -/
structure Violation where
  area : String
  rule : String
  field : String
  code : Code
  message : String
  severity : Severity := .error
deriving DecidableEq, Repr

namespace Violation

def path (v : Violation) : String :=
  dottedPath [v.area, v.rule, v.field]

def isError (v : Violation) : Bool :=
  v.severity == .error

end Violation

/-- The violations in the order in which they were reported. -/
abbrev Log := List Violation

namespace Log

def hasErrors (log : Log) : Bool :=
  log.any Violation.isError

/-- Whether the log turns a description down; strictly, a warning is enough. -/
def rejects (log : Log) (strict : Bool) : Bool :=
  if strict then !log.isEmpty else log.hasErrors

def hasErrorAt (log : Log) (path : String) : Bool :=
  log.any fun v => v.isError && v.path == path

end Log

end BucketPlan
