import BucketPlan.Finding
import BucketPlan.Text.Occurrence

namespace BucketPlan

namespace BucketName

def isLetterOrDigit (c : Char) : Bool :=
  ('a' ≤ c && c ≤ 'z') || ('0' ≤ c && c ≤ '9')

def isNameChar (c : Char) : Bool :=
  isLetterOrDigit c || c == '.' || c == '-'

/-- The text without one line break at its end. -/
def withoutFinalBreak (name : List Char) : List Char :=
  if name.getLast? = some '\n' then name.dropLast else name

/-- Only name characters, with a letter or digit at both ends. -/
def isWellFormed (name : List Char) : Bool :=
  2 ≤ name.length && name.all isNameChar &&
    name.head?.any isLetterOrDigit && name.getLast?.any isLetterOrDigit

def hasDoubleDot (name : List Char) : Bool :=
  occursIn ['.', '.'] name

def isAddressGroup (group : List Char) : Bool :=
  1 ≤ group.length && group.length ≤ 3 && group.all fun c => '0' ≤ c && c ≤ '9'

/-- Four groups of one to three digits between dots. -/
def isAddress (name : List Char) : Bool :=
  let groups := name.splitOn '.'
  groups.length == 4 && groups.all isAddressGroup

/-- A missing name is an error, an unusual one a warning. -/
def findings (name : Option String) : List Finding :=
  let scope : Scope := { area := "name" }
  if isFilled name then
    let text := (name.getD "").toList
    if text.length < 3 ∨ 63 < text.length then
      scope.warning "" .outOfRange s!"bucket name must be 3-63 characters, got {text.length}"
    else if !isWellFormed (withoutFinalBreak text) || hasDoubleDot text then
      scope.warning "" .outOfRange
        ("bucket name may only contain lowercase letters, digits, '.' and '-', " ++
          "and must start and end with a letter or digit")
    else if isAddress (withoutFinalBreak text) then
      scope.warning "" .outOfRange "bucket name must not be formatted as an IP address"
    else []
  else scope.require false "" "bucket name is required"

end BucketName

end BucketPlan
