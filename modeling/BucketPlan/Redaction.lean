import BucketPlan.Text.Blank
import BucketPlan.Text.Digit
import BucketPlan.Text.Word

namespace BucketPlan

namespace Redaction

/-- What is looked for in a text: given the character before a place and the text from there on,
the text behind a match that starts at the place. -/
abbrev Pattern := Option Char → List Char → Option (List Char)

/-- Replaces the matches from left to right. `skip` characters still belong to the last match. -/
def substituteFrom (pattern : Pattern) (replacement : List Char) :
    (skip : Nat) → (before : Option Char) → List Char → List Char
  | _, _, [] => []
  | skip + 1, _, c :: rest => substituteFrom pattern replacement skip (some c) rest
  | 0, before, c :: rest =>
    match pattern before (c :: rest) with
    | some behind =>
      replacement ++ substituteFrom pattern replacement (rest.length - behind.length) (some c) rest
    | none => c :: substituteFrom pattern replacement 0 (some c) rest

def substitute (pattern : Pattern) (replacement : String) (text : List Char) : List Char :=
  substituteFrom pattern replacement.toList 0 none text

/-- What follows a literal beginning. -/
def after? (literal : String) (text : List Char) : Option (List Char) :=
  if literal.toList.isPrefixOf text then some (text.drop literal.length) else none

/-- What follows a row of at least one character of a class. -/
def afterSome? (isMember : Char → Bool) (text : List Char) : Option (List Char) :=
  if text.head?.any isMember then some (text.dropWhile isMember) else none

def isLower (c : Char) : Bool :=
  'a' ≤ c && c ≤ 'z'

def isAlphanumeric (c : Char) : Bool :=
  isLower c || ('A' ≤ c && c ≤ 'Z') || ('0' ≤ c && c ≤ '9')

def isRegionChar (c : Char) : Bool :=
  isLower c || ('0' ≤ c && c ≤ '9') || c == '-'

def isKeyChar (c : Char) : Bool :=
  isAlphanumeric c || c == '-' || c == '_' || c == '/'

def isRoleChar (c : Char) : Bool :=
  isKeyChar c || c == '+' || c == '=' || c == ',' || c == '.' || c == '@'

/-- Words with a hyphen in front of each, read after a hyphen or not. -/
def isHyphenated : (afterHyphen : Bool) → List Char → Bool
  | afterHyphen, [] => !afterHyphen
  | afterHyphen, c :: rest =>
    if c = '-' then !afterHyphen && isHyphenated true rest else isHyphenated false rest

/-- What follows the name of a cloud partition. -/
def afterPartition? (text : List Char) : Option (List Char) := do
  let text ← after? "arn:aws" text
  let isPart (c : Char) : Bool := isLower c || c == '-'
  let suffix := text.takeWhile isPart
  if suffix.head?.all (· == '-') && isHyphenated false suffix then some (text.dropWhile isPart)
  else none

/-- What follows the twelve digits of an account. -/
def afterAccount? (text : List Char) : Option (List Char) :=
  if (text.take 12).length = 12 ∧ (text.take 12).all isDecimal then some (text.drop 12) else none

/-- The address of a managed key or of an alias for one. -/
def keyAddress : Pattern := fun _ text => do
  let text ← afterPartition? text
  let text ← after? ":kms:" text
  let text ← after? ":" (text.dropWhile isRegionChar)
  let text ← afterAccount? text
  let text ← (after? ":key/" text <|> after? ":alias/" text)
  afterSome? isKeyChar text

/-- The address of a role. -/
def roleAddress : Pattern := fun _ text => do
  let text ← afterPartition? text
  let text ← after? ":iam::" text
  let text ← afterAccount? text
  let text ← after? ":role/" text
  afterSome? isRoleChar text

/-- Exactly twelve digits in a row. -/
def accountId : Pattern := fun before text =>
  if before.any isDecimal then none
  else match afterAccount? text with
    | some rest => if rest.head?.any isDecimal then none else some rest
    | none => none

/-- Whether a character is a letter regardless of case. A few letters beyond ASCII have an ASCII
letter as their other case. -/
def isSameLetter (letter c : Char) : Bool :=
  c.toLower == letter ||
    (letter == 'k' && c.toNat == 0x212A) || (letter == 's' && c.toNat == 0x17F) ||
    (letter == 'i' && (c.toNat == 0x130 || c.toNat == 0x131))

def afterWord? : List Char → List Char → Option (List Char)
  | [], text => some text
  | _ :: _, [] => none
  | letter :: word, c :: text => if isSameLetter letter c then afterWord? word text else none

def isSeparator (c : Char) : Bool :=
  c == '=' || c == ':' || isBlank c

def isValueChar (c : Char) : Bool :=
  !(isBlank c || c == ',' || c == ';' || c == ')')

/-- What follows separators and a value behind them. Where no value follows the separators, the last
one of them that is no white space serves as the value, unless it is the only one. -/
def afterAssignment? (text : List Char) : Option (List Char) :=
  let separators := text.takeWhile isSeparator
  let rest := text.dropWhile isSeparator
  if separators.isEmpty then none
  else if rest.head?.any isValueChar then some (rest.dropWhile isValueChar)
  else
    let fromEnd := (separators.drop 1).reverse
    if (fromEnd.dropWhile isBlank).isEmpty then none
    else some ((fromEnd.takeWhile isBlank).reverse ++ rest)

/-- A named value, the name standing at the start of a word. -/
def assignment (name : String) : Pattern := fun before text =>
  if before.any isWordChar then none
  else (afterWord? name.toList text).bind afterAssignment?

def sensitiveFields : List String :=
  ["token", "kms_master_key_id", "replica_kms_key_id", "kms_key_id"]

def redactField (text : List Char) (name : String) : List Char :=
  substitute (assignment name) (name ++ ": [REDACTED]") text

def redactFields (names : List String) (text : List Char) : List Char :=
  names.foldl redactField text

def redactAddresses (text : List Char) : List Char :=
  substitute accountId "[REDACTED]"
    (substitute roleAddress "arn:aws:iam::[REDACTED]"
      (substitute keyAddress "arn:aws:kms:[REDACTED]" text))

/-- Redacts with the sensitive fields taken in a certain order. -/
def redactInOrder (names : List String) (text : List Char) : List Char :=
  redactFields names (redactAddresses text)

end Redaction

/-- The text without account numbers, key and role addresses and the values of sensitive fields, which
are taken in a certain order. -/
def redactIn (order : List String) (text : String) : String :=
  String.ofList (Redaction.redactInOrder order text.toList)

/-- The text redacted with the sensitive fields in the order that they are written in. -/
def redact (text : String) : String :=
  redactIn Redaction.sensitiveFields text

/-- The order in which a process takes the sensitive fields. They form a set, so it may be any order. -/
structure FieldOrder where
  names : List String := Redaction.sensitiveFields
  arranged : names.Perm Redaction.sensitiveFields := by exact .refl _

/-- A failure is told under its category. -/
def redactFailure (order : List String) (category message : String) : String :=
  redactIn order (category ++ ": " ++ message)

end BucketPlan
