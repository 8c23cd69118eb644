import BucketPlan.Fault
import BucketPlan.Value.Display

namespace BucketPlan

def unitEscape (unit : Nat) : List Char :=
  '\\' :: 'u' :: hexadecimal 4 unit

/-- A character inside an ASCII line: short escapes where there are some, otherwise one or two
sixteen-bit units. -/
def asciiEscape (c : Char) : List Char :=
  if c = '"' ∨ c = '\\' then ['\\', c]
  else if c = '\n' then ['\\', 'n']
  else if c = '\r' then ['\\', 'r']
  else if c = '\t' then ['\\', 't']
  else if c.toNat = 8 then ['\\', 'b']
  else if c.toNat = 12 then ['\\', 'f']
  else if 32 ≤ c.toNat ∧ c.toNat < 127 then [c]
  else if c.toNat < 0x10000 then unitEscape c.toNat
  else
    let offset := c.toNat - 0x10000
    unitEscape (0xd800 + offset / 0x400) ++ unitEscape (0xdc00 + offset % 0x400)

def asciiQuoted (s : String) : String :=
  String.ofList ('"' :: s.toList.flatMap asciiEscape ++ ['"'])

namespace Value

/-- Numbers that are not finite have names of their own in a line. -/
def realLine : Binary64 → String
  | .infinite negative => if negative then "-Infinity" else "Infinity"
  | .nan => "NaN"
  | x => x.text

/-- Scalars that are not texts may be keys, written as texts. -/
def keyLine : Value → Except Fault String
  | str s => .ok (asciiQuoted s)
  | int n => .ok (asciiQuoted (toString n))
  | bool b => .ok (if b then "\"true\"" else "\"false\"")
  | null => .ok "\"null\""
  | real x => .ok (asciiQuoted (realLine x))
  | key => .error (.unwritableKey key.typeName)

mutual

/-- A value on one ASCII line of JSON. What JSON has no form for is written as its text. -/
def line : Value → Except Fault String
  | null => .ok "null"
  | bool b => .ok (if b then "true" else "false")
  | int n => .ok (toString n)
  | real x => .ok (realLine x)
  | str s => .ok (asciiQuoted s)
  | bytes octets => .ok (asciiQuoted (quotedBytes octets))
  | moment date => .ok (asciiQuoted date.text)
  | list items => do return "[" ++ ", ".intercalate (← lines items) ++ "]"
  | tuple items => do return "[" ++ ", ".intercalate (← lines items) ++ "]"
  | map entries => do return "\x7b" ++ ", ".intercalate (← entryLines entries) ++ "\x7d"

def lines : List Value → Except Fault (List String)
  | [] => .ok []
  | item :: rest => do return (← line item) :: (← lines rest)

def entryLines : List (Value × Value) → Except Fault (List String)
  | [] => .ok []
  | (key, value) :: rest => do
    let name ← keyLine key
    return (name ++ ": " ++ (← line value)) :: (← entryLines rest)

end

end Value

end BucketPlan
