import BucketPlan.Text.Quoted
import BucketPlan.Value.Basic

namespace BucketPlan

namespace Value

mutual

/-- The text of a value inside another one, where texts stand between quotes. -/
def inner : Value → String
  | null => "None"
  | bool b => if b then "True" else "False"
  | int n => toString n
  | real x => x.text
  | str s => quoted s
  | bytes octets => quotedBytes octets
  | moment date => date.expression
  | list items => "[" ++ ", ".intercalate (inners items) ++ "]"
  | tuple [item] => "(" ++ inner item ++ ",)"
  | tuple items => "(" ++ ", ".intercalate (inners items) ++ ")"
  | map entries => "\x7b" ++ ", ".intercalate (innerEntries entries) ++ "\x7d"

def inners : List Value → List String
  | [] => []
  | item :: rest => inner item :: inners rest

def innerEntries : List (Value × Value) → List String
  | [] => []
  | (key, value) :: rest => (inner key ++ ": " ++ inner value) :: innerEntries rest

end

/-- The text of a value; a text is its own. -/
def display : Value → String
  | str s => s
  | moment date => date.text
  | value => value.inner

end Value

end BucketPlan
