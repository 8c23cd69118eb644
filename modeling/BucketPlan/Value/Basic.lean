import BucketPlan.Calendar
import BucketPlan.Number.Binary64

namespace BucketPlan

/-- Untyped data: what a description of a bucket is written in and what a request carries. A map
keeps its entries in order, and anything may be a key. -/
inductive Value where
  | null
  | bool (b : Bool)
  | int (n : Int)
  | real (x : Binary64)
  | str (s : String)
  | bytes (octets : List UInt8)
  | moment (date : Date)
  | list (items : List Value)
  | tuple (items : List Value)
  | map (entries : List (Value × Value))
deriving Inhabited

namespace Value

def typeName : Value → String
  | null => "NoneType"
  | bool _ => "bool"
  | int _ => "int"
  | real _ => "float"
  | str _ => "str"
  | bytes _ => "bytes"
  | moment _ => "datetime"
  | list _ => "list"
  | tuple _ => "tuple"
  | map _ => "dict"

/-- Null, false, zero and everything empty is untrue. -/
def isTrue : Value → Bool
  | null => false
  | bool b => b
  | int n => n != 0
  | real x => !x.isZero
  | str s => s != ""
  | bytes octets => !octets.isEmpty
  | moment _ => true
  | list items => !items.isEmpty
  | tuple items => !items.isEmpty
  | map entries => !entries.isEmpty

/-- Null and the empty text, tuple and map count as left out; the empty list is a given value. -/
def isGiven : Value → Bool
  | null => false
  | str s => s != ""
  | tuple items => !items.isEmpty
  | map entries => !entries.isEmpty
  | _ => true

def isNull : Value → Bool
  | null => true
  | _ => false

def isMap : Value → Bool
  | map _ => true
  | _ => false

def isStr : Value → Bool
  | str _ => true
  | _ => false

def text? : Value → Option String
  | str s => some s
  | _ => none

def int? : Value → Option Int
  | int n => some n
  | _ => none

def bool? : Value → Option Bool
  | bool b => some b
  | _ => none

/-- The items of a list or a tuple. -/
def sequence? : Value → Option (List Value)
  | list items => some items
  | tuple items => some items
  | _ => none

def entries? : Value → Option (List (Value × Value))
  | map entries => some entries
  | _ => none

def lookup (key : String) : List (Value × Value) → Value
  | [] => null
  | (str name, value) :: rest => if name = key then value else lookup key rest
  | _ :: rest => lookup key rest

/-- What a map holds under a name; null where there is nothing. -/
def get (value : Value) (key : String) : Value :=
  match value with
  | map entries => lookup key entries
  | _ => null

/-- A map under names, in the order given. -/
def record (fields : List (String × Value)) : Value :=
  map (fields.map fun (name, value) => (str name, value))

/-- Truth values and numbers of both kinds, compared by their numeric value. -/
def numeric? : Value → Option (Except Binary64 Int)
  | bool b => some (.ok (if b then 1 else 0))
  | int n => some (.ok n)
  | real x => some (match x.toInt? with
    | some n => .ok n
    | none => .error x)
  | _ => none

mutual

/-- Equality of keys: a number is the same key however it is written. -/
def sameKey : Value → Value → Bool
  | null, null => true
  | str a, str b => a == b
  | bytes a, bytes b => a == b
  | tuple a, tuple b => sameKeys a b
  | a, b =>
    match numeric? a, numeric? b with
    | some (.ok m), some (.ok n) => m == n
    | some (.error x), some (.error y) => x == y
    | _, _ => false

def sameKeys : List Value → List Value → Bool
  | [], [] => true
  | a :: as, b :: bs => sameKey a b && sameKeys as bs
  | _, _ => false

end

/-- Replaces the value of a key in place, or adds the entry at the end. -/
def putEntry (key value : Value) : List (Value × Value) → List (Value × Value)
  | [] => [(key, value)]
  | (other, old) :: rest =>
    if sameKey other key then (other, value) :: rest else (other, old) :: putEntry key value rest

/-- Of two entries with one key the later value counts, at the earlier place. -/
def ofEntries (entries : List (Value × Value)) : Value :=
  map (entries.foldl (fun built (key, value) => putEntry key value built) [])

end Value

end BucketPlan
