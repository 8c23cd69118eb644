namespace BucketPlan

/-- A number of the 64-bit binary format: a sign with `mantissa * 2 ^ exponent`, an infinite one, or
the one that stands for no number. -/
inductive Binary64 where
  | finite (negative : Bool) (mantissa : Nat) (exponent : Int)
  | infinite (negative : Bool)
  | nan
deriving DecidableEq, Repr

namespace Binary64

/-- The quotient rounded to the nearest integer, a tie to the even one. -/
def roundDiv (numerator denominator : Nat) : Nat :=
  let quotient := numerator / denominator
  let twice := 2 * (numerator % denominator)
  if denominator < twice ∨ (twice = denominator ∧ quotient % 2 = 1) then quotient + 1 else quotient

/-- `n * 2 ^ shift / d` as a numerator and a denominator. -/
def scaled (base : Nat) (shift : Int) (numerator denominator : Nat) : Nat × Nat :=
  if 0 ≤ shift then (numerator * base.pow shift.toNat, denominator)
  else (numerator, denominator * base.pow (-shift).toNat)

/-- The number of the format that is nearest to a positive quotient. -/
def ofQuotient (negative : Bool) (numerator denominator : Nat) : Binary64 :=
  let guess : Int := max ((numerator.log2 : Int) - (denominator.log2 : Int) - 53) (-1074)
  let (n, d) := scaled 2 (-guess) numerator denominator
  let exponent := if Nat.pow 2 53 ≤ n / d then guess + 1 else guess
  let (n, d) := scaled 2 (-exponent) numerator denominator
  let rounded := roundDiv n d
  let (mantissa, exponent) :=
    if rounded = Nat.pow 2 53 then (Nat.pow 2 52, exponent + 1) else (rounded, exponent)
  if 971 < exponent then .infinite negative else .finite negative mantissa exponent

/-- The number nearest to `digits * 10 ^ exponent`. -/
def ofDecimal (negative : Bool) (digits : Nat) (exponent : Int) : Binary64 :=
  let size : Int := exponent + (toString digits).length
  if digits = 0 ∨ size < -400 then .finite negative 0 0
  else if 400 < size then .infinite negative
  else
    let (numerator, denominator) := scaled 10 exponent digits 1
    ofQuotient negative numerator denominator

def isZero : Binary64 → Bool
  | finite _ mantissa _ => mantissa == 0
  | infinite _ => false
  | nan => false

/-- The integer with the same value, where there is one. -/
def toInt? : Binary64 → Option Int
  | finite negative mantissa exponent =>
    let (n, d) := scaled 2 exponent mantissa 1
    if n % d = 0 then some (if negative then -((n / d : Nat) : Int) else ((n / d : Nat) : Int)) else none
  | infinite _ => none
  | nan => none

/-- The power of ten just above `numerator / denominator`, looked for among the negative ones. -/
def smallMagnitude (numerator denominator : Nat) : (fuel : Nat) → Int → Int
  | 0, place => place
  | fuel + 1, place =>
    if denominator ≤ numerator then place
    else smallMagnitude (numerator * 10) denominator fuel (place - 1)

/-- The exponent `k` for which the quotient lies in `[10 ^ (k - 1), 10 ^ k)`. -/
def magnitude (numerator denominator : Nat) : Int :=
  if denominator ≤ numerator then ((toString (numerator / denominator)).length : Int)
  else smallMagnitude numerator denominator 400 1

/-- A decimal with `places` digits that reads back as the number `mantissa * 2 ^ exponent`, the
nearer one where two do. -/
def candidate? (mantissa : Nat) (exponent : Int) (places : Nat) (top : Int) : Option (Nat × Int) :=
  let unit := top - places
  let quarter (x : Nat) : Nat × Nat :=
    let (n, d) := scaled 2 (exponent - 2) x 1
    scaled 10 (-unit) n d
  let (n, d) := quarter (4 * mantissa)
  let (low, lowBase) :=
    quarter (if mantissa = Nat.pow 2 52 ∧ -1074 < exponent then 4 * mantissa - 1 else 4 * mantissa - 2)
  let (high, highBase) := quarter (4 * mantissa + 2)
  let inside (c : Nat) : Bool :=
    if mantissa % 2 = 0 then low ≤ c * lowBase && c * highBase ≤ high
    else low < c * lowBase && c * highBase < high
  let below := n / d
  match inside below, inside (below + 1) with
  | true, true =>
    if n - below * d < (below + 1) * d - n ∨ (n - below * d = (below + 1) * d - n ∧ below % 2 = 0)
    then some (below, unit) else some (below + 1, unit)
  | true, false => some (below, unit)
  | false, true => some (below + 1, unit)
  | false, false => none

/-- The decimal with the fewest digits that reads back as the number. -/
def shortest (mantissa : Nat) (exponent : Int) : Nat × Int :=
  let (n, d) := scaled 2 exponent mantissa 1
  let top := magnitude n d
  ((List.range 17).findSome? fun i => candidate? mantissa exponent (i + 1) top).getD (mantissa, exponent)

def zeros (n : Nat) : String :=
  String.ofList (List.replicate n '0')

/-- Positional from `1e-4` up to `1e16`, otherwise with an exponent of at least two digits. -/
def layOut (digits : List Char) (point : Int) : String :=
  if -4 < point ∧ point ≤ 16 then
    if point ≤ 0 then "0." ++ zeros (-point).toNat ++ String.ofList digits
    else if (digits.length : Int) ≤ point then
      String.ofList digits ++ zeros (point.toNat - digits.length) ++ ".0"
    else String.ofList (digits.take point.toNat) ++ "." ++ String.ofList (digits.drop point.toNat)
  else
    let fraction := digits.drop 1
    let power := (point - 1).natAbs
    String.ofList (digits.take 1) ++ (if fraction.isEmpty then "" else "." ++ String.ofList fraction) ++
      (if point - 1 < 0 then "e-" else "e+") ++ (if power < 10 then "0" else "") ++ toString power

/-- The shortest text that reads back as the number. -/
def text : Binary64 → String
  | infinite negative => if negative then "-inf" else "inf"
  | nan => "nan"
  | finite negative mantissa exponent =>
    let sign := if negative then "-" else ""
    if mantissa = 0 then sign ++ "0.0"
    else
      let (decimal, unit) := shortest mantissa exponent
      let digits := (toString decimal).toList
      let significant := (digits.reverse.dropWhile (· == '0')).reverse
      sign ++ layOut significant (unit + digits.length)

end Binary64

end BucketPlan
