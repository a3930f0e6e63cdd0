import ServiceAtlas.Decimal.Binary64

/-!
# Shortest decimal text

The fewest decimal digits that read back as a given number, and the two ways to lay them out. Of two
such decimals that are equally near to the number, each way has a rule of its own.
-/
namespace ServiceAtlas

/-- The decimal number `digits * 10 ^ exponent`. -/
structure Decimal where
  digits : Nat
  exponent : Int
deriving DecidableEq, Repr

namespace Binary64

/-- Numerator and denominator of `mantissa * 2 ^ exponent / 10 ^ p`. -/
def onGrid (mantissa : Nat) (exponent p : Int) : Nat × Nat :=
  ((mantissa <<< exponent.toNat) * Nat.pow 10 (-p).toNat,
    Nat.pow 10 p.toNat <<< (-exponent).toNat)

/-- Whether `digits * 10 ^ p` is rounded to `mantissa * 2 ^ exponent`: it lies between the points
half way to the two neighbours, which themselves belong to an even mantissa. -/
def readsBack (mantissa : Nat) (exponent p : Int) (digits : Nat) : Bool :=
  let step := if mantissa = leastFullMantissa ∧ leastExponent < exponent then 1 else 2
  let (low, den) := onGrid (4 * mantissa - step) (exponent - 2) p
  let (high, _) := onGrid (4 * mantissa + 2) (exponent - 2) p
  if mantissa % 2 = 0 then low ≤ digits * den && digits * den ≤ high
  else low < digits * den && digits * den < high

/-- The power of ten of the first digit. -/
def leadingPower (mantissa : Nat) (exponent : Int) : Int :=
  let (num, den) := onGrid mantissa exponent (-350)
  (Nat.toDigits 10 (num / den)).length - 351

/-- The nearer of the two neighbours on the grid of `10 ^ p` that reads back, if one does. A
neighbour may be a power of ten with one digit more than the grid asks for. -/
def nearestOnGrid? (tie : Tie) (mantissa : Nat) (exponent p : Int) : Option Decimal :=
  let (num, den) := onGrid mantissa exponent p
  let floor := num / den
  let near := roundDiv tie num den
  let far := if near = floor then floor + 1 else floor
  ([near, far].find? (readsBack mantissa exponent p)).map fun digits =>
    if digits % 10 = 0 then ⟨digits / 10, p + 1⟩ else ⟨digits, p⟩

/-- The shortest decimal number that reads back, and of those the nearest. -/
def shortest (tie : Tie) (mantissa : Nat) (exponent : Int) : Decimal :=
  if mantissa = 0 then ⟨0, 0⟩
  else
    let lead := leadingPower mantissa exponent
    ((List.range 17).findSome? fun (k : Nat) =>
      nearestOnGrid? tie mantissa exponent (lead - k)).getD ⟨mantissa, exponent⟩

end Binary64

namespace Decimal

def digitText (d : Decimal) : List Char := Nat.toDigits 10 d.digits

/-- The power of ten just above the first digit. -/
def point (d : Decimal) : Int := d.digitText.length + d.exponent

def zeros (n : Int) : List Char := List.replicate n.toNat '0'

/-- All digits in their places, without an exponent. -/
def plain (d : Decimal) : List Char :=
  if 0 ≤ d.exponent then d.digitText ++ zeros d.exponent
  else if 0 < d.point then
    d.digitText.take d.point.toNat ++ '.' :: d.digitText.drop d.point.toNat
  else '0' :: '.' :: zeros (-d.point) ++ d.digitText

/-- Digits in their places where the point stands at most four places before the first digit or
sixteen behind it, with at least one digit after the point; elsewhere one digit before the point and
an exponent. -/
def scientific (d : Decimal) : List Char :=
  if d.digits = 0 then ['0', '.', '0']
  else if 0 ≤ d.exponent ∧ d.point ≤ 16 then d.plain ++ ['.', '0']
  else if -5 < d.point ∧ d.point ≤ 16 then d.plain
  else
    let mantissa := match d.digitText with
      | first :: second :: rest => first :: '.' :: second :: rest
      | digits => digits
    mantissa ++ 'e' :: (toString (d.point - 1)).toList

end Decimal

namespace Binary64

def signText (negative : Bool) : List Char := if negative then ['-'] else []

/-- The text of a number as a value: no exponent, and no point without digits behind it. A tie
between two decimals goes up. -/
def plainText : Binary64 → String
  | .nan => "NaN"
  | .infinite negative => String.ofList (signText negative ++ "inf".toList)
  | .finite negative m e => String.ofList (signText negative ++ (shortest .up m e).plain)

/-- The text of a number as it could stand in a document. A tie between two decimals goes to the one
with an even digit at its end. -/
def literalText : Binary64 → String
  | .nan => ".nan"
  | .infinite negative => String.ofList (signText negative ++ ".inf".toList)
  | .finite negative m e => String.ofList (signText negative ++ (shortest .toEven m e).scientific)

def ofText? (text : String) : Option Binary64 := read? text.toList

example : (ofText? "2.98023223876953125e-8").map plainText = some "0.000000029802322387695313" := by
  decide +kernel
example : (ofText? "2.98023223876953125e-8").map literalText = some "2.9802322387695312e-8" := by
  decide +kernel

end Binary64
end ServiceAtlas
