import ServiceAtlas.Text.Integer

/-! Floating point numbers of 64 bits as exact values, and the nearest one to a decimal text. -/
namespace ServiceAtlas

/-- A finite number is `mantissa * 2 ^ exponent` with its sign; the exponent is the least possible,
or the least that keeps the mantissa below `2 ^ 53`. -/
inductive Binary64 where
  | nan
  | infinite (negative : Bool)
  | finite (negative : Bool) (mantissa : Nat) (exponent : Int)
deriving DecidableEq, Repr

namespace Binary64

def leastExponent : Int := -1074

def greatestExponent : Int := 971

/-- The least mantissa above the least exponent, with 53 binary digits. -/
def leastFullMantissa : Nat := 0x10000000000000

def zero (negative : Bool) : Binary64 := .finite negative 0 leastExponent

def isFinite : Binary64 → Bool
  | .finite .. => true
  | _ => false

/-- Whether two numbers are equal in value: the zeros are, and a number that is none is equal to
itself alone. -/
def sameValue : Binary64 → Binary64 → Bool
  | .finite n m e, .finite n' m' e' => (m == 0 && m' == 0) || (n == n' && m == m' && e == e')
  | x, y => x == y

/-- Where a value half way between two neighbours goes. -/
inductive Tie where
  | toEven
  | up
deriving DecidableEq, Repr

/-- The quotient rounded to the nearest natural number. -/
def roundDiv (tie : Tie) (num den : Nat) : Nat :=
  let floor := num / den
  let twice := 2 * (num % den)
  if twice < den then floor
  else if den < twice then floor + 1
  else
    match tie with
    | .toEven => floor + floor % 2
    | .up => floor + 1

example : roundDiv .toEven 5 2 = 2 ∧ roundDiv .up 5 2 = 3 := by decide

/-- Numerator and denominator of `num / den / 2 ^ exponent`. -/
def scaled (num den : Nat) (exponent : Int) : Nat × Nat :=
  if 0 ≤ exponent then (num, den <<< exponent.toNat) else (num <<< (-exponent).toNat, den)

/-- The number nearest to `num / den`, a half to the even mantissa. -/
def ofRatio (negative : Bool) (num den : Nat) : Binary64 :=
  if num = 0 then zero negative
  else
    let guess : Int := (num.log2 : Int) - den.log2 - 52
    let (n, d) := scaled num den guess
    let exponent := max leastExponent (if n / d < leastFullMantissa then guess - 1 else guess)
    let (n, d) := scaled num den exponent
    let mantissa := roundDiv .toEven n d
    let (mantissa, exponent) :=
      if mantissa = 2 * leastFullMantissa then (leastFullMantissa, exponent + 1)
      else (mantissa, exponent)
    if greatestExponent < exponent then .infinite negative else .finite negative mantissa exponent

/-- The number nearest to `digits * 10 ^ exponent`. -/
def ofDecimal (negative : Bool) (digits : Nat) (exponent : Int) : Binary64 :=
  let magnitude : Int := (Nat.toDigits 10 digits).length + exponent
  if digits = 0 ∨ magnitude < -330 then zero negative
  else if 310 < magnitude then .infinite negative
  else if 0 ≤ exponent then ofRatio negative (digits * Nat.pow 10 exponent.toNat) 1
  else ofRatio negative digits (Nat.pow 10 (-exponent).toNat)

def isDigit (c : Char) : Bool := '0' ≤ c && c ≤ '9'

def natOfDigits (digits : List Char) : Nat :=
  digits.foldl (fun n c => n * 10 + (c.toNat - '0'.toNat)) 0

/-- The exponent after an `e`, or zero where the text ends. -/
def readExponent? : List Char → Option Int
  | [] => some 0
  | mark :: text =>
    if mark = 'e' ∨ mark = 'E' then
      let (negative, digits) := match text with
        | '-' :: digits => (true, digits)
        | '+' :: digits => (false, digits)
        | digits => (false, digits)
      if digits.isEmpty || !digits.all isDigit then none
      else some (if negative then -(natOfDigits digits : Int) else natOfDigits digits)
    else none

/-- Digits with an optional point among or around them, and an optional exponent. -/
def readUnsigned? (negative : Bool) (text : List Char) : Option Binary64 :=
  let whole := text.takeWhile isDigit
  let rest := text.dropWhile isDigit
  let (fraction, rest) := match rest with
    | '.' :: rest => (rest.takeWhile isDigit, rest.dropWhile isDigit)
    | rest => ([], rest)
  if whole.isEmpty && fraction.isEmpty then none
  else (readExponent? rest).map fun exponent =>
    ofDecimal negative (natOfDigits (whole ++ fraction)) (exponent - fraction.length)

/-- A decimal number with an optional sign, or one of the words for infinity and for no number in
letters of either case. -/
def read? (text : List Char) : Option Binary64 :=
  let (negative, unsigned) := match text with
    | '-' :: text => (true, text)
    | '+' :: text => (false, text)
    | text => (false, text)
  let word := String.ofList (unsigned.map Char.toLower)
  if word = "inf" ∨ word = "infinity" then some (.infinite negative)
  else if word = "nan" then some .nan
  else readUnsigned? negative unsigned

example : read? "-.5".toList = some (.finite true (2 ^ 52) (-53)) := by decide +kernel

end Binary64
end ServiceAtlas
