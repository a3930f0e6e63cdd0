/-! Integers written in digits, read within fixed bounds. A fault is the one met first from the
left: at one character, a wrong digit comes before a value out of bounds. -/
namespace ServiceAtlas.Text

inductive IntegerFault where
  | empty
  | invalidDigit
  | tooLarge
  | tooSmall
deriving DecidableEq, Repr

def IntegerFault.message : IntegerFault → String
  | .empty => "cannot parse integer from empty string"
  | .invalidDigit => "invalid digit found in string"
  | .tooLarge => "number too large to fit in target type"
  | .tooSmall => "number too small to fit in target type"

/-- The value of a digit in a radix of at most 36, letters of either case. -/
def digit? (radix : Nat) (c : Char) : Option Nat :=
  let value :=
    if '0' ≤ c ∧ c ≤ '9' then c.toNat - '0'.toNat
    else if 'a' ≤ c ∧ c ≤ 'z' then c.toNat - 'a'.toNat + 10
    else if 'A' ≤ c ∧ c ≤ 'Z' then c.toNat - 'A'.toNat + 10
    else radix
  if value < radix then some value else none

/-- Reads digits after `n`, whose value may not pass `bound`. -/
def readDigits (radix bound : Nat) (beyond : IntegerFault) :
    Nat → List Char → Except IntegerFault Nat
  | n, [] => .ok n
  | n, c :: text =>
    match digit? radix c with
    | none => .error .invalidDigit
    | some d =>
      if n * radix + d ≤ bound then readDigits radix bound beyond (n * radix + d) text
      else .error beyond

/-- A natural number of at most `bound`, with an optional plus. -/
def readNat (radix bound : Nat) : List Char → Except IntegerFault Nat
  | [] => .error .empty
  | ['+'] => .error .invalidDigit
  | '+' :: text => readDigits radix bound .tooLarge 0 text
  | text => readDigits radix bound .tooLarge 0 text

/-- An integer from `-bound - 1` to `bound`, with an optional sign. -/
def readInt (radix bound : Nat) : List Char → Except IntegerFault Int
  | [] => .error .empty
  | ['-'] => .error .invalidDigit
  | '-' :: text => (readDigits radix (bound + 1) .tooSmall 0 text).map fun n => -(n : Int)
  | text => (readNat radix bound text).map Int.ofNat

def maxInt64 : Nat := 0x7fffffffffffffff

def maxNat64 : Nat := 0xffffffffffffffff

/-- An integer of 64 bits in decimal digits. -/
def readInt64 (text : List Char) : Except IntegerFault Int := readInt 10 maxInt64 text

/-- A natural number of 64 bits in decimal digits. -/
def readNat64 (text : List Char) : Except IntegerFault Nat := readNat 10 maxNat64 text

theorem readDigits_le {radix bound : Nat} {beyond : IntegerFault} {n m : Nat} {text : List Char}
    (hn : n ≤ bound) (h : readDigits radix bound beyond n text = .ok m) : m ≤ bound := by
  induction text generalizing n with
  | nil => simp only [readDigits, Except.ok.injEq] at h; omega
  | cons c text ih =>
    simp only [readDigits] at h
    split at h
    · simp at h
    · split at h
      · next hle => exact ih hle h
      · simp at h

example : readInt64 "-9223372036854775808".toList = .ok (-9223372036854775808) := rfl
example : readInt64 "9223372036854775808".toList = .error .tooLarge := rfl

/-- `true` or `false`, spelled just so. -/
def readBool (text : String) : Option Bool :=
  if text = "true" then some true else if text = "false" then some false else none

def boolText (b : Bool) : String := if b then "true" else "false"

@[simp] theorem readBool_boolText (b : Bool) : readBool (boolText b) = some b := by
  cases b <;> decide

end ServiceAtlas.Text
