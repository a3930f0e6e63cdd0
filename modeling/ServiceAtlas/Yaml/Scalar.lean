import ServiceAtlas.Decimal.Shortest
import ServiceAtlas.Text.Cut

/-!
# Plain scalars

What an unquoted scalar stands for: nothing, a boolean, an integer in one of four radices, a decimal
number, or else its own text. Decimal digits after a leading zero are text.
-/
namespace ServiceAtlas.Yaml

inductive Plain where
  | null
  | boolean (value : Bool)
  | integer (value : Int)
  /-- An integer beyond 64 bits and within 128. -/
  | wideInteger
  | float (value : Binary64)
  | string
deriving DecidableEq, Repr

namespace Plain

def isNullWord (text : String) : Bool := text ∈ ["null", "Null", "NULL", "~"]

def boolean? (text : String) : Option Bool :=
  if text ∈ ["true", "True", "TRUE"] then some true
  else if text ∈ ["false", "False", "FALSE"] then some false
  else none

def beginsWithSign : List Char → Bool
  | c :: _ => c = '+' || c = '-'
  | [] => false

def withoutPlus : List Char → List Char
  | '+' :: text => text
  | text => text

def withoutSign : List Char → List Char
  | '+' :: text => text
  | '-' :: text => text
  | text => text

/-- Digits behind a zero, which keep their text. -/
def isZeroLed (text : List Char) : Bool :=
  match withoutSign text with
  | '0' :: c :: rest => (c :: rest).all Binary64.isDigit
  | _ => false

/-- The marks of the radices other than ten. -/
def radixMarks : List (List Char × Nat) := [(['0', 'x'], 16), (['0', 'o'], 8), (['0', 'b'], 2)]

/-- The radix of a text and the digits behind its mark. -/
def radixOf (text : List Char) : Nat × List Char :=
  (radixMarks.findSome? fun (mark, radix) => (Text.after? mark text).map (radix, ·)).getD (10, text)

/-- An integer without a minus of at most `bound`. -/
def natural? (bound : Nat) (text : List Char) : Option Nat :=
  let (radix, digits) := radixOf (withoutPlus text)
  if beginsWithSign digits || (radix == 10 && isZeroLed text) then none
  else (Text.readNat radix bound digits).toOption

/-- An integer with a minus, or a decimal one with either sign, of at most `bound`. -/
def negative? (bound : Nat) (text : List Char) : Option Int :=
  match text with
  | '-' :: rest =>
    let (radix, digits) := radixOf rest
    if radix == 10 && isZeroLed text then none
    else (Text.readInt radix bound ('-' :: digits)).toOption
  | _ => if isZeroLed text then none else (Text.readInt 10 bound text).toOption

/-- The integer of 64 bits, signed or not, that a text stands for. -/
def integer? (text : List Char) : Option Int :=
  match natural? Text.maxNat64 text with
  | some n => some n
  | none => negative? Text.maxInt64 text

/-- Whether a text stands for an integer of 128 bits, signed or not. -/
def isWideInteger (text : List Char) : Bool :=
  (natural? (Nat.pow 2 128 - 1) text).isSome || (negative? (Nat.pow 2 127 - 1) text).isSome

/-- A finite decimal number, or the word for one that is none or is infinite. -/
def float? (text : List Char) : Option Binary64 :=
  let unsigned := withoutPlus text
  if text.head? = some '+' && beginsWithSign unsigned then none
  else if String.ofList unsigned ∈ [".inf", ".Inf", ".INF"] then some (.infinite false)
  else if String.ofList text ∈ ["-.inf", "-.Inf", "-.INF"] then some (.infinite true)
  else if String.ofList text ∈ [".nan", ".NaN", ".NAN"] then some .nan
  else (Binary64.read? unsigned).filter Binary64.isFinite

def ofText (text : String) : Plain :=
  let chars := text.toList
  if text.isEmpty || isNullWord text then .null
  else
    match boolean? text with
    | some b => .boolean b
    | none =>
      match integer? chars with
      | some n => .integer n
      | none =>
        if isWideInteger chars then .wideInteger
        else if isZeroLed chars then .string
        else
          match float? chars with
          | some x => .float x
          | none => .string

example : ofText "~" = .null ∧ ofText "yes" = .string ∧ ofText "017" = .string := by decide +kernel
example : ofText "-0x1F" = .integer (-31) ∧ ofText "+12" = .integer 12 := by decide +kernel

end Plain
end ServiceAtlas.Yaml
