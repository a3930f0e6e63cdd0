/-! Texts as bytes: strict decoding of UTF-8, with the place and the length of the first fault. -/
namespace ServiceAtlas.Text

abbrev Bytes := List UInt8

/-- A fault at byte `index`: an impossible sequence of the given length, or an end of input inside a
sequence. -/
inductive Utf8Fault where
  | invalid (length index : Nat)
  | incomplete (index : Nat)
deriving DecidableEq, Repr

def Utf8Fault.message : Utf8Fault → String
  | .invalid length index => s!"invalid utf-8 sequence of {length} bytes from index {index}"
  | .incomplete index => s!"incomplete utf-8 byte sequence from index {index}"

def isContinuation (b : UInt8) : Bool := 0x80 ≤ b && b ≤ 0xBF

/-- Whether `b` may follow `lead` at the head of a sequence of three bytes. -/
def isSecondOfThree (lead b : UInt8) : Bool :=
  isContinuation b && !(lead == 0xE0 && b < 0xA0) && !(lead == 0xED && 0x9F < b)

/-- Whether `b` may follow `lead` at the head of a sequence of four bytes. -/
def isSecondOfFour (lead b : UInt8) : Bool :=
  isContinuation b && !(lead == 0xF0 && b < 0x90) && !(lead == 0xF4 && 0x8F < b)

def join6 (high : Nat) (b : UInt8) : Nat := high * 64 + b.toNat % 64

/-- Decodes the bytes from `index` on; `done` holds the characters before them, last first. -/
def decodeFrom : (index : Nat) → (done : List Char) → Bytes → Except Utf8Fault (List Char)
  | _, done, [] => .ok done.reverse
  | i, done, b :: rest =>
    if b < 0x80 then decodeFrom (i + 1) (Char.ofNat b.toNat :: done) rest
    else if 0xC2 ≤ b && b ≤ 0xDF then
      match rest with
      | [] => .error (.incomplete i)
      | c :: rest =>
        if isContinuation c then
          decodeFrom (i + 2) (Char.ofNat (join6 (b.toNat % 32) c) :: done) rest
        else .error (.invalid 1 i)
    else if 0xE0 ≤ b && b ≤ 0xEF then
      match rest with
      | [] => .error (.incomplete i)
      | [c] => .error (if isSecondOfThree b c then .incomplete i else .invalid 1 i)
      | c :: d :: rest =>
        if !isSecondOfThree b c then .error (.invalid 1 i)
        else if isContinuation d then
          decodeFrom (i + 3) (Char.ofNat (join6 (join6 (b.toNat % 16) c) d) :: done) rest
        else .error (.invalid 2 i)
    else if 0xF0 ≤ b && b ≤ 0xF4 then
      match rest with
      | [] => .error (.incomplete i)
      | [c] => .error (if isSecondOfFour b c then .incomplete i else .invalid 1 i)
      | [c, d] =>
        .error (if !isSecondOfFour b c then .invalid 1 i
          else if isContinuation d then .incomplete i else .invalid 2 i)
      | c :: d :: e :: rest =>
        if !isSecondOfFour b c then .error (.invalid 1 i)
        else if !isContinuation d then .error (.invalid 2 i)
        else if isContinuation e then
          decodeFrom (i + 4) (Char.ofNat (join6 (join6 (join6 (b.toNat % 8) c) d) e) :: done) rest
        else .error (.invalid 3 i)
    else .error (.invalid 1 i)

def decodeUtf8 (bytes : Bytes) : Except Utf8Fault (List Char) := decodeFrom 0 [] bytes

def encodeUtf8 (text : String) : Bytes := text.toUTF8.toList

example : decodeUtf8 [0x61, 0xC3, 0xA9, 0xF0, 0x9F, 0x98, 0x80] = .ok ['a', 'é', '😀'] := rfl
example : decodeUtf8 [0x61, 0xE2, 0x98] = .error (.incomplete 1) := rfl

end ServiceAtlas.Text
