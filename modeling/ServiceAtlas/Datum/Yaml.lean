import ServiceAtlas.Datum.Basic
import ServiceAtlas.Yaml.Scalar

/-!
# Data as YAML text

Block style: an entry a line, two blanks for each level, and the items of a sequence directly below
their key. A string stands plain where it reads back as that string, in single quotes where it would
read as something else, in a literal block where it has line breaks, and in double quotes where it
holds characters that none of these can show.
-/
namespace ServiceAtlas.Yaml

def isLineBreak (c : Char) : Bool :=
  c = '\n' || c = '\r' || c.toNat = 0x85 || c.toNat = 0x2028 || c.toNat = 0x2029

/-- A blank, a line break or the character that marks an end. -/
def isGap (c : Char) : Bool := c = ' ' || c = '\t' || c = '\x00' || isLineBreak c

/-- Characters that may stand outside double quotes. -/
def isPrintable (c : Char) : Bool :=
  c = '\n' || (0x20 ≤ c.toNat && c.toNat ≤ 0x7E)
    || (0xA0 ≤ c.toNat && c.toNat != 0xFEFF && c.toNat != 0xFFFE && c.toNat != 0xFFFF)

/-- Whether a gap or the end follows. -/
def atGap : List Char → Bool
  | [] => true
  | c :: _ => isGap c

/-- Whether a character with `p` stands right before one with `q`. -/
def hasNeighbours (p q : Char → Bool) : List Char → Bool
  | c :: d :: text => (p c && q d) || hasNeighbours p q (d :: text)
  | _ => false

def startsIndicator : List Char → Bool
  | [] => false
  | c :: text =>
    ",[]\x7b\x7d#&*!|>'\"%@\x60".toList.contains c || ((c = '?' || c = '-') && atGap text)

/-- Whether a colon before a gap, or a number sign after one, occurs behind a gap or not. -/
def holdsIndicator : (afterGap : Bool) → List Char → Bool
  | _, [] => false
  | afterGap, c :: text =>
    (c = ':' && atGap text) || (c = '#' && afterGap) || holdsIndicator (isGap c) text

def isDocumentMark (text : List Char) : Bool :=
  ['-', '-', '-'].isPrefixOf text || ['.', '.', '.'].isPrefixOf text

def isSpace (c : Char) : Bool := c = ' '

/-- Whether the text can stand without quotes on one line. -/
def allowsPlain (text : List Char) : Bool :=
  text.all (fun c => isPrintable c && !isLineBreak c) && !startsIndicator text
    && !holdsIndicator true text && !isDocumentMark text && text.head? != some ' '
    && text.getLast? != some ' '

/-- Whether the text can stand in single quotes. -/
def allowsSingle (text : List Char) : Bool :=
  text.all isPrintable && !hasNeighbours isLineBreak isSpace text
    && !hasNeighbours isSpace isLineBreak text

/-- Whether the text can stand in a literal block. -/
def allowsBlock (text : List Char) : Bool :=
  text.all isPrintable && !hasNeighbours isSpace isLineBreak text && text.getLast? != some ' '

inductive Style where
  | plain
  | single
  | double
  | literal
deriving DecidableEq, Repr

/-- Whether an unquoted text would be read as something else than itself. -/
def isAmbiguous (text : String) : Bool :=
  Plain.ofText text != .string || Plain.isZeroLed text.toList

def styleOf (text : String) : Style :=
  let chars := text.toList
  if chars.contains '\n' then if allowsBlock chars then .literal else .double
  else if !isAmbiguous text && allowsPlain chars then .plain
  else if allowsSingle chars then .single
  else .double

def spaces (n : Nat) : List Char := List.replicate n ' '

/-- The text with every line indented that has something on it. -/
def indentLines (indent : Nat) : (fresh : Bool) → List Char → List Char
  | _, [] => []
  | fresh, c :: text =>
    if isLineBreak c then c :: indentLines indent true text
    else (if fresh then spaces indent else []) ++ c :: indentLines indent false text

/-- The mark behind the bar that says what becomes of the line breaks at the end. -/
def chomping (text : List Char) : List Char :=
  match text.reverse with
  | [] => ['-']
  | [c] => if isLineBreak c then ['+'] else ['-']
  | c :: d :: _ => if isLineBreak c then if isLineBreak d then ['+'] else [] else ['-']

def indentHint : List Char → List Char
  | [] => []
  | c :: _ => if c = ' ' || isLineBreak c then ['2'] else []

def literalBlock (indent : Nat) (text : List Char) : List Char :=
  '|' :: indentHint text ++ chomping text ++ '\n' :: indentLines indent true text

/-- The inside of single quotes; a line break of its own kind is followed by the indentation. -/
def singleInside (indent : Nat) : (broken : Bool) → List Char → List Char
  | broken, [] => if broken then spaces indent else []
  | broken, c :: text =>
    if isLineBreak c then c :: singleInside indent true text
    else
      (if broken then spaces indent else []) ++ (if c = '\'' then ['\'', '\''] else [c])
        ++ singleInside indent false text

def paddedHex (width n : Nat) : List Char :=
  let digits := (Nat.toDigits 16 n).map Char.toUpper
  List.replicate (width - digits.length) '0' ++ digits

/-- The escapes of one letter. -/
def shortEscapes : List (Nat × Char) :=
  [(0x00, '0'), (0x07, 'a'), (0x08, 'b'), (0x09, 't'), (0x0A, 'n'), (0x0B, 'v'), (0x0C, 'f'),
   (0x0D, 'r'), (0x1B, 'e'), (0x22, '"'), (0x5C, '\\'), (0x85, 'N'), (0xA0, '_'), (0x2028, 'L'),
   (0x2029, 'P')]

def doubleEscape (c : Char) : List Char :=
  if isPrintable c && !isLineBreak c && c != '"' && c != '\\' then [c]
  else
    match shortEscapes.find? fun (n, _) => n == c.toNat with
    | some (_, letter) => ['\\', letter]
    | none =>
      if c.toNat ≤ 0xFF then '\\' :: 'x' :: paddedHex 2 c.toNat
      else if c.toNat ≤ 0xFFFF then '\\' :: 'u' :: paddedHex 4 c.toNat
      else '\\' :: 'U' :: paddedHex 8 c.toNat

def inStyle (indent : Nat) (text : List Char) : Style → List Char
  | .plain => text
  | .single => '\'' :: singleInside indent false text ++ ['\'']
  | .double => '"' :: text.flatMap doubleEscape ++ ['"']
  | .literal => literalBlock indent text

/-- The lines of a scalar up to the end of the last one; those behind the first are indented. -/
def scalar (indent : Nat) (text : String) : String :=
  let written := inStyle indent text.toList (styleOf text)
  String.ofList (if written.getLast?.any isLineBreak then written else written ++ ['\n'])

/-- A key, on one line. -/
def key (text : String) : String :=
  let style := if text.toList.any isLineBreak then .double else styleOf text
  String.ofList (inStyle 0 text.toList style)

def padding (indent : Nat) : String := String.ofList (spaces indent)

/-- What stands between the colon of an entry and its value: items begin in the column of the key,
nested entries two columns further. -/
def lead (indent : Nat) : Datum → String
  | .sequence (_ :: _) => "\n" ++ padding indent
  | .mapping (_ :: _) => "\n" ++ padding (indent + 2)
  | _ => " "

def valueIndent (indent : Nat) : Datum → Nat
  | .sequence (_ :: _) => indent
  | _ => indent + 2

mutual

/-- The text of a datum from the column `indent` on. -/
def render (indent : Nat) : Datum → String
  | .text value => scalar indent value
  | .integer value => toString value ++ "\n"
  | .boolean value => Text.boolText value ++ "\n"
  | .sequence items =>
    if items.isEmpty then "[]\n" else (padding indent).intercalate (renderItems indent items)
  | .mapping entries =>
    if entries.isEmpty then "\x7b\x7d\n"
    else (padding indent).intercalate (renderEntries indent entries)

def renderItems (indent : Nat) : List Datum → List String
  | [] => []
  | item :: items => ("- " ++ render (indent + 2) item) :: renderItems indent items

def renderEntries (indent : Nat) : List (String × Datum) → List String
  | [] => []
  | (name, value) :: entries =>
    (key name ++ ":" ++ lead indent value ++ render (valueIndent indent value) value)
      :: renderEntries indent entries

end

/-- A document. -/
def document (d : Datum) : String := render 0 d

example : document (.mapping [("name", .text "yes: no"), ("ports", .sequence [.integer 1])]) =
    "name: 'yes: no'\nports:\n- 1\n" := by decide +kernel

end ServiceAtlas.Yaml
