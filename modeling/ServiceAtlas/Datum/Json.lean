import ServiceAtlas.Datum.Basic
import ServiceAtlas.Text.Quoted

/-! Data as JSON text, one entry a line and two blanks for each level. -/
namespace ServiceAtlas.Json

def escape (c : Char) : String :=
  match c with
  | '"' => "\\\""
  | '\\' => "\\\\"
  | '\n' => "\\n"
  | '\r' => "\\r"
  | '\t' => "\\t"
  | '\x08' => "\\b"
  | '\x0c' => "\\f"
  | c =>
    if c.toNat < 0x20 then
      let digits := Nat.toDigits 16 c.toNat
      "\\u" ++ String.ofList (List.replicate (4 - digits.length) '0' ++ digits)
    else c.toString

def quote (text : String) : String := "\"" ++ String.join (text.toList.map escape) ++ "\""

/-- A line break and the indentation of a level. -/
def newline (level : Nat) : String := "\n" ++ String.ofList (List.replicate (2 * level) ' ')

/-- Lines between brackets, or the bare brackets where there are none. -/
def bracketed (level : Nat) (opening closing : String) (lines : List String) : String :=
  if lines.isEmpty then opening ++ closing
  else
    opening ++ newline (level + 1) ++ ("," ++ newline (level + 1)).intercalate lines
      ++ newline level ++ closing

mutual

def render (level : Nat) : Datum → String
  | .text value => quote value
  | .integer value => toString value
  | .boolean value => Text.boolText value
  | .sequence items => bracketed level "[" "]" (renderItems (level + 1) items)
  | .mapping entries => bracketed level "\x7b" "\x7d" (renderEntries (level + 1) entries)

def renderItems (level : Nat) : List Datum → List String
  | [] => []
  | item :: items => render level item :: renderItems level items

def renderEntries (level : Nat) : List (String × Datum) → List String
  | [] => []
  | (key, value) :: entries =>
    (quote key ++ ": " ++ render level value) :: renderEntries level entries

end

/-- A document: the text of a datum and a line break. -/
def document (d : Datum) : String := render 0 d ++ "\n"

end ServiceAtlas.Json
