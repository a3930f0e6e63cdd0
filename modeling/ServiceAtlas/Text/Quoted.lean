import ServiceAtlas.Text.Concealed

/-! Texts shown between double quotes, with every character that could be overlooked spelled out. -/
namespace ServiceAtlas.Text

def hexDigits (n : Nat) : String := String.ofList (Nat.toDigits 16 n)

def showChar : Char → String
  | '\x00' => "\\0"
  | '\t' => "\\t"
  | '\n' => "\\n"
  | '\r' => "\\r"
  | '"' => "\\\""
  | '\\' => "\\\\"
  | c => if isConcealed c then "\\u\x7b" ++ hexDigits c.toNat ++ "\x7d" else c.toString

/-- The text between double quotes. -/
def quoted (text : String) : String :=
  "\"" ++ String.join (text.toList.map showChar) ++ "\""

/-- A list of quoted texts between square brackets. -/
def quotedList (texts : List String) : String :=
  "[" ++ ", ".intercalate (texts.map quoted) ++ "]"

example : quotedList ["a\"b", "it's\n"] = "[\"a\\\"b\", \"it's\\n\"]" := by decide +kernel
example : quoted "\x7f" = "\"\\u\x7b7f\x7d\"" := by decide +kernel

end ServiceAtlas.Text
