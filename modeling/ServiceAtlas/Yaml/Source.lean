import ServiceAtlas.Yaml.Error

/-! The characters of a YAML text: allowed ones only, with one spelling for common line breaks. -/
namespace ServiceAtlas.Yaml

/-- Characters that may occur in a text. -/
def isAllowed (c : Char) : Bool :=
  c = '\t' || c = '\n' || c = '\r' || (0x20 ≤ c.toNat && c.toNat ≤ 0x7E) || c.toNat = 0x85
    || (0xA0 ≤ c.toNat && c.toNat != 0xFFFE && c.toNat != 0xFFFF)

namespace Source

def checkAllowed (text : List Char) : Except Error Unit :=
  match text.find? fun c => !isAllowed c with
  | some c => .error (.controlCharacter c)
  | none => .ok ()

/-- Writes each line break as a line feed, except the separators of lines and paragraphs; `done`
holds the characters before, last first. -/
def unifyBreaks : (done : List Char) → List Char → List Char
  | done, [] => done.reverse
  | done, '\r' :: '\n' :: text => unifyBreaks ('\n' :: done) text
  | done, c :: text =>
    unifyBreaks ((if c = '\r' || c.toNat = 0x85 then '\n' else c) :: done) text

def ofChars (text : List Char) : Except Error (List Char) := do
  checkAllowed text
  return unifyBreaks [] text

def ofText (text : String) : Except Error (List Char) := ofChars text.toList

def ofBytes (bytes : Text.Bytes) : Except Error (List Char) :=
  match Text.decodeUtf8 bytes with
  | .ok text => ofChars text
  | .error fault => .error (.encoding fault)

example : unifyBreaks [] "a\r\nb\rc".toList = "a\nb\nc".toList := by decide

end Source
end ServiceAtlas.Yaml
