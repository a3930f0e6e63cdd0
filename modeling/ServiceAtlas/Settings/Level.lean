import ServiceAtlas.Text.LowerCase

/-! Levels of the log, named in letters of either case. -/
namespace ServiceAtlas.Settings

inductive Level where
  | trace
  | debug
  | info
  | warn
  | error
deriving DecidableEq, Repr

namespace Level

/-- All levels, the most talkative first. -/
def all : List Level := [trace, debug, info, warn, error]

def name : Level → String
  | trace => "TRACE"
  | debug => "DEBUG"
  | info => "INFO"
  | warn => "WARN"
  | error => "ERROR"

def word (l : Level) : String := Text.lowerCase l.name

def ofText? (text : String) : Option Level :=
  let text := Text.lowerCase text
  all.find? fun level => level.word = text

/-- A level is named by its word in letters of either case. -/
theorem ofText?_eq_some_iff {text : String} {l : Level} :
    ofText? text = some l ↔ Text.lowerCase text = l.word := by
  have hfind : ofText? text = all.find? fun level => level.word = Text.lowerCase text := rfl
  rw [hfind]
  constructor
  · intro h
    have hword := List.find?_some h
    exact (of_decide_eq_true hword).symm
  · intro h
    rw [h]
    cases l <;> decide +kernel

example : ofText? "Warn" = some warn ∧ ofText? "warning" = none := by decide +kernel

def ofText (text : String) : Level := (ofText? text).getD info

/-- The words for the levels, as messages list them. -/
def words : String := ", ".intercalate (all.map word)

/-- What is to be said of a text that names no level. -/
def remarks (text : String) : List String :=
  match ofText? text with
  | some _ => []
  | none => ["Invalid log level '" ++ text ++ "', defaulting to INFO. Valid levels: " ++ words]

end Level
end ServiceAtlas.Settings
