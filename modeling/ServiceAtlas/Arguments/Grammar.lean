import ServiceAtlas.Command.Basic

/-!
# The words of the command line

What may be given on the command line: the verbs, the switches of each and the values that they
take.
-/
namespace ServiceAtlas.Arguments

/-- Why arguments make no invocation. -/
inductive UsageFault where
  | help
  | version
  /-- No arguments at all, which calls for help as well. -/
  | nothingGiven
  | missingVerb
  | unknownVerb
  | missingArgument
  | unknownArgument
  | invalidValue
  | unexpectedValue
  | conflict
deriving DecidableEq, Repr

def UsageFault.message : UsageFault → String
  | help => "help is asked for"
  | version => "the version is asked for"
  | nothingGiven => "nothing is asked for"
  | missingVerb => "a subcommand is required"
  | unknownVerb => "unrecognized subcommand"
  | missingArgument => "a required argument is missing"
  | unknownArgument => "unexpected argument"
  | invalidValue => "an option has no value, or one that it does not allow"
  | unexpectedValue => "an option has a value that it does not take"
  | conflict => "options that cannot be used together, or one used twice"

def UsageFault.code : UsageFault → ExitCode
  | help | version => .success
  | _ => .unusable

/-- What an argument may set. -/
inductive Parameter where
  | logLevel
  | verbose
  | quiet
  | help
  | version
  | template
  | format
  | sources
  | documents
  | root
deriving DecidableEq, Repr

namespace Parameter

def takesValue : Parameter → Bool
  | verbose | quiet | help | version => false
  | _ => true

/-- Whether the parameter holds any number of values. -/
def repeats : Parameter → Bool
  | documents => true
  | _ => false

/-- Whether a value will do: a path has at least one character, a format is one of those known. -/
def accepts (p : Parameter) (value : String) : Bool :=
  match p with
  | template | sources | documents | root => !value.isEmpty
  | format => (Format.ofWord? value).isSome
  | _ => true

end Parameter

inductive Verb where
  | check
  | extract
  | scan
deriving DecidableEq, Repr

namespace Verb

def word : Verb → String
  | check => "check"
  | extract => "extract"
  | scan => "scan"

def all : List Verb := [check, extract, scan]

def ofWord? (text : String) : Option Verb := all.find? fun verb => verb.word = text

/-- The word that asks for help in the place of a verb. -/
def helpWord : String := "help"

def isVerb (text : String) : Bool := text = helpWord || (ofWord? text).isSome

end Verb

/-- A parameter with the names of its switch. -/
structure Switch where
  parameter : Parameter
  long : String
  short : Option Char
deriving DecidableEq, Repr

/-- What may stand at one place of the command line: before the verb, or behind it. -/
structure Grammar where
  switches : List Switch
  /-- The parameter of arguments that belong to no switch. -/
  positional : Option Parameter
  required : List Parameter
deriving Repr

namespace Grammar

/-- The switches that may stand anywhere. -/
def everywhere : List Switch :=
  [⟨.logLevel, "log-level", none⟩, ⟨.verbose, "verbose", some 'v'⟩, ⟨.quiet, "quiet", some 'q'⟩,
    ⟨.help, "help", some 'h'⟩]

def templateSwitch : Switch := ⟨.template, "template", some 't'⟩

def formatSwitch : Switch := ⟨.format, "format", some 'f'⟩

def program : Grammar where
  switches := everywhere ++ [⟨.version, "version", some 'V'⟩]
  positional := none
  required := []

def ofVerb : Verb → Grammar
  | .check => ⟨everywhere ++ [templateSwitch], none, [.template]⟩
  | .extract =>
    ⟨everywhere ++ [templateSwitch, formatSwitch], some .documents, [.template, .documents]⟩
  | .scan => ⟨everywhere ++ [⟨.sources, "sources", some 's'⟩, formatSwitch], some .root, []⟩

def long? (g : Grammar) (name : List Char) : Option Parameter :=
  (g.switches.find? fun switch => switch.long.toList = name).map Switch.parameter

def short? (g : Grammar) (name : Char) : Option Parameter :=
  (g.switches.find? fun switch => switch.short = some name).map Switch.parameter

end Grammar
end ServiceAtlas.Arguments
