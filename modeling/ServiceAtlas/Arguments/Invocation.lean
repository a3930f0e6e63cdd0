import ServiceAtlas.Arguments.Grammar
import ServiceAtlas.Text.Cut

/-!
# Arguments

The words of the command line are read from the left. A value may follow its switch as the next word
or in the same one, and is looked at once the word behind it shows that it is complete. Behind `--`
no word is a switch.
-/
namespace ServiceAtlas.Arguments

/-- What is set so far, in the order given, and the parameter whose values are still being read. -/
structure Given where
  values : List (Parameter × String)
  pending : Option (Parameter × List String)
deriving DecidableEq, Repr

namespace Given

def nothing : Given := ⟨[], none⟩

def has (g : Given) (parameter : Parameter) : Bool := (g.values.lookup parameter).isSome

def get? (g : Given) (parameter : Parameter) : Option String := g.values.lookup parameter

def getAll (g : Given) (parameter : Parameter) : List String :=
  (g.values.filter fun (other, _) => other = parameter).map Prod.snd

/-- Whether the next word is called for by a switch. -/
def isExpecting (g : Given) : Bool :=
  match g.pending with
  | some (_, []) => true
  | _ => false

/-- Sets a parameter; a switch without a value is noted with an empty one. -/
def store (g : Given) (parameter : Parameter) (values : List String) : Except UsageFault Given :=
  if parameter = .help then .error .help
  else if parameter = .version then .error .version
  else if parameter.takesValue && values.isEmpty then .error .invalidValue
  else if !parameter.repeats && g.has parameter then .error .conflict
  else if values.all parameter.accepts then
    let values := if parameter.takesValue then values else [""]
    .ok { g with values := g.values ++ values.map (parameter, ·) }
  else .error .invalidValue

/-- Sets the parameter whose values were being read. -/
def settle (g : Given) : Except UsageFault Given :=
  match g.pending with
  | none => .ok g
  | some (parameter, values) => { g with pending := none }.store parameter values

def give (g : Given) (parameter : Parameter) (values : List String) : Except UsageFault Given := do
  (← g.settle).store parameter values

/-- Leaves a parameter to the words that follow. -/
def await (g : Given) (parameter : Parameter) (values : List String) : Except UsageFault Given := do
  return { ← g.settle with pending := some (parameter, values) }

/-- A switch by its long name, with a value behind `=` or none. -/
def readLong (grammar : Grammar) (g : Given) (body : List Char) : Except UsageFault Given :=
  let (name, value) :=
    match Text.cut? ['='] body with
    | some (name, value) => (name, some (String.ofList value))
    | none => (body, none)
  match grammar.long? name, value with
  | none, _ => .error .unknownArgument
  | some parameter, some value =>
    if parameter.takesValue then g.give parameter [value] else .error .unexpectedValue
  | some parameter, none =>
    if parameter.takesValue then g.await parameter [] else g.give parameter []

/-- Switches by their short names in one word, the last with a value if it takes one. -/
def readShort (grammar : Grammar) : Given → List Char → Except UsageFault Given
  | g, [] => .ok g
  | g, name :: rest =>
    match grammar.short? name with
    | none => .error .unknownArgument
    | some parameter =>
      if parameter.takesValue then
        match rest with
        | [] => g.await parameter []
        | '=' :: value => g.give parameter [String.ofList value]
        | value => g.give parameter [String.ofList value]
      else do readShort grammar (← g.give parameter []) rest

/-- A word that belongs to no switch. -/
def readPositional (grammar : Grammar) (g : Given) (word : String) : Except UsageFault Given :=
  match grammar.positional with
  | none => .error .unknownArgument
  | some parameter =>
    match g.pending with
    | some (current, values) =>
      if current = parameter then
        if parameter.repeats then .ok { g with pending := some (parameter, values ++ [word]) }
        else .error .unknownArgument
      else if !parameter.repeats && g.has parameter then .error .unknownArgument
      else g.await parameter [word]
    | none =>
      if !parameter.repeats && g.has parameter then .error .unknownArgument
      else g.await parameter [word]

/-- A word in front of any `--`; `stray` reads one that belongs to no switch. -/
def readWord (grammar : Grammar) (stray : Given → String → Except UsageFault Given) (g : Given)
    (word : String) : Except UsageFault Given :=
  match word.toList with
  | '-' :: '-' :: body => readLong grammar g body
  | '-' :: name :: rest => readShort grammar g (name :: rest)
  | _ =>
    match g.pending with
    | some (parameter, []) => .ok { g with pending := some (parameter, [word]) }
    | _ => stray g word

/-- The word behind which no word is a switch. -/
def endMark : String := "--"

/-- The words behind a verb. -/
def readWords (grammar : Grammar) :
    (ended : Bool) → Given → List String → Except UsageFault Given
  | _, g, [] => g.settle
  | true, g, word :: words => do readWords grammar true (← readPositional grammar g word) words
  | false, g, word :: words =>
    if word = endMark then readWords grammar true g words
    else do
      readWords grammar false (← readWord grammar (readPositional grammar) g word) words

/-- What a request for help with some words comes to. -/
def helpWith : List String → UsageFault
  | [] => .help
  | [word] => if Verb.isVerb word then .help else .unknownVerb
  | _ => .unknownVerb

/-- The words up to the verb, and the verb with the words behind it. -/
def readProgram : (ended : Bool) → Given → List String →
    Except UsageFault (Given × Option (Verb × List String))
  | _, g, [] => .ok (g, none)
  | true, _, word :: _ => .error (if Verb.isVerb word then .unknownArgument else .unknownVerb)
  | false, g, word :: words =>
    if !g.isExpecting && word = Verb.helpWord then .error (helpWith words)
    else
      match if g.isExpecting then none else Verb.ofWord? word with
      | some verb => .ok (g, some (verb, words))
      | none =>
        if word = endMark then readProgram true g words
        else do
          readProgram false (← readWord .program (fun _ _ => .error .unknownVerb) g word) words

/-- Refuses parameters that exclude each other. -/
def checkConflicts (g : Given) : Except UsageFault Unit :=
  if g.has .verbose && g.has .quiet then .error .conflict else .ok ()

def checkRequired (g : Given) (grammar : Grammar) : Except UsageFault Unit :=
  if grammar.required.all g.has then .ok () else .error .missingArgument

def path? (g : Given) (parameter : Parameter) : Option Files.Path :=
  (g.get? parameter).map Files.Path.mk

def format (g : Given) : Format := ((g.get? .format).bind Format.ofWord?).getD .yaml

def command? (g : Given) : Verb → Option Command
  | .check => (g.path? .template).map .check
  | .extract =>
    (g.path? .template).map fun template =>
      .extract template g.format ((g.getAll .documents).map Files.Path.mk)
  | .scan => some (.scan (g.path? .sources) g.format (g.path? .root))

end Given

/-- A command and what holds for every command. -/
structure Invocation where
  command : Command
  logLevel : Option String
  verbose : Bool
  quiet : Bool
deriving DecidableEq, Repr

namespace Invocation

/-- The invocation of a verb; what stands behind it is looked at first. -/
def ofVerb (before : Given) (verb : Verb) (words : List String) : Except UsageFault Invocation := do
  let grammar := Grammar.ofVerb verb
  let behind ← Given.readWords grammar false .nothing words
  behind.checkConflicts
  behind.checkRequired grammar
  let before ← before.settle
  before.checkConflicts
  match behind.command? verb with
  | none => throw .missingArgument
  | some command =>
    return {
      command
      logLevel := (behind.get? .logLevel).or (before.get? .logLevel)
      verbose := behind.has .verbose || before.has .verbose
      quiet := behind.has .quiet || before.has .quiet }

def ofArguments (words : List String) : Except UsageFault Invocation := do
  match ← Given.readProgram false .nothing words with
  | (before, some (verb, words)) => ofVerb before verb words
  | (before, none) =>
    throw (if (← before.settle).values.isEmpty then .nothingGiven else .missingVerb)

end Invocation
end ServiceAtlas.Arguments
