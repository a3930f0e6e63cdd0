import ServiceAtlas.Files.Path
import ServiceAtlas.Settings.Environment
import ServiceAtlas.Settings.Level
import ServiceAtlas.Text.Integer

/-! The settings of a run, read from the environment, and the bounds that they must keep to. -/
namespace ServiceAtlas

structure Settings where
  logLevel : String
  /-- How many bytes a document may have. -/
  sizeLimit : Nat
  sourcesFile : Option Files.Path
deriving DecidableEq, Repr

namespace Settings

def standardSizeLimit : Nat := 1048576

def leastSizeLimit : Nat := 64

def greatestSizeLimit : Nat := 67108864

def standard : Settings :=
  { logLevel := "info", sizeLimit := standardSizeLimit, sourcesFile := none }

/-- What is not set, or is no number, is as it is by default. -/
def ofEnvironment (e : Environment) : Settings where
  logLevel := Text.lowerCase ((e.get? Environment.logLevelVariable).getD standard.logLevel)
  sizeLimit :=
    ((e.get? Environment.sizeLimitVariable).bind fun text =>
      (Text.readNat64 text.toList).toOption).getD standard.sizeLimit
  sourcesFile :=
    ((e.get? Environment.sourcesVariable).filter fun text => !text.isEmpty).map Files.Path.mk

inductive Fault where
  | sizeLimitTooSmall
  | sizeLimitTooLarge
  | unknownLevel (text : String)
deriving DecidableEq, Repr

/-- The message of a failed check of the settings or of the sources. -/
def refusal (reason : String) : String := "Configuration validation failed: " ++ reason

def Fault.message : Fault → String
  | .sizeLimitTooSmall =>
    refusal ("Max document size must be at least " ++ toString leastSizeLimit ++ " bytes")
  | .sizeLimitTooLarge => refusal "Max document size cannot exceed 64MiB"
  | .unknownLevel text =>
    refusal ("Invalid log level: " ++ text ++ ". Valid options: " ++ Level.words)

def validate (s : Settings) : Except Fault Unit :=
  if s.sizeLimit < leastSizeLimit then .error .sizeLimitTooSmall
  else if greatestSizeLimit < s.sizeLimit then .error .sizeLimitTooLarge
  else if (Level.ofText? s.logLevel).isNone then .error (.unknownLevel s.logLevel)
  else .ok ()

/-- The settings as shown to a reader. -/
def summary (s : Settings) : String :=
  "Stackmap Configuration:\n" ++ "  Log Level: " ++ s.logLevel ++ "\n"
    ++ "  Max Document Size: " ++ toString s.sizeLimit ++ " bytes\n"
    ++ "  Sources: " ++ (s.sourcesFile.map Files.Path.text).getD "(none)" ++ "\n"

end Settings
end ServiceAtlas
