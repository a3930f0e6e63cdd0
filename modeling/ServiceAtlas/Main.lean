import ServiceAtlas.Program

/-! The command line: the program on the file system of the machine. -/
namespace ServiceAtlas.Main

open Files (FileInfo FileKind FileSystem Path SystemFault)

/-- The number of a system error, which some calls give below zero. -/
def errorNumber (code : UInt32) : Nat := min code.toNat (0 - code).toNat

def faultOf (error : IO.Error) : SystemFault :=
  match error with
  | .noFileOrDirectory .. | .noSuchThing .. => .missing
  | .permissionDenied .. => .forbidden
  | .inappropriateType _ code _ => if errorNumber code = 21 then .isDirectory else .notDirectory
  | .invalidArgument _ code _ =>
    if errorNumber code = 36 then .nameTooLong else .other (toString error)
  | _ => .other (toString error)

/-- Asks the machine about a path; one with a NUL in it never reaches the machine. -/
def ask {α : Type} (p : Path) (question : IO α) : IO (Except SystemFault α) := do
  if '\x00' ∈ p.text.toList then return .error .nulCharacter
  match ← question.toBaseIO with
  | .ok answer => return .ok answer
  | .error error => return .error (faultOf error)

def info (p : Path) : IO (Except SystemFault FileInfo) := do
  let here ← IO.currentDir
  ask p do
    if p.isEmpty then throw (.noFileOrDirectory p.text 2 "")
    let found ← (here / p.text).metadata
    let kind := match found.type with
      | .file => FileKind.file
      | .dir => .directory
      | _ => .other
    return { size := found.byteSize.toNat, kind }

def fileSystem : FileSystem IO where
  isThere p := return (← info p).toBool
  isFile p := return ((← info p).toOption.map FileInfo.isFile).getD false
  info p := return (← info p).mapError (.infoRefused p)
  read p := do
    let bytes ← ask p (IO.FS.readBinFile p.text)
    return (bytes.map ByteArray.toList).mapError (.readRefused p)

def environment : IO Settings.Environment := do
  let bindings ← Settings.Environment.names.filterMapM fun name => do
    return (← IO.getEnv name).map (name, ·)
  return ⟨bindings⟩

/-- Writes the output, and says whether that worked. -/
def write (command : Command) (text : String) : IO Bool := do
  let out ← IO.getStdout
  match ← (do out.putStr text; out.flush : IO Unit).toBaseIO with
  | .ok () => return true
  | .error error =>
    match command with
    | .check _ => return false
    | _ =>
      IO.eprintln s!"Error: Failed to write output: {toString error}"
      return false

def usage : String :=
  "Template-driven extraction of service infrastructure from config files\n\n"
    ++ "Usage: stackmap [OPTIONS] check --template FILE\n"
    ++ "       stackmap [OPTIONS] extract --template FILE [--format yaml|json] DOCUMENT...\n"
    ++ "       stackmap [OPTIONS] scan [--sources FILE] [--format yaml|json] [ROOT]\n\n"
    ++ "Options:\n"
    ++ "  --log-level LEVEL   trace, debug, info, warn or error\n"
    ++ "  -v, --verbose       log more\n"
    ++ "  -q, --quiet         log errors only\n"
    ++ "  -h, --help          print this help\n"
    ++ "  -V, --version       print the version"

def complain (fault : Arguments.UsageFault) : IO Unit :=
  match fault with
  | .help => IO.println usage
  | .version => IO.println "stackmap 0.1.0"
  | .nothingGiven => IO.eprintln usage
  | fault => IO.eprintln ("error: " ++ fault.message ++ "\n\n" ++ usage)

def run (invocation : Arguments.Invocation) : IO ExitCode := do
  let outcome ← Program.run fileSystem (← environment) invocation
  for line in outcome.errors do
    IO.eprintln line
  match outcome.output with
  | none => return outcome.code
  | some text => return outcome.codeWhen (← write invocation.command text)

end ServiceAtlas.Main

def main (arguments : List String) : IO UInt32 := do
  match ServiceAtlas.Arguments.Invocation.ofArguments arguments with
  | .error fault =>
    ServiceAtlas.Main.complain fault
    return fault.code.number.toUInt32
  | .ok invocation => return (← ServiceAtlas.Main.run invocation).number.toUInt32
