import ServiceAtlas.Arguments.Invocation
import ServiceAtlas.Command.Run
import ServiceAtlas.Settings.LogOptions

/-! The whole program on a file system: settings and remarks on them, then one command. -/
namespace ServiceAtlas.Program

open Settings (Environment Level LogOptions)

/-- What is to be said of the levels that the log is asked to keep to. -/
def levelRemarks (invocation : Arguments.Invocation) (settings : Settings) : List String :=
  match invocation.logLevel with
  | some text => Level.remarks text
  | none =>
    if invocation.verbose || invocation.quiet then [] else Level.remarks settings.logLevel

def run {m : Type → Type} [Monad m] (fs : Files.FileSystem m) (environment : Environment)
    (invocation : Arguments.Invocation) : m Outcome := do
  let settings := Settings.ofEnvironment environment
  let remarks := levelRemarks invocation settings ++ LogOptions.remarks environment
  let outcome ←
    match settings.validate with
    | .error fault => pure (.refused fault.message .unusable)
    | .ok () => invocation.command.run fs settings
  return { outcome with errors := remarks ++ outcome.errors }

end ServiceAtlas.Program
