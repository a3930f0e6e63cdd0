import ServiceAtlas.Settings.Environment
import ServiceAtlas.Settings.Level
import ServiceAtlas.Text.Integer

/-! How the log is written. -/
namespace ServiceAtlas.Settings

structure LogOptions where
  level : Level
  asJson : Bool
  showsTarget : Bool
  showsLocation : Bool
  showsThreads : Bool
deriving DecidableEq, Repr

namespace LogOptions

def withLevel (level : Level) : LogOptions :=
  { level, asJson := false, showsTarget := true, showsLocation := false, showsThreads := false }

def standard : LogOptions := withLevel .info

def development : LogOptions := withLevel .debug

/-- All there is to say, for collectors of logs. -/
def production : LogOptions :=
  { level := .info, asJson := true, showsTarget := true, showsLocation := true,
    showsThreads := true }

def ofEnvironment (e : Environment) : LogOptions :=
  { withLevel (((e.get? Environment.logLevelVariable).map Level.ofText).getD .info) with
    asJson := ((e.get? Environment.logJsonVariable).bind Text.readBool).getD false }

/-- What is to be said of the environment while the options are read from it. -/
def remarks (e : Environment) : List String :=
  ((e.get? Environment.logLevelVariable).map Level.remarks).getD []

end LogOptions
end ServiceAtlas.Settings
