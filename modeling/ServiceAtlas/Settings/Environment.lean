/-! The variables of the environment that the program is run in. -/
namespace ServiceAtlas.Settings

structure Environment where
  bindings : List (String × String)
deriving Repr

namespace Environment

def get? (e : Environment) (name : String) : Option String := e.bindings.lookup name

def logLevelVariable : String := "STACKMAP_LOG_LEVEL"

def logJsonVariable : String := "STACKMAP_LOG_JSON"

def sizeLimitVariable : String := "STACKMAP_MAX_DOCUMENT_SIZE"

def sourcesVariable : String := "STACKMAP_SOURCES"

/-- The variables that are looked at. -/
def names : List String := [logLevelVariable, logJsonVariable, sizeLimitVariable, sourcesVariable]

end Environment
end ServiceAtlas.Settings
