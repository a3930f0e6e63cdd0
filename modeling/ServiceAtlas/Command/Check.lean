import ServiceAtlas.Command.Basic
import ServiceAtlas.Files.Access
import ServiceAtlas.Template.Basic

/-! Checking of a template: it is compiled, and its leaves are counted. -/
namespace ServiceAtlas.Command

variable {m : Type → Type} [Monad m]

inductive TemplateError where
  | unreadable (error : Files.FileError)
  | invalid (path : Files.Path) (error : ExtractError)
deriving DecidableEq, Repr

def TemplateError.message : TemplateError → String
  | .unreadable error => error.fullMessage
  | .invalid path error => "Template " ++ path.text ++ " is invalid: " ++ error.fullMessage

def loadTemplate (fs : Files.FileSystem m) (path : Files.Path) :
    m (Except TemplateError Template) := do
  match ← fs.read path with
  | .error error => return .error (.unreadable error)
  | .ok bytes => return (Template.ofBytes bytes).mapError (.invalid path)

/-- The greatest of some weights, zero if there are none. -/
def greatestWeight : List Int → Int
  | [] => 0
  | w :: ws => ws.foldl max w

def checkLine (path : Files.Path) (t : Template) : String :=
  path.text ++ ": " ++ toString t.leafCount ++ " leaves compiled (max weight "
    ++ toString (greatestWeight (t.leaves.map Setter.weight)) ++ ")\n"

def runCheck (fs : Files.FileSystem m) (template : Files.Path) : m Outcome := do
  match ← loadTemplate fs template with
  | .error error => return .refused error.message .failure
  | .ok t => return { output := some (checkLine template t), errors := [], code := .success }

end ServiceAtlas.Command
