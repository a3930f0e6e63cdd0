import ServiceAtlas.Command.Extract
import ServiceAtlas.Command.Scan

/-! Running of a command on a file system. -/
namespace ServiceAtlas.Command

def run {m : Type → Type} [Monad m] (fs : Files.FileSystem m) (settings : Settings) :
    Command → m Outcome
  | .check template => runCheck fs template
  | .extract template format documents => runExtract fs settings.sizeLimit template format documents
  | .scan sources format root => runScan fs settings sources format root

end ServiceAtlas.Command
