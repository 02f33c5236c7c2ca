import CommandManual.Command.Manifest
import CommandManual.Workspace

/-!
The commands of a project: those of its own manifest and of the manifests of its
plugins. The first declaration of a command wins.
-/

namespace CommandManual.Action

/-- Reads manifests in order and keeps the first declaration of each command. -/
def gatherCommands (source : Path) (name : String) : (seen : List String) → List Path →
    Action (List Descriptor)
  | _, [] => return []
  | seen, directory :: rest => do
    let tree := (← get).tree
    let found ← ofTraced
      (if directory = source then Manifest.read tree directory name
        else Manifest.readPlugin tree directory name)
    let (kept, seen) ← ofTraced (Manifest.keepNew directory seen found)
    let others ← gatherCommands source name seen rest
    return kept ++ others

def readCommands (source : Path) (name : String) (plugins : Bool) :
    Action (List Descriptor) := do
  let directories ← ofExcept (Manifest.directories (← get).tree source name plugins)
  gatherCommands source name [] directories

end CommandManual.Action
