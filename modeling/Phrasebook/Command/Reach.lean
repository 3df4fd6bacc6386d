import Phrasebook.Command.Basic
import Phrasebook.Project

/-!
# What a command can reach

The files that decide what a command does: those that it is given, and in every directory above them the files that mark
projects and workspaces, the sink and the catalog.
-/

namespace Phrasebook.Command

def pathsOf : Action → List String
  | .scan paths _ => paths
  | _ => []

/-- The paths in a directory that matter to every command. -/
def pathsIn (settings : Settings) (directory : Path) : List Path :=
  (Project.configFiles ++ [Project.workspaceFile, Project.packageFile]).map directory.child ++
    [settings.sinkPath directory, settings.catalogFile directory, settings.lookupModuleFile directory]

/-- The paths that a command can reach from a working directory, if files are listed for it. -/
def reach (settings : Settings) (directory : Path) (command : Command) (listed : List String) : List Path :=
  let given := (pathsOf command.action ++ command.projectRoot.toList ++ listed).map fun p =>
    (Path.ofString p).resolved directory
  let directories := (directory :: given).flatMap fun p => p :: p.ancestors
  given ++ directories.eraseDups.flatMap (pathsIn settings)

end Phrasebook.Command
