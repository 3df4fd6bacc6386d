import Phrasebook.Settings.Basic
import Phrasebook.Text.Utf8
import Phrasebook.Workspace

/-!
# Projects in a workspace

Where the project and the workspace around a file start, which files are scanned, and how files are named in records.
-/

namespace Phrasebook.Project

/-- Files that mark the root of a project. -/
def configFiles : List String := ["next.config.js", "next.config.ts", "next.config.mjs"]

/-- The nearest directory above a path that holds a project's configuration. -/
def findRoot? (w : Workspace) (path : Path) : Option Path :=
  path.ancestors.find? fun d => configFiles.any fun name => w.holds (d.child name)

/-- The nearest directory above a path that holds a project's configuration, else the working directory. -/
def findRoot (w : Workspace) (path : Path) : Path := (findRoot? w path).getD w.directory

/-- A file that marks the root of a workspace. -/
def workspaceFile : String := "pnpm-workspace.yaml"

/-- A file that marks the root of a workspace if it names the workspaces. -/
def packageFile : String := "package.json"

/-- Whether the bytes of a package file name workspaces; one that is nested too deep does not tell. -/
def namesWorkspaces? (room : Json.Room) (bytes : Bytes) : Option Bool :=
  match Text.Utf8.decode bytes with
  | .error _ => some false
  | .ok cs =>
    match Json.readWithin room (String.ofList cs) with
    | .ok package => some (((package.get? "workspaces").map Json.isTruthy).getD false)
    | .error (.excess .nesting) => none
    | .error _ => some false

/-- Whether the package file of a directory names workspaces, if there is one that tells. -/
def packageTells? (w : Workspace) (d : Path) : Option Bool :=
  match w.read (d.child packageFile) with
  | .ok bytes => namesWorkspaces? w.room bytes
  | .error _ => some false

/-- Whether a directory is the root of a workspace. -/
def isWorkspaceRoot (w : Workspace) (d : Path) : Bool :=
  w.holds (d.child workspaceFile) || packageTells? w d == some true

/-- The nearest root of a workspace at or above a directory, else the directory itself. -/
def findWorkspaceRoot (w : Workspace) (start : Path) : Path :=
  ((start :: start.ancestors).find? (isWorkspaceRoot w)).getD start

/-- Whether the search for a root of a workspace breaks off at a package file that does not tell. -/
def breaksOff (w : Workspace) (start : Path) : Bool :=
  let doesNotTell (d : Path) : Bool := !w.holds (d.child workspaceFile) && packageTells? w d == none
  ((start :: start.ancestors).find? fun d => isWorkspaceRoot w d || doesNotTell d).any doesNotTell

/-- Why a file is not scanned. -/
inductive Ineligible where
  /-- Its suffix is none of a source with markup. -/
  | notMarkup
  /-- It is in a directory that is never scanned. -/
  | generated
  deriving DecidableEq, Repr

def Ineligible.message : Ineligible → String
  | notMarkup => "not a markup source"
  | generated => "dependency or generated file"

/-- Why a path is not scanned, if it is not. -/
def ineligible? (settings : Settings) (path : Path) : Option Ineligible :=
  if !settings.extensions.contains path.lowerSuffix then some .notMarkup
  else if path.parts.any settings.skipDirs.contains then some .generated
  else none

/-- The name of a file in records: its path below a root, with slashes. -/
def nameBelow (path root : Path) : Option String := (path.relativeTo root).map Path.toString

/-- The paths of everything at and below a path: of a directory all that it holds, else the path itself. -/
def candidates (w : Workspace) (path : Path) : List Path :=
  match w.disk.locate (w.absolute path), w.isDirectory path with
  | .ok place, true =>
    (w.disk.below place).map fun entry => ⟨path.root, path.names ++ entry.1.drop place.length⟩
  | _, _ => [path]

/-- The files that are scanned among some paths and below them, each once and in order. -/
def sources (w : Workspace) (settings : Settings) (paths : List Path) : List Path :=
  let found := (paths.flatMap (candidates w)).filter fun p =>
    w.isFile p && (ineligible? settings p).isNone
  (found.map w.absolute).eraseDups.mergeSort Path.precedes

end Phrasebook.Project
