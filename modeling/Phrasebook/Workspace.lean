import Phrasebook.Disk.Basic
import Phrasebook.Event.Basic

/-!
# Workspaces

A workspace is the disk, the directory that relative paths start from, the events so far, and the room that there is for
reading nested values.
-/

namespace Phrasebook

structure Workspace where
  disk : Disk
  directory : Path
  events : List Event
  room : Json.Room := .usual
  deriving Repr, Inhabited

namespace Workspace

/-- A path from the root, for a path from the working directory. -/
def absolute (w : Workspace) (p : Path) : Path := w.directory.join p

def isHere (w : Workspace) : Bool := w.disk.isDirectory w.directory

/-- A path from the root, as far as it can be told: a working directory that is gone has none. -/
def absolute? (w : Workspace) (p : Path) : Except DiskError Path :=
  if p.isAbsolute || w.isHere then .ok (w.absolute p) else .error .missing

def log (w : Workspace) (e : Event) : Workspace := { w with events := w.events ++ [e] }

def logAll (w : Workspace) (es : List Event) : Workspace := { w with events := w.events ++ es }

def holds (w : Workspace) (p : Path) : Bool := w.disk.holds (w.absolute p)

def isFile (w : Workspace) (p : Path) : Bool := w.disk.isFile (w.absolute p)

def isDirectory (w : Workspace) (p : Path) : Bool := w.disk.isDirectory (w.absolute p)

def read (w : Workspace) (p : Path) : Except DiskError Bytes := w.disk.read (w.absolute p)

/-- The workspace after an operation on its disk. -/
def onDisk (w : Workspace) (operation : Disk → Except DiskError Disk) : Except DiskError Workspace :=
  (operation w.disk).map fun disk => { w with disk }

end Workspace
end Phrasebook
