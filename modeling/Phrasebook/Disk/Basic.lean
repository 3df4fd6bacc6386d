import Phrasebook.Entries
import Phrasebook.Path

/-!
# A disk

Files and directories under their absolute places. Every operation either answers with the changed disk or fails with
the reason that the system would give; an operation that fails leaves the disk as it was. There are no links and no
permissions: a directory holds just what is below its place, and all of it can be read and written.
-/

namespace Phrasebook

/-- The content of a file. -/
abbrev Bytes := List UInt8

/-- What stands at a place. -/
inductive Item where
  | file (content : Bytes)
  | directory
  deriving DecidableEq, Repr, Inhabited

/-- Why an operation on the disk fails. -/
inductive DiskError where
  | missing
  | exists
  | isDirectory
  | notDirectory
  | notEmpty
  | full
  deriving DecidableEq, Repr, Inhabited

/-- How the reason of a failed operation is worded. -/
def DiskError.message : DiskError → String
  | missing => "No such file or directory"
  | «exists» => "File exists"
  | isDirectory => "Is a directory"
  | notDirectory => "Not a directory"
  | notEmpty => "Directory not empty"
  | full => "No space left on device"

/-- A place on the disk: the names from the root on, without points. -/
abbrev Place := List String

/-- Files and directories under their places; the root is always there. -/
abbrev Disk := Entries Place Item

namespace Disk

def at? (disk : Disk) (place : Place) : Option Item :=
  if place.isEmpty then some .directory else disk.get? place

/-- Takes one step of a path from a place: the place must be a directory. -/
def step (disk : Disk) (place : Place) (name : String) : Except DiskError Place :=
  match disk.at? place with
  | none => .error .missing
  | some (.file _) => .error .notDirectory
  | some .directory => .ok (if name == ".." then place.dropLast else place ++ [name])

/-- The place that a path leads to; all but its last name must be there. -/
def locate (disk : Disk) (path : Path) : Except DiskError Place :=
  path.names.foldlM (disk.step) []

def find (disk : Disk) (path : Path) : Except DiskError Item :=
  match disk.locate path with
  | .error e => .error e
  | .ok place =>
    match disk.at? place with
    | some item => .ok item
    | none => .error .missing

def holds (disk : Disk) (path : Path) : Bool := (disk.find path).isOk

def isFile (disk : Disk) (path : Path) : Bool :=
  match disk.find path with
  | .ok (.file _) => true
  | _ => false

def isDirectory (disk : Disk) (path : Path) : Bool :=
  match disk.find path with
  | .ok .directory => true
  | _ => false

def read (disk : Disk) (path : Path) : Except DiskError Bytes :=
  match disk.find path with
  | .ok (.file content) => .ok content
  | .ok .directory => .error .isDirectory
  | .error e => .error e

/-- Makes the directories that names lead through from a place; a file in the way is an error. -/
def ensureFrom (disk : Disk) (place : Place) : List String → Except DiskError Disk
  | [] => .ok disk
  | name :: rest =>
    if name == ".." then ensureFrom disk place.dropLast rest
    else match disk.at? (place ++ [name]) with
      | some .directory => ensureFrom disk (place ++ [name]) rest
      | some (.file _) => .error (if rest.isEmpty then .exists else .notDirectory)
      | none => ensureFrom (disk.put (place ++ [name]) .directory) (place ++ [name]) rest

/-- Makes a directory with all directories above it, as far as they are not there. -/
def ensureDirectories (disk : Disk) (path : Path) : Except DiskError Disk := disk.ensureFrom [] path.names

/-- Puts a file at a path whose directory is there. -/
def putFile (disk : Disk) (path : Path) (content : Bytes) : Except DiskError Disk :=
  match disk.locate path with
  | .error e => .error e
  | .ok place =>
    match disk.at? place.dropLast, disk.at? place with
    | none, _ => .error .missing
    | some (.file _), _ => .error .notDirectory
    | some .directory, some .directory => .error .isDirectory
    | some .directory, _ => .ok (disk.put place (.file content))

/-- Adds to the end of a file, which is made if it is not there. -/
def append (disk : Disk) (path : Path) (more : Bytes) : Except DiskError Disk :=
  match disk.read path with
  | .ok content => disk.putFile path (content ++ more)
  | .error .missing => disk.putFile path more
  | .error e => .error e

def removeFile (disk : Disk) (path : Path) : Except DiskError Disk :=
  match disk.locate path with
  | .error e => .error e
  | .ok place =>
    match disk.at? place with
    | none => .error .missing
    | some .directory => .error .isDirectory
    | some (.file _) => .ok (disk.filter fun entry => entry.1 != place)

/-- Gives a file another name, in place of a file that may have it. -/
def rename (disk : Disk) (source target : Path) : Except DiskError Disk :=
  match disk.read source with
  | .error e => .error e
  | .ok content =>
    match disk.putFile target content with
    | .error e => .error e
    | .ok disk' => disk'.removeFile source

/-- Writes a whole file at once, with the directories it needs: whoever looks sees the old content or the new. -/
def replace (disk : Disk) (path : Path) (content : Bytes) : Except DiskError Disk :=
  match disk.ensureDirectories path.parent with
  | .error e => .error e
  | .ok disk' => disk'.putFile path content

/-- All places below a place, with what stands there. -/
def below (disk : Disk) (place : Place) : List (Place × Item) :=
  disk.filter fun entry => place.isPrefixOf entry.1 && place.length < entry.1.length

/-- Removes a file, or a directory with all it holds. -/
def removeAll (disk : Disk) (path : Path) : Except DiskError Disk :=
  match disk.locate path with
  | .error e => .error e
  | .ok place => .ok (disk.filter fun entry => !place.isPrefixOf entry.1)

end Disk
end Phrasebook
