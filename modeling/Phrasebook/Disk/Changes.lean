import Phrasebook.Disk.Basic

/-!
# Changes of a disk

What has to be done to a disk so that it becomes another one.
-/

namespace Phrasebook

/-- One step from a disk to another. -/
inductive Change where
  /-- A directory is made. -/
  | make (place : Place)
  /-- A file is written. -/
  | write (place : Place) (content : Bytes)
  /-- What stands at a place is removed. -/
  | remove (place : Place)
  deriving DecidableEq, Repr

namespace Disk

/-- What is new or different in another disk, in its order. -/
def additions (disk other : Disk) : List Change :=
  other.filterMap fun (place, item) =>
    if disk.at? place == some item then none
    else some (match item with | .file content => .write place content | .directory => .make place)

def removals (disk other : Disk) : List Change :=
  disk.filterMap fun (place, _) => if (other.at? place).isNone then some (.remove place) else none

def changes (disk other : Disk) : List Change := disk.additions other ++ disk.removals other

end Disk
end Phrasebook
