import Phrasebook.Proofs.Disks
import Phrasebook.Workspace

/-!
# Files of a workspace

What disks say of places, for the paths that start from a working directory: which file is where, and which files an
operation leaves as they were.
-/

namespace Phrasebook.Workspace

/-- The place of a path from the working directory. -/
def placeOf (w : Workspace) (p : Path) : Place := Disk.placeOf (w.absolute p)

theorem join_child (base below : Path) (name : String) : base.join (below.child name) = (base.join below).child name := by
  rw [Path.join, Path.join, Path.child, Path.isAbsolute, Path.isAbsolute]
  by_cases h : below.root.isEmpty = true
  · simp [h, Path.child, List.append_assoc]
  · simp [h, Path.child]

theorem absolute_child (w : Workspace) (p : Path) (name : String) :
    w.absolute (p.child name) = (w.absolute p).child name :=
  join_child _ _ _

theorem placeOf_child (w : Workspace) (p : Path) {name : String} (hname : name ≠ "..") :
    w.placeOf (p.child name) = w.placeOf p ++ [name] := by
  rw [placeOf, absolute_child, Disk.placeOf_child _ hname]
  rfl

/-- A path from the root on does not depend on the working directory. -/
theorem absolute_of_isAbsolute (w : Workspace) {p : Path} (h : p.isAbsolute = true) : w.absolute p = p := by
  rw [absolute, Path.join, if_pos h]

theorem absolute_absolute {w : Workspace} (h : w.directory.isAbsolute = true) (p : Path) :
    w.absolute (w.absolute p) = w.absolute p := by
  by_cases hp : p.isAbsolute = true
  · rw [w.absolute_of_isAbsolute hp, w.absolute_of_isAbsolute hp]
  · refine w.absolute_of_isAbsolute ?_
    rw [absolute, Path.join, if_neg hp]
    exact h

/-- The place of a path ends in its last name. -/
theorem getLast?_placeOf (w : Workspace) {p : Path} (hnames : (w.absolute p).names ≠ [])
    (hname : (w.absolute p).name ≠ "..") : (w.placeOf p).getLast? = some (w.absolute p).name := by
  have hplace := Disk.placeOf_child (w.absolute p).parent hname
  rw [Disk.child_parent_name hnames] at hplace
  rw [placeOf, hplace, List.getLast?_concat]

theorem absolute_of_directory {w w' : Workspace} (h : w'.directory = w.directory) (p : Path) :
    w'.absolute p = w.absolute p := by
  rw [absolute, absolute, h]

theorem placeOf_of_directory {w w' : Workspace} (h : w'.directory = w.directory) (p : Path) :
    w'.placeOf p = w.placeOf p := by
  rw [placeOf, placeOf, absolute_of_directory h]

/-- The same is read from the same disk. -/
theorem read_congr {w w' : Workspace} (hdisk : w'.disk = w.disk) (hdirectory : w'.directory = w.directory) (p : Path) :
    w'.read p = w.read p := by
  rw [read, read, absolute_of_directory hdirectory, hdisk]

/-- A path keeps its last name in its place, wherever it starts. -/
theorem getLast?_placeOf_join (w : Workspace) (root : Path) {below : Path} (hnames : below.names ≠ [])
    (hname : below.name ≠ "..") : (w.placeOf (root.join below)).getLast? = some below.name := by
  rw [← Disk.child_parent_name hnames, join_child, placeOf_child w _ hname, List.getLast?_concat, Disk.child_parent_name hnames]

theorem isFile_iff {w : Workspace} {p : Path} : w.isFile p = true ↔ ∃ content, w.read p = .ok content :=
  Disk.isFile_iff

theorem isFile_of_read {w : Workspace} {p : Path} {content : Bytes} (h : w.read p = .ok content) :
    w.isFile p = true :=
  isFile_iff.mpr ⟨content, h⟩

/-- The content of a file, if there is one. -/
def content? (w : Workspace) (p : Path) : Option Bytes := (w.read p).toOption

theorem content?_eq_some_iff {w : Workspace} {p : Path} {content : Bytes} :
    w.content? p = some content ↔ w.read p = .ok content := by
  rw [content?]
  cases w.read p <;> simp [Except.toOption]

theorem content?_eq_none_iff {w : Workspace} {p : Path} :
    w.content? p = none ↔ ∀ content, w.read p ≠ .ok content := by
  rw [content?]
  cases w.read p <;> simp [Except.toOption]

/-- What an operation on the disk does to a workspace. -/
theorem onDisk_eq_ok_iff {w w' : Workspace} {operation : Disk → Except DiskError Disk} :
    w.onDisk operation = .ok w' ↔ ∃ disk, operation w.disk = .ok disk ∧ w' = { w with disk } := by
  rw [onDisk]
  cases operation w.disk with
  | error e => simp [Except.map]
  | ok disk => simp [Except.map, eq_comm]

theorem room_of_onDisk {w w' : Workspace} {operation : Disk → Except DiskError Disk} (h : w.onDisk operation = .ok w') :
    w'.room = w.room := by
  obtain ⟨disk, -, rfl⟩ := onDisk_eq_ok_iff.mp h
  rfl

/-- Two workspaces differ in nothing but the events so far. -/
structure SameFiles (w w' : Workspace) : Prop where
  directory : w'.directory = w.directory
  room : w'.room = w.room
  disk : w'.disk = w.disk

namespace SameFiles

variable {w w' : Workspace}

theorem refl (w : Workspace) : SameFiles w w := ⟨rfl, rfl, rfl⟩

theorem log (h : SameFiles w w') (e : Event) : SameFiles w (w'.log e) := ⟨h.directory, h.room, h.disk⟩

theorem absolute (h : SameFiles w w') (p : Path) : w'.absolute p = w.absolute p := absolute_of_directory h.directory p

theorem placeOf (h : SameFiles w w') (p : Path) : w'.placeOf p = w.placeOf p := placeOf_of_directory h.directory p

theorem read (h : SameFiles w w') (p : Path) : w'.read p = w.read p := read_congr h.disk h.directory p

end SameFiles

/-- One workspace has the files of another, but for those at some places. -/
structure ChangesOnly (places : List Place) (w w' : Workspace) : Prop where
  directory : w'.directory = w.directory
  room : w'.room = w.room
  disk : Disk.ChangesOnly places w.disk w'.disk

namespace ChangesOnly

variable {places : List Place} {w w' w'' : Workspace}

theorem refl (places : List Place) (w : Workspace) : ChangesOnly places w w := ⟨rfl, rfl, .refl _ _⟩

theorem trans (h : ChangesOnly places w w') (h' : ChangesOnly places w' w'') : ChangesOnly places w w'' :=
  ⟨h'.directory.trans h.directory, h'.room.trans h.room, h.disk.trans h'.disk⟩

theorem mono {more : List Place} (h : ChangesOnly places w w') (hsub : ∀ place ∈ places, place ∈ more) :
    ChangesOnly more w w' :=
  ⟨h.directory, h.room, h.disk.mono hsub⟩

/-- Events are no files. -/
theorem log (h : ChangesOnly places w w') (e : Event) : ChangesOnly places w (w'.log e) :=
  ⟨h.directory, h.room, h.disk⟩

theorem of_sameFiles (places : List Place) (h : SameFiles w w') : ChangesOnly places w w' :=
  ⟨h.directory, h.room, h.disk ▸ .refl _ _⟩

theorem absolute (h : ChangesOnly places w w') (p : Path) : w'.absolute p = w.absolute p :=
  absolute_of_directory h.directory p

theorem placeOf (h : ChangesOnly places w w') (p : Path) : w'.placeOf p = w.placeOf p :=
  placeOf_of_directory h.directory p

/-- A file at an untouched place is read as before. -/
theorem read (h : ChangesOnly places w w') {p : Path} (hp : w.placeOf p ∉ places) {content : Bytes}
    (hread : w.read p = .ok content) : w'.read p = .ok content := by
  rw [Workspace.read, h.absolute]
  exact h.disk.read hp hread

end ChangesOnly

end Phrasebook.Workspace
