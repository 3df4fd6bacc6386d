import Phrasebook.Proofs.Entries
import Phrasebook.Workspace

/-!
# What operations leave alone

Every operation on a disk touches at most one or two places that its paths tell beforehand: at all other places the
files are the same afterwards, and no directory is ever lost. So what was read before at another path is read again.

Results:
1. `placeOf_eq_of_locate`: the place that a path leads to does not depend on the disk.
2. `ChangesOnly`: what an operation leaves alone, with one lemma for each operation.
3. `ChangesOnly.read`: a file at an untouched place is read as before.
-/

namespace Phrasebook.Disk

/-! ## 1. Places of paths -/

/-- The place that a path leads to, if it leads anywhere. -/
def placeOf (path : Path) : Place := Path.collapsed path.names

theorem eq_of_step {disk : Disk} {place : Place} {name : String} {next : Place} (h : disk.step place name = .ok next) :
    disk.at? place = some .directory ∧ next = if name == ".." then place.dropLast else place ++ [name] := by
  rw [step] at h
  split at h
  · exact absurd h (by simp)
  · exact absurd h (by simp)
  · rename_i hat
    rw [Except.ok.injEq] at h
    exact ⟨hat, h.symm⟩

theorem step_of_directory {disk : Disk} {place : Place} (h : disk.at? place = some .directory) (name : String) :
    disk.step place name = .ok (if name == ".." then place.dropLast else place ++ [name]) := by
  rw [step, h]

theorem foldlM_step_cons {disk : Disk} {place target : Place} {name : String} {names : List String} :
    (name :: names).foldlM disk.step place = .ok target ↔
      ∃ next, disk.step place name = .ok next ∧ names.foldlM disk.step next = .ok target := by
  rw [List.foldlM_cons]
  cases disk.step place name with
  | error e => exact ⟨fun h => absurd h (by simp [bind, Except.bind]), fun ⟨_, h, _⟩ => absurd h (by simp)⟩
  | ok next => exact ⟨fun h => ⟨next, rfl, h⟩, fun ⟨_, h, h'⟩ => by cases h; exact h'⟩

theorem placeOf_eq_of_locate {disk : Disk} {path : Path} {place : Place} (h : disk.locate path = .ok place) :
    place = placeOf path := by
  have hfold : ∀ (names : List String) (start : Place), names.foldlM disk.step start = .ok place →
      place = names.foldl (fun kept name => if name == ".." then kept.dropLast else kept ++ [name]) start := by
    intro names
    induction names with
    | nil => exact fun start h => (Except.ok.inj h).symm
    | cons name names ih =>
      intro start h
      obtain ⟨next, hstep, hrest⟩ := foldlM_step_cons.mp h
      rw [List.foldl_cons, ← (eq_of_step hstep).2]
      exact ih next hrest
  exact hfold path.names [] h

/-- A path leads to the same place where there are more directories. -/
theorem locate_of_directories {disk disk' : Disk}
    (h : ∀ place, disk.at? place = some .directory → disk'.at? place = some .directory) {path : Path} {place : Place}
    (hlocate : disk.locate path = .ok place) : disk'.locate path = .ok place := by
  have hfold : ∀ (names : List String) (start : Place), names.foldlM disk.step start = .ok place →
      names.foldlM disk'.step start = .ok place := by
    intro names
    induction names with
    | nil => exact fun _ h => h
    | cons name names ih =>
      intro start hrun
      obtain ⟨next, hstep, hrest⟩ := foldlM_step_cons.mp hrun
      obtain ⟨hat, hnext⟩ := eq_of_step hstep
      exact foldlM_step_cons.mpr ⟨next, by rw [step_of_directory (h _ hat), hnext], ih next hrest⟩
  exact hfold path.names [] hlocate

/-! ## 2. Finding -/

theorem find_eq_ok_iff {disk : Disk} {path : Path} {item : Item} :
    disk.find path = .ok item ↔ disk.locate path = .ok (placeOf path) ∧ disk.at? (placeOf path) = some item := by
  rw [find]
  cases hlocate : disk.locate path with
  | error e => simp
  | ok place =>
    rw [placeOf_eq_of_locate hlocate]
    dsimp only
    cases disk.at? (placeOf path) <;> simp

theorem read_eq_ok_iff {disk : Disk} {path : Path} {content : Bytes} :
    disk.read path = .ok content ↔
      disk.locate path = .ok (placeOf path) ∧ disk.at? (placeOf path) = some (.file content) := by
  rw [← find_eq_ok_iff, read]
  split <;> simp_all

theorem isFile_iff {disk : Disk} {path : Path} : disk.isFile path = true ↔ ∃ content, disk.read path = .ok content := by
  rw [isFile, read]
  cases disk.find path with
  | error e => simp
  | ok item => cases item <;> simp

/-! ## 3. What changes -/

/-- Only the files at some places differ, and new directories may be there. -/
structure ChangesOnly (places : List Place) (disk disk' : Disk) : Prop where
  directory : ∀ place, disk.at? place = some .directory → disk'.at? place = some .directory
  file : ∀ place content, place ∉ places → disk.at? place = some (.file content) →
    disk'.at? place = some (.file content)
  noNew : ∀ place content, place ∉ places → disk'.at? place = some (.file content) →
    disk.at? place = some (.file content)

namespace ChangesOnly

theorem refl (places : List Place) (disk : Disk) : ChangesOnly places disk disk :=
  ⟨fun _ h => h, fun _ _ _ h => h, fun _ _ _ h => h⟩

theorem mono {places more : List Place} {disk disk' : Disk} (h : ChangesOnly places disk disk')
    (hsub : ∀ place ∈ places, place ∈ more) : ChangesOnly more disk disk' :=
  ⟨h.directory, fun place content hp => h.file place content fun hmem => hp (hsub place hmem),
    fun place content hp => h.noNew place content fun hmem => hp (hsub place hmem)⟩

theorem trans {places : List Place} {disk disk' disk'' : Disk} (h : ChangesOnly places disk disk')
    (h' : ChangesOnly places disk' disk'') : ChangesOnly places disk disk'' :=
  ⟨fun place hat => h'.directory place (h.directory place hat),
    fun place content hp hat => h'.file place content hp (h.file place content hp hat),
    fun place content hp hat => h.noNew place content hp (h'.noNew place content hp hat)⟩

theorem locate {places : List Place} {disk disk' : Disk} (h : ChangesOnly places disk disk') {path : Path}
    {place : Place} (hlocate : disk.locate path = .ok place) : disk'.locate path = .ok place :=
  locate_of_directories h.directory hlocate

/-- A file at an untouched place is read as before. -/
theorem read {places : List Place} {disk disk' : Disk} (h : ChangesOnly places disk disk') {path : Path}
    (hp : placeOf path ∉ places) {content : Bytes} (hread : disk.read path = .ok content) :
    disk'.read path = .ok content := by
  rw [read_eq_ok_iff] at hread ⊢
  exact ⟨h.locate hread.1, h.file _ _ hp hread.2⟩

/-- Whatever stands at an untouched place stays there. -/
theorem at? {places : List Place} {disk disk' : Disk} (h : ChangesOnly places disk disk') {place : Place}
    (hp : place ∉ places) {item : Item} (hat : disk.at? place = some item) : disk'.at? place = some item := by
  cases item with
  | file content => exact h.file place content hp hat
  | directory => exact h.directory place hat

end ChangesOnly

/-- The content of the file at a place; nothing where no file is. -/
def bytesAt (disk : Disk) (place : Place) : Bytes :=
  match disk.at? place with
  | some (.file content) => content
  | _ => []

theorem bytesAt_of_file {disk : Disk} {place : Place} {content : Bytes} (h : disk.at? place = some (.file content)) :
    disk.bytesAt place = content := by
  rw [bytesAt, h]

theorem bytesAt_of_not_file {disk : Disk} {place : Place} (h : ∀ content, disk.at? place ≠ some (.file content)) :
    disk.bytesAt place = [] := by
  rw [bytesAt]
  split
  · rename_i content hat
    exact absurd hat (h content)
  · rfl

theorem bytesAt_of_read {disk : Disk} {path : Path} {content : Bytes} (h : disk.read path = .ok content) :
    disk.bytesAt (placeOf path) = content :=
  bytesAt_of_file (read_eq_ok_iff.mp h).2

/-- Where something is in a file that a path leads to, it is read. -/
theorem read_of_bytesAt {disk : Disk} {path : Path} (hlocate : disk.locate path = .ok (placeOf path))
    (h : disk.bytesAt (placeOf path) ≠ []) : disk.read path = .ok (disk.bytesAt (placeOf path)) := by
  rw [read_eq_ok_iff]
  refine ⟨hlocate, ?_⟩
  rw [bytesAt] at h ⊢
  split at h
  · rename_i content hat
    rw [hat]
  · exact absurd rfl h

theorem ChangesOnly.bytesAt {places : List Place} {disk disk' : Disk} (h : ChangesOnly places disk disk') {place : Place}
    (hp : place ∉ places) : disk'.bytesAt place = disk.bytesAt place := by
  by_cases hfile : ∃ content, disk'.at? place = some (.file content)
  · obtain ⟨content, hat⟩ := hfile
    rw [bytesAt_of_file hat, bytesAt_of_file (h.noNew _ _ hp hat)]
  · have hnone : ∀ content, disk'.at? place ≠ some (.file content) := fun content hat => hfile ⟨content, hat⟩
    rw [bytesAt_of_not_file hnone, bytesAt_of_not_file fun content hat => hnone content (h.file _ _ hp hat)]

theorem at?_put {disk : Disk} {place : Place} (h : place ≠ []) (item : Item) (other : Place) :
    at? (disk.put place item) other = if place = other then some item else disk.at? other := by
  rw [at?, at?]
  by_cases hother : other.isEmpty = true
  · rw [List.isEmpty_iff] at hother
    subst hother
    rw [if_neg h]
    rfl
  · rw [if_neg hother, if_neg hother, Entries.get?_put]

theorem at?_remove {disk : Disk} {place : Place} (h : place ≠ []) (other : Place) :
    at? (disk.filter fun entry => entry.1 != place) other = if place = other then none else disk.at? other := by
  rw [at?, at?]
  by_cases hother : other.isEmpty = true
  · rw [List.isEmpty_iff] at hother
    subst hother
    rw [if_neg h]
    rfl
  · rw [if_neg hother, if_neg hother, Entries.get?_filter_keys disk fun key => key != place]
    by_cases hplace : place = other
    · rw [if_pos hplace, hplace, if_neg (by simp)]
    · rw [if_neg hplace, if_pos (by simpa using Ne.symm hplace)]

theorem ne_nil_of_file {disk : Disk} {place : Place} {content : Bytes} (h : disk.at? place = some (.file content)) :
    place ≠ [] := by
  rintro rfl
  exact absurd h (by simp [at?])

theorem ne_nil_of_none {disk : Disk} {place : Place} (h : disk.at? place = none) : place ≠ [] := by
  rintro rfl
  exact absurd h (by simp [at?])

/-! ## 4. The operations -/

theorem changesOnly_ensureFrom {disk disk' : Disk} {place : Place} {names : List String}
    (h : disk.ensureFrom place names = .ok disk') : ChangesOnly [] disk disk' := by
  induction names generalizing disk place with
  | nil =>
    rw [ensureFrom, Except.ok.injEq] at h
    rw [← h]
    exact .refl _ _
  | cons name names ih =>
    rw [ensureFrom] at h
    split at h
    · exact ih h
    · split at h
      · exact ih h
      · exact absurd h (by simp)
      · rename_i hat
        have hne := ne_nil_of_none hat
        refine .trans ⟨?_, ?_, ?_⟩ (ih h)
        · intro other hother
          rw [at?_put hne]
          split
          · rfl
          · exact hother
        · intro other content _ hother
          rw [at?_put hne, if_neg]
          · exact hother
          · rintro rfl
            exact absurd (hat.symm.trans hother) (by simp)
        · intro other content _ hother
          rw [at?_put hne] at hother
          split at hother
          · exact absurd hother (by simp)
          · exact hother

theorem changesOnly_ensureDirectories {disk disk' : Disk} {path : Path}
    (h : disk.ensureDirectories path = .ok disk') : ChangesOnly [] disk disk' :=
  changesOnly_ensureFrom h

/-- What putting a file does: at its place is no directory, and the place above is one. -/
theorem putFile_eq_ok_iff {disk disk' : Disk} {path : Path} {content : Bytes} :
    disk.putFile path content = .ok disk' ↔
      disk.locate path = .ok (placeOf path) ∧ disk.at? (placeOf path).dropLast = some .directory ∧
        disk.at? (placeOf path) ≠ some .directory ∧ disk' = disk.put (placeOf path) (.file content) := by
  rw [putFile]
  cases hlocate : disk.locate path with
  | error e => simp
  | ok place =>
    rw [placeOf_eq_of_locate hlocate]
    dsimp only
    generalize disk.at? (placeOf path).dropLast = above
    generalize disk.at? (placeOf path) = here
    rcases above with _ | ⟨⟨⟩⟩ <;> rcases here with _ | ⟨⟨⟩⟩ <;> simp [eq_comm]

theorem changesOnly_putFile {disk disk' : Disk} {path : Path} {content : Bytes}
    (h : disk.putFile path content = .ok disk') : ChangesOnly [placeOf path] disk disk' := by
  obtain ⟨-, -, hnot, rfl⟩ := putFile_eq_ok_iff.mp h
  have hne : placeOf path ≠ [] := by
    intro hnil
    rw [hnil] at hnot
    exact hnot rfl
  refine ⟨?_, ?_, ?_⟩
  · intro place hplace
    rw [at?_put hne, if_neg]
    · exact hplace
    · rintro rfl
      exact hnot hplace
  · intro place other hp hplace
    rw [List.mem_singleton] at hp
    rw [at?_put hne, if_neg (Ne.symm hp)]
    exact hplace
  · intro place other hp hplace
    rw [List.mem_singleton] at hp
    rw [at?_put hne, if_neg (Ne.symm hp)] at hplace
    exact hplace

theorem read_putFile {disk disk' : Disk} {path : Path} {content : Bytes}
    (h : disk.putFile path content = .ok disk') : disk'.read path = .ok content := by
  have hchanges := changesOnly_putFile h
  obtain ⟨hlocate, -, hnot, rfl⟩ := putFile_eq_ok_iff.mp h
  have hne : placeOf path ≠ [] := by
    intro hnil
    rw [hnil] at hnot
    exact hnot rfl
  rw [read_eq_ok_iff]
  exact ⟨hchanges.locate hlocate, by rw [at?_put hne, if_pos rfl]⟩

theorem changesOnly_append {disk disk' : Disk} {path : Path} {more : Bytes}
    (h : disk.append path more = .ok disk') : ChangesOnly [placeOf path] disk disk' := by
  rw [append] at h
  split at h
  · exact changesOnly_putFile h
  · exact changesOnly_putFile h
  · exact absurd h (by simp)

/-- Adding to a file that is not there makes it. -/
theorem read_append {disk disk' : Disk} {path : Path} {more : Bytes} (h : disk.append path more = .ok disk') :
    disk'.read path = .ok (disk.bytesAt (placeOf path) ++ more) := by
  rw [append] at h
  split at h
  · rename_i content hread
    rw [bytesAt_of_read hread]
    exact read_putFile h
  · rename_i hread
    -- the path leads somewhere, so nothing is there
    have hnone : disk.at? (placeOf path) = none := by
      have hlocate := (putFile_eq_ok_iff.mp h).1
      rw [read, find, hlocate] at hread
      dsimp only at hread
      cases hat : disk.at? (placeOf path) with
      | none => rfl
      | some item => rw [hat] at hread; cases item <;> exact absurd hread (by simp)
    rw [bytesAt, hnone]
    exact read_putFile h
  · exact absurd h (by simp)

/-- What removing a file does. -/
theorem removeFile_eq_ok_iff {disk disk' : Disk} {path : Path} :
    disk.removeFile path = .ok disk' ↔
      (∃ content, disk.read path = .ok content) ∧ disk' = disk.filter fun entry => entry.1 != placeOf path := by
  simp only [read_eq_ok_iff]
  rw [removeFile]
  cases hlocate : disk.locate path with
  | error e => simp
  | ok place =>
    rw [placeOf_eq_of_locate hlocate]
    dsimp only
    generalize disk.at? (placeOf path) = here
    rcases here with _ | ⟨⟨⟩⟩ <;> simp [eq_comm]

theorem changesOnly_removeFile {disk disk' : Disk} {path : Path} (h : disk.removeFile path = .ok disk') :
    ChangesOnly [placeOf path] disk disk' := by
  obtain ⟨⟨content, hread⟩, rfl⟩ := removeFile_eq_ok_iff.mp h
  have hat := (read_eq_ok_iff.mp hread).2
  have hne := ne_nil_of_file hat
  refine ⟨?_, ?_, ?_⟩
  · intro place hplace
    rw [at?_remove hne, if_neg]
    · exact hplace
    · rintro rfl
      exact absurd (hat.symm.trans hplace) (by simp)
  · intro place other hp hplace
    rw [List.mem_singleton] at hp
    rw [at?_remove hne, if_neg (Ne.symm hp)]
    exact hplace
  · intro place other hp hplace
    rw [List.mem_singleton] at hp
    rw [at?_remove hne, if_neg (Ne.symm hp)] at hplace
    exact hplace

/-- A removed file is gone. -/
theorem find_removeFile {disk disk' : Disk} {path : Path} (h : disk.removeFile path = .ok disk') :
    disk'.find path = .error .missing := by
  have hchanges := changesOnly_removeFile h
  obtain ⟨⟨content, hread⟩, rfl⟩ := removeFile_eq_ok_iff.mp h
  obtain ⟨hlocate, hat⟩ := read_eq_ok_iff.mp hread
  rw [find, hchanges.locate hlocate]
  simp only [at?_remove (ne_nil_of_file hat), if_true]

theorem bytesAt_removeFile {disk disk' : Disk} {path : Path} (h : disk.removeFile path = .ok disk') :
    disk'.bytesAt (placeOf path) = [] := by
  obtain ⟨⟨content, hread⟩, rfl⟩ := removeFile_eq_ok_iff.mp h
  rw [bytesAt, at?_remove (ne_nil_of_file (read_eq_ok_iff.mp hread).2), if_pos rfl]

/-- What giving another name does: the file is put under that name, and then it is removed. -/
theorem exists_of_rename {disk disk' : Disk} {source target : Path} (h : disk.rename source target = .ok disk') :
    ∃ content between, disk.read source = .ok content ∧ disk.putFile target content = .ok between ∧
      between.removeFile source = .ok disk' := by
  rw [rename] at h
  split at h
  · exact absurd h (by simp)
  · rename_i content hread
    split at h
    · exact absurd h (by simp)
    · rename_i between hput
      exact ⟨content, between, hread, hput, h⟩

theorem changesOnly_rename {disk disk' : Disk} {source target : Path} (h : disk.rename source target = .ok disk') :
    ChangesOnly [placeOf source, placeOf target] disk disk' := by
  obtain ⟨content, between, -, hput, hremove⟩ := exists_of_rename h
  exact ((changesOnly_putFile hput).mono (by simp)).trans ((changesOnly_removeFile hremove).mono (by simp))

/-- A file that got another name is gone. -/
theorem find_rename {disk disk' : Disk} {source target : Path} (h : disk.rename source target = .ok disk') :
    disk'.find source = .error .missing := by
  obtain ⟨_, _, -, -, hremove⟩ := exists_of_rename h
  exact find_removeFile hremove

/-- A file that got another name is there. -/
theorem read_rename {disk disk' : Disk} {source target : Path} (h : disk.rename source target = .ok disk')
    (hplaces : placeOf target ≠ placeOf source) :
    ∃ content, disk.read source = .ok content ∧ disk'.read target = .ok content := by
  obtain ⟨content, between, hread, hput, hremove⟩ := exists_of_rename h
  exact ⟨content, hread, (changesOnly_removeFile hremove).read (by simpa using hplaces) (read_putFile hput)⟩

/-- A file gets another name where it can be put under that name. -/
theorem rename_eq_ok_iff {disk : Disk} {source target : Path} {content : Bytes} (hread : disk.read source = .ok content)
    (hplaces : placeOf target ≠ placeOf source) :
    (∃ disk', disk.rename source target = .ok disk') ↔ ∃ disk', disk.putFile target content = .ok disk' := by
  rw [rename, hread]
  dsimp only
  cases hput : disk.putFile target content with
  | error e => simp
  | ok disk' =>
    have hstays := (changesOnly_putFile hput).read (by simpa using Ne.symm hplaces) hread
    exact ⟨fun _ => ⟨disk', rfl⟩, fun _ => ⟨_, removeFile_eq_ok_iff.mpr ⟨⟨content, hstays⟩, rfl⟩⟩⟩

/-- What writing a whole file does: the directories are made, and then the file is put. -/
theorem exists_of_replace {disk disk' : Disk} {path : Path} {content : Bytes}
    (h : disk.replace path content = .ok disk') :
    ∃ between, disk.ensureDirectories path.parent = .ok between ∧ between.putFile path content = .ok disk' := by
  rw [replace] at h
  split at h
  · exact absurd h (by simp)
  · rename_i between hensure
    exact ⟨between, hensure, h⟩

theorem changesOnly_replace {disk disk' : Disk} {path : Path} {content : Bytes}
    (h : disk.replace path content = .ok disk') : ChangesOnly [placeOf path] disk disk' := by
  obtain ⟨between, hensure, hput⟩ := exists_of_replace h
  exact ((changesOnly_ensureDirectories hensure).mono (by simp)).trans (changesOnly_putFile hput)

theorem read_replace {disk disk' : Disk} {path : Path} {content : Bytes}
    (h : disk.replace path content = .ok disk') : disk'.read path = .ok content := by
  obtain ⟨between, -, hput⟩ := exists_of_replace h
  exact read_putFile hput

/-! ## 5. What does not fail -/

/-- Everything stands in a directory. -/
def IsTree (disk : Disk) : Prop := ∀ place item, disk.at? place = some item → disk.at? place.dropLast = some .directory

/-- To see that everything stands in a directory, it is enough to look at all there is. -/
theorem isTree_of_mem {disk : Disk} (h : ∀ entry ∈ disk, disk.at? entry.1.dropLast = some .directory) : disk.IsTree := by
  intro place item hat
  by_cases hplace : place.isEmpty = true
  · rw [List.isEmpty_iff.mp hplace]
    rfl
  · rw [at?, if_neg hplace] at hat
    exact h _ (Entries.mem_of_get? hat)

/-- Directories that were walked through need not be made. -/
theorem ensureFrom_append {disk : Disk} {place target : Place} {names : List String} (more : List String)
    (h : names.foldlM disk.step place = .ok target) (htarget : disk.at? target = some .directory) :
    disk.ensureFrom place (names ++ more) = disk.ensureFrom target more := by
  induction names generalizing place with
  | nil =>
    rw [← Except.ok.inj h]
    rfl
  | cons name names ih =>
    obtain ⟨next, hstep, hrest⟩ := foldlM_step_cons.mp h
    have hnext : disk.at? next = some .directory := by
      cases names with
      | nil =>
        rw [Except.ok.inj hrest]
        exact htarget
      | cons name' names =>
        obtain ⟨_, hlast, -⟩ := foldlM_step_cons.mp hrest
        exact (eq_of_step hlast).1
    have heq := (eq_of_step hstep).2
    rw [List.cons_append, ensureFrom]
    split
    · rename_i hup
      rw [if_pos hup] at heq
      rw [← heq]
      exact ih hrest
    · rename_i hdown
      rw [if_neg hdown] at heq
      rw [← heq, hnext]
      exact ih hrest

theorem ensureFrom_of_foldlM {disk : Disk} {place target : Place} {names : List String} {last : String}
    (h : (names ++ [last]).foldlM disk.step place = .ok target) : disk.ensureFrom place names = .ok disk := by
  rw [List.foldlM_append] at h
  cases hwalk : names.foldlM disk.step place with
  | error e =>
    rw [hwalk] at h
    exact absurd h (by simp [bind, Except.bind])
  | ok next =>
    rw [hwalk] at h
    obtain ⟨_, hlast, -⟩ := foldlM_step_cons.mp h
    have hensure := ensureFrom_append [] hwalk (eq_of_step hlast).1
    rwa [List.append_nil] at hensure

theorem ensureDirectories_of_locate {disk : Disk} {path : Path} {place : Place} (h : disk.locate path = .ok place) :
    disk.ensureDirectories path.parent = .ok disk := by
  rw [locate] at h
  rw [ensureDirectories, Path.parent]
  rcases List.eq_nil_or_concat path.names with hnil | ⟨names, last, hnames⟩
  · rw [hnil]
    rfl
  · rw [hnames, List.concat_eq_append] at h
    rw [hnames, List.concat_eq_append, List.dropLast_concat]
    exact ensureFrom_of_foldlM h

/-- A file is written where a path leads to no directory but to something in one. -/
theorem replace_eq_of_locate {disk : Disk} {path : Path} (hlocate : disk.locate path = .ok (placeOf path))
    (hparent : disk.at? (placeOf path).dropLast = some .directory) (hnot : disk.at? (placeOf path) ≠ some .directory)
    (content : Bytes) : disk.replace path content = .ok (disk.put (placeOf path) (.file content)) := by
  rw [replace, ensureDirectories_of_locate hlocate]
  exact putFile_eq_ok_iff.mpr ⟨hlocate, hparent, hnot, rfl⟩

theorem replace_of_locate {disk : Disk} {path : Path} (hlocate : disk.locate path = .ok (placeOf path))
    (hparent : disk.at? (placeOf path).dropLast = some .directory) (hnot : disk.at? (placeOf path) ≠ some .directory)
    (content : Bytes) : ∃ disk', disk.replace path content = .ok disk' :=
  ⟨_, replace_eq_of_locate hlocate hparent hnot content⟩

/-! ## 6. Directories above a place -/

/-- The directories above a place are there, and the place itself is one. -/
def IsReached (disk : Disk) (place : Place) : Prop := ∀ n, disk.at? (place.take n) = some .directory

theorem IsReached.dropLast {disk : Disk} {place : Place} (h : disk.IsReached place) : disk.IsReached place.dropLast := by
  intro n
  rw [List.dropLast_eq_take, List.take_take]
  exact h _

theorem IsReached.append {disk : Disk} {place : Place} (h : disk.IsReached place) {name : String}
    (hname : disk.at? (place ++ [name]) = some .directory) : disk.IsReached (place ++ [name]) := by
  intro n
  by_cases hn : n ≤ place.length
  · rw [List.take_append_of_le_length hn]
    exact h n
  · rw [List.take_of_length_le (by rw [List.length_append, List.length_singleton]; omega)]
    exact hname

theorem IsReached.here {disk : Disk} {place : Place} (h : disk.IsReached place) : disk.at? place = some .directory := by
  have := h place.length
  rwa [List.take_length] at this

/-- Wherever names lead, the directories above are there. -/
theorem above_of_foldlM {disk : Disk} {place target : Place} {names : List String}
    (habove : ∀ n < place.length, disk.at? (place.take n) = some .directory)
    (h : names.foldlM disk.step place = .ok target) : ∀ n < target.length, disk.at? (target.take n) = some .directory := by
  induction names generalizing place with
  | nil =>
    cases h
    exact habove
  | cons name names ih =>
    obtain ⟨next, hstep, hrest⟩ := foldlM_step_cons.mp h
    obtain ⟨hplace, hnext⟩ := eq_of_step hstep
    have hreached : disk.IsReached place := by
      intro n
      by_cases hn : n < place.length
      · exact habove n hn
      · rw [List.take_of_length_le (Nat.le_of_not_lt hn)]
        exact hplace
    refine ih (fun n hn => ?_) hrest
    split at hnext
    · rw [hnext]
      exact hreached.dropLast n
    · rw [hnext, List.length_append, List.length_singleton] at hn
      rw [hnext, List.take_append_of_le_length (Nat.le_of_lt_succ hn)]
      exact hreached n

/-- Wherever a path leads, the directories above can be walked through. -/
theorem isReached_of_locate {disk : Disk} {path : Path} {place : Place} (h : disk.locate path = .ok place) :
    disk.IsReached place.dropLast := by
  have hroot : ∀ n < ([] : Place).length, disk.at? (List.take n []) = some .directory :=
    fun n hn => absurd hn (Nat.not_lt_zero n)
  have habove := above_of_foldlM hroot h
  intro n
  rcases List.eq_nil_or_concat place with rfl | ⟨names, last, rfl⟩
  · rw [List.dropLast_nil, List.take_nil]
    rfl
  · rw [List.concat_eq_append, List.length_append, List.length_singleton] at habove
    rw [List.concat_eq_append, List.dropLast_concat]
    by_cases hn : n ≤ names.length
    · have hprefix := habove n (Nat.lt_succ_of_le hn)
      rwa [List.take_append_of_le_length hn] at hprefix
    · have hall := habove names.length (Nat.lt_succ_self _)
      rw [List.take_left] at hall
      rwa [List.take_of_length_le (Nat.le_of_not_le hn)]

theorem at?_dropLast_of_locate {disk : Disk} {path : Path} {place : Place} (h : disk.locate path = .ok place) :
    disk.at? place.dropLast = some .directory :=
  (isReached_of_locate h).here

/-- Where a path leads somewhere, so does the path with another last name. -/
theorem locate_withName {disk : Disk} {path : Path} {place : Place} (h : disk.locate path = .ok place)
    (hnames : path.names ≠ []) {name : String} (hname : name ≠ "..") :
    disk.locate (path.withName name) = .ok (placeOf (path.withName name)) := by
  have hlocate : ∃ here, disk.locate (path.withName name) = .ok here := by
    rw [locate, ← List.dropLast_append_getLast hnames, List.foldlM_append] at h
    cases habove : path.names.dropLast.foldlM disk.step [] with
    | error e =>
      rw [habove] at h
      exact absurd h (by simp [bind, Except.bind])
    | ok above =>
      rw [habove] at h
      obtain ⟨next, hstep, -⟩ := foldlM_step_cons.mp h
      refine ⟨above ++ [name], ?_⟩
      rw [locate, Path.withName, Path.child, Path.parent, List.foldlM_append, habove]
      refine foldlM_step_cons.mpr ⟨_, step_of_directory (eq_of_step hstep).1 name, ?_⟩
      rw [if_neg (by simpa using hname)]
      rfl
  obtain ⟨here, hlocate⟩ := hlocate
  rwa [placeOf_eq_of_locate hlocate] at hlocate

/-- Names without two points lead straight down, where all above the last are directories. -/
theorem foldlM_step_of_above {disk : Disk} {place : Place} {names : List String} (hplain : ".." ∉ names)
    (h : ∀ n < names.length, disk.at? (place ++ names.take n) = some .directory) :
    names.foldlM disk.step place = .ok (place ++ names) := by
  induction names generalizing place with
  | nil => rw [List.append_nil]; rfl
  | cons name names ih =>
    rw [List.mem_cons, not_or] at hplain
    have hplace := h 0 (Nat.succ_pos _)
    rw [List.take_zero, List.append_nil] at hplace
    refine foldlM_step_cons.mpr ⟨place ++ [name], ?_, ?_⟩
    · rw [step_of_directory hplace, if_neg (by simpa using Ne.symm hplain.1)]
    · rw [ih hplain.2, List.append_assoc, List.singleton_append]
      intro n hn
      have hnext := h (n + 1) (Nat.succ_lt_succ hn)
      rwa [List.take_succ_cons, ← List.singleton_append, ← List.append_assoc] at hnext

theorem locate_of_isReached {disk : Disk} {path : Path} (hplain : ".." ∉ path.names)
    (h : disk.IsReached path.names.dropLast) : disk.locate path = .ok path.names := by
  refine foldlM_step_of_above hplain fun n hn => ?_
  have hprefix := h n
  rwa [List.dropLast_eq_take, List.take_take, Nat.min_eq_left (Nat.le_sub_one_of_lt hn)] at hprefix

theorem collapsed_of_not_mem {names : List String} (h : ".." ∉ names) : Path.collapsed names = names := by
  have hfold : ∀ kept : List String, names.foldl (fun kept name => if name == ".." then kept.dropLast else kept ++ [name])
      kept = kept ++ names := by
    induction names with
    | nil => exact fun kept => (List.append_nil kept).symm
    | cons name names ih =>
      intro kept
      rw [List.mem_cons, not_or] at h
      rw [List.foldl_cons, if_neg (by simpa using Ne.symm h.1), ih h.2, List.append_assoc, List.singleton_append]
  exact hfold []

/-- Where a directory stands is no file. -/
theorem isFile_eq_false {disk : Disk} {path : Path} (h : disk.at? (placeOf path) = some .directory) :
    disk.isFile path = false := by
  rw [← Bool.not_eq_true, isFile_iff]
  rintro ⟨content, hread⟩
  exact absurd ((read_eq_ok_iff.mp hread).2.symm.trans h) (by simp)

/-- A file that is there can be written again. -/
theorem replace_of_read {disk : Disk} {path : Path} {content : Bytes} (h : disk.read path = .ok content) (bytes : Bytes) :
    ∃ disk', disk.replace path bytes = .ok disk' := by
  obtain ⟨hlocate, hat⟩ := read_eq_ok_iff.mp h
  exact replace_of_locate hlocate (at?_dropLast_of_locate hlocate) (by rw [hat]; simp) bytes

/-- To a file that is there can be added. -/
theorem append_of_read {disk : Disk} {path : Path} {content : Bytes} (h : disk.read path = .ok content) (more : Bytes) :
    ∃ disk', disk.append path more = .ok disk' := by
  obtain ⟨hlocate, hat⟩ := read_eq_ok_iff.mp h
  rw [append, h]
  exact ⟨_, putFile_eq_ok_iff.mpr ⟨hlocate, at?_dropLast_of_locate hlocate, by rw [hat]; simp, rfl⟩⟩

theorem placeOf_child (path : Path) {name : String} (hname : name ≠ "..") :
    placeOf (path.child name) = placeOf path ++ [name] := by
  rw [placeOf, Path.child, Path.collapsed, List.foldl_append, List.foldl_cons, List.foldl_nil, if_neg (by simpa using hname)]
  rfl

theorem child_parent_name {path : Path} (h : path.names ≠ []) : path.parent.child path.name = path := by
  obtain ⟨root, names⟩ := path
  rw [Path.parent, Path.child, Path.name]
  simp only [Path.mk.injEq, true_and]
  rw [List.getLast?_eq_some_getLast h, Option.getD_some, List.dropLast_append_getLast h]

end Phrasebook.Disk
