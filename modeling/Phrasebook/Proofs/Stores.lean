import Phrasebook.Proofs.Catalogs
import Phrasebook.Proofs.Workspaces

/-!
# A store after writing

Writing a catalog leaves the workspace as it was, or with the catalog in its file; only then it may be that the lookup
module is not written. A catalog in its file is what is read next.

Results:
1. `load_of_read`: a store reads what is in its file.
2. `changesOnly_save`: writing touches no other file.
3. `save_cases`: the three ways in which writing ends.
4. `load_save`: what was written without failure is read.
-/

namespace Phrasebook.CatalogStore

variable {store : CatalogStore} {w : Workspace}

/-! ## 1. Reading -/

theorem load_of_read {bytes : Bytes} (h : w.read store.file = .ok bytes) {loaded : Catalog.Loaded}
    (hbytes : Catalog.ofBytes w.room bytes = .ok loaded) : store.load w = .ok loaded := by
  rw [load, isThere, if_pos (Workspace.isFile_of_read h), h]
  simp only [hbytes]

/-- A store reads the same from the same disk. -/
theorem load_congr {w' : Workspace} (hdisk : w'.disk = w.disk) (hdirectory : w'.directory = w.directory)
    (hroom : w'.room = w.room) : store.load w' = store.load w := by
  rw [load, load, isThere, isThere, Workspace.isFile, Workspace.isFile, Workspace.read_congr hdisk hdirectory,
    Workspace.absolute_of_directory hdirectory, hdisk, hroom]

theorem load_of_not_isFile (h : w.isFile store.file = false) : store.load w = .ok ⟨[], []⟩ := by
  rw [load, isThere, if_neg (by simp [h])]

/-- Whatever a store reads is sound. -/
theorem isSound_of_load {loaded : Catalog.Loaded} (h : store.load w = .ok loaded) : loaded.catalog.IsSound := by
  rw [load] at h
  split at h
  · split at h
    · exact absurd h (by simp)
    · split at h
      · rename_i hbytes
        rw [Except.ok.injEq] at h
        exact h ▸ Catalog.isSound_of_ofBytes hbytes
      · exact absurd h (by simp)
      · exact absurd h (by simp)
  · rw [Except.ok.injEq] at h
    exact h ▸ Catalog.isSound_nil

/-- A catalog with entries is in a file. -/
theorem read_of_load {loaded : Catalog.Loaded} (h : store.load w = .ok loaded) (hne : loaded.catalog ≠ []) :
    ∃ bytes, w.read store.file = .ok bytes ∧ Catalog.ofBytes w.room bytes = .ok loaded := by
  rw [load] at h
  split at h
  · split at h
    · exact absurd h (by simp)
    · rename_i bytes hread
      refine ⟨bytes, hread, ?_⟩
      split at h
      · rename_i hbytes
        rw [hbytes, Except.ok.inj h]
      · exact absurd h (by simp)
      · exact absurd h (by simp)
  · rw [Except.ok.injEq] at h
    exact absurd (by rw [← h]) hne

/-- A catalog that cannot be read is in a file. -/
theorem read_of_load_error {failure : Failure} (h : store.load w = .error failure) :
    ∃ bytes complaint, w.read store.file = .ok bytes ∧ Catalog.ofBytes w.room bytes = .error complaint ∧
      (failure = .nesting ↔ complaint = .json (.excess .nesting)) := by
  rw [load] at h
  split at h
  · rename_i hthere
    obtain ⟨bytes, hread⟩ := Workspace.isFile_iff.mp hthere
    rw [hread] at h
    dsimp only at h
    split at h
    · exact absurd h (by simp)
    · rename_i hbytes
      exact ⟨bytes, _, hread, hbytes, iff_of_true (Except.error.inj h).symm rfl⟩
    · rename_i complaint hother hbytes
      refine ⟨bytes, complaint, hread, hbytes, iff_of_false ?_ (hother ·)⟩
      rw [← Except.error.inj h]
      exact nofun
  · exact absurd h (by simp)

theorem isTooDeep_of_load {loaded : Catalog.Loaded} (h : store.load w = .ok loaded) : store.isTooDeep w = false := by
  rw [isTooDeep, h]

theorem isTooDeep_eq_true_iff : store.isTooDeep w = true ↔ store.load w = .error .nesting := by
  rw [isTooDeep]
  split
  · rename_i hload
    exact iff_of_true rfl hload
  · rename_i hother
    exact iff_of_false (by simp) hother

/-! ## 2. Writing -/

/-- The places of the catalog and of the lookup module. -/
def places (store : CatalogStore) (w : Workspace) : List Place :=
  w.placeOf store.file :: store.module.toList.map w.placeOf

/-- The lookup module is kept elsewhere than the catalog. -/
def IsApart (store : CatalogStore) (w : Workspace) : Prop :=
  ∀ path, store.module = some path → w.placeOf path ≠ w.placeOf store.file

theorem places_of_directory {w' : Workspace} (hd : w'.directory = w.directory) : store.places w' = store.places w := by
  rw [places, places, funext (Workspace.placeOf_of_directory hd)]

theorem IsApart.of_directory {w' : Workspace} (h : store.IsApart w) (hd : w'.directory = w.directory) :
    store.IsApart w' := by
  intro path hpath
  rw [Workspace.placeOf_of_directory hd, Workspace.placeOf_of_directory hd]
  exact h path hpath

/-- The three ways in which writing ends: nothing is written, only the catalog, or both. -/
theorem save_cases (store : CatalogStore) (w : Workspace) (c : Catalog) :
    (∃ e, w.disk.replace (w.absolute store.file) (bytesOf (c.fileText store.sorted)) = .error e ∧
      store.save w c = (w, some (.storage store.file.toString e.message))) ∨
    (∃ disk path e, w.disk.replace (w.absolute store.file) (bytesOf (c.fileText store.sorted)) = .ok disk ∧
      store.module = some path ∧ disk.replace (w.absolute path) (bytesOf (c.moduleText store.sorted)) = .error e ∧
      store.save w c = ({ w with disk }, some (.storage store.file.toString e.message))) ∨
    (∃ disk, w.disk.replace (w.absolute store.file) (bytesOf (c.fileText store.sorted)) = .ok disk ∧
      (store.module = none ∧ store.save w c = ({ w with disk }, none) ∨
        ∃ path disk', store.module = some path ∧
          disk.replace (w.absolute path) (bytesOf (c.moduleText store.sorted)) = .ok disk' ∧
          store.save w c = ({ w with disk := disk' }, none))) := by
  rw [save]
  cases hfile : w.disk.replace (w.absolute store.file) (bytesOf (c.fileText store.sorted)) with
  | error e => exact .inl ⟨e, rfl, rfl⟩
  | ok disk =>
    dsimp only
    cases hmodule : store.module with
    | none => exact .inr (.inr ⟨disk, rfl, .inl ⟨rfl, rfl⟩⟩)
    | some path =>
      dsimp only
      cases hpath : disk.replace (w.absolute path) (bytesOf (c.moduleText store.sorted)) with
      | error e =>
        refine .inr (.inl ⟨disk, path, e, rfl, rfl, hpath, ?_⟩)
        rw [show Workspace.absolute { w with disk } path = w.absolute path from rfl, hpath]
      | ok disk' =>
        refine .inr (.inr ⟨disk, rfl, .inr ⟨path, disk', rfl, hpath, ?_⟩⟩)
        rw [show Workspace.absolute { w with disk } path = w.absolute path from rfl, hpath]

/-- Writing touches the catalog and the lookup module alone. -/
theorem changesOnly_save (store : CatalogStore) (w : Workspace) (c : Catalog) :
    Workspace.ChangesOnly (store.places w) w (store.save w c).1 := by
  have hfile {disk : Disk} (h : w.disk.replace (w.absolute store.file) (bytesOf (c.fileText store.sorted)) = .ok disk) :
      Disk.ChangesOnly (store.places w) w.disk disk :=
    (Disk.changesOnly_replace h).mono (by simp [places, Workspace.placeOf])
  rcases save_cases store w c with ⟨e, -, hsave⟩ | ⟨disk, path, e, hdisk, -, -, hsave⟩ | ⟨disk, hdisk, h⟩
  · rw [hsave]
    exact .refl _ _
  · rw [hsave]
    exact ⟨rfl, rfl, hfile hdisk⟩
  · rcases h with ⟨-, hsave⟩ | ⟨path, disk', hmodule, hdisk', hsave⟩
    · rw [hsave]
      exact ⟨rfl, rfl, hfile hdisk⟩
    · rw [hsave]
      exact ⟨rfl, rfl,
        (hfile hdisk).trans ((Disk.changesOnly_replace hdisk').mono (by simp [places, Workspace.placeOf, hmodule]))⟩

/-- After writing the workspace is what it was, or the catalog is in its file. -/
theorem read_save (h : store.IsApart w) (c : Catalog) :
    (store.save w c).1 = w ∧ (store.save w c).2 ≠ none ∨
      (store.save w c).1.read store.file = .ok (bytesOf (c.fileText store.sorted)) := by
  rcases save_cases store w c with ⟨e, -, hsave⟩ | ⟨disk, path, e, hdisk, -, -, hsave⟩ | ⟨disk, hdisk, hrest⟩
  · rw [hsave]
    exact .inl ⟨rfl, by simp⟩
  · rw [hsave]
    exact .inr (Disk.read_replace hdisk)
  · rcases hrest with ⟨-, hsave⟩ | ⟨path, disk', hmodule, hdisk', hsave⟩
    · rw [hsave]
      exact .inr (Disk.read_replace hdisk)
    · rw [hsave]
      refine .inr ((Disk.changesOnly_replace hdisk').read ?_ (Disk.read_replace hdisk))
      rw [List.mem_singleton]
      exact Ne.symm (h path hmodule)

/-- Without a failure both files are written. -/
theorem read_of_save_none (h : store.IsApart w) {c : Catalog} {w' : Workspace} (hsave : store.save w c = (w', none)) :
    w'.read store.file = .ok (bytesOf (c.fileText store.sorted)) ∧
      ∀ path, store.module = some path → w'.read path = .ok (bytesOf (c.moduleText store.sorted)) := by
  refine ⟨?_, ?_⟩
  · rcases read_save h c with ⟨-, hfailure⟩ | hread
    · exact absurd (by rw [hsave]) hfailure
    · rwa [hsave] at hread
  · intro path hpath
    rcases save_cases store w c with ⟨e, -, hcase⟩ | ⟨disk, path', e, -, -, -, hcase⟩ | ⟨disk, hdisk, hrest⟩
    · exact absurd (hsave.symm.trans hcase) (by simp)
    · exact absurd (hsave.symm.trans hcase) (by simp)
    · rcases hrest with ⟨hmodule, -⟩ | ⟨path', disk', hmodule, hdisk', hcase⟩
      · exact absurd (hpath.symm.trans hmodule) (by simp)
      · obtain rfl : path' = path := Option.some.inj (hmodule.symm.trans hpath)
        rw [hsave, Prod.mk.injEq] at hcase
        rw [hcase.1]
        exact Disk.read_replace hdisk'

/-- What is in its file is what a store reads. -/
theorem load_of_read_fileText {c : Catalog} (hc : c.IsSound)
    (h : w.read store.file = .ok (bytesOf (c.fileText store.sorted))) :
    store.load w = .ok ⟨c.arranged store.sorted, []⟩ :=
  load_of_read h (Catalog.ofBytes_fileText w.room store.sorted hc)

/-- What was written without a failure is read. -/
theorem load_save (h : store.IsApart w) {c : Catalog} (hc : c.IsSound) {w' : Workspace}
    (hsave : store.save w c = (w', none)) : store.load w' = .ok ⟨c.arranged store.sorted, []⟩ :=
  load_of_read_fileText hc (read_of_save_none h hsave).1

end Phrasebook.CatalogStore
