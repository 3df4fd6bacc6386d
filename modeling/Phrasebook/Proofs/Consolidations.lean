import Phrasebook.Consolidation
import Phrasebook.Proofs.Merges
import Phrasebook.Proofs.Sinks
import Phrasebook.Proofs.Stores

/-!
# What a consolidation leaves

A consolidation reads the sink, takes the earlier catalog, and writes two files before it removes the sink. It is meant
to do all of this or nothing. It is not, in one case: the two files are written one after the other, so that a failure of
the second finds the first changed (`IsTorn`). In all other cases the consolidation is all or nothing.

Results:
1. `run_cases`: the ways in which a consolidation ends.
2. `ran_of_canPublish`: it runs where it can read the sink and write both files.
3. `allOrNothing_iff_not_isTorn`: it is all or nothing unless it is torn, and leaves no other file behind.
-/

namespace Phrasebook.Consolidation

variable {c : Consolidation} {w : Workspace}

/-! ## 1. Files -/

/-- The sink, the catalog and the lookup module are different files. -/
structure IsApart (c : Consolidation) (w : Workspace) : Prop where
  store : c.store.IsApart w
  sink : w.placeOf c.sink ∉ c.store.places w

theorem IsApart.of_directory {w' : Workspace} (h : c.IsApart w) (hd : w'.directory = w.directory) : c.IsApart w' where
  store := h.store.of_directory hd
  sink := by
    rw [CatalogStore.places_of_directory hd, Workspace.placeOf_of_directory hd]
    exact h.sink

theorem IsApart.sink_ne_file (h : c.IsApart w) : w.placeOf c.sink ≠ w.placeOf c.store.file :=
  fun heq => h.sink (heq ▸ List.mem_cons_self)

theorem IsApart.sink_ne_module (h : c.IsApart w) {path : Path} (hpath : c.store.module = some path) :
    w.placeOf c.sink ≠ w.placeOf path := by
  intro heq
  refine h.sink ?_
  rw [CatalogStore.places, hpath, heq]
  exact List.mem_cons_of_mem _ List.mem_cons_self

/-- What changes the sink alone leaves the catalog and the lookup module. -/
theorem IsApart.read_file {w' : Workspace} (h : c.IsApart w) (hchanges : Workspace.ChangesOnly [w.placeOf c.sink] w w')
    {content : Bytes} (hread : w.read c.store.file = .ok content) : w'.read c.store.file = .ok content :=
  hchanges.read (by simpa using Ne.symm h.sink_ne_file) hread

theorem IsApart.read_module {w' : Workspace} (h : c.IsApart w) (hchanges : Workspace.ChangesOnly [w.placeOf c.sink] w w')
    {path : Path} (hpath : c.store.module = some path) {content : Bytes} (hread : w.read path = .ok content) :
    w'.read path = .ok content :=
  hchanges.read (by simpa using Ne.symm (h.sink_ne_module hpath)) hread

/-- The place of a catalog that was set aside. -/
def asidePlace (c : Consolidation) (w : Workspace) : Place := w.placeOf (setAsideName c.store.file)

def merged (c : Consolidation) (w : Workspace) (log : Record.Log) : Catalog :=
  Merge.catalog log.records (c.prior w).1.catalog c.prune

/-- The earlier catalog is not nested too deep, and no part of it that cannot be written again is in the merged one. -/
def IsWritable (c : Consolidation) (w : Workspace) (log : Record.Log) : Prop :=
  c.store.isTooDeep w = false ∧ (c.prior w).1.damage.any (survives log.records (c.merged w log)) = false

/-! ## 2. The earlier catalog -/

/-- The earlier catalog is what is read, and nothing changes, or it cannot be read: then it may be set aside. -/
theorem prior_cases (c : Consolidation) (w : Workspace) :
    (∃ loaded, c.store.load w = .ok loaded ∧ c.prior w = (loaded, w)) ∨
      (∃ failure, c.store.load w = .error failure ∧ (c.prior w).1 = ⟨[], []⟩ ∧
        (c.prior w).2.directory = w.directory ∧
          ((∃ disk, w.disk.rename (w.absolute c.store.file) (w.absolute (setAsideName c.store.file)) = .ok disk ∧
              (c.prior w).2.disk = disk) ∨
            (∃ e, w.disk.rename (w.absolute c.store.file) (w.absolute (setAsideName c.store.file)) = .error e ∧
              (c.prior w).2.disk = w.disk))) := by
  rw [prior]
  cases c.store.load w with
  | ok loaded => exact .inl ⟨loaded, rfl, rfl⟩
  | error failure =>
    refine .inr ⟨failure, rfl, rfl, ?_⟩
    dsimp only
    rw [Workspace.onDisk]
    cases hrename : w.disk.rename (w.absolute c.store.file) (w.absolute (setAsideName c.store.file)) with
    | ok disk => exact ⟨rfl, .inl ⟨disk, rfl, rfl⟩⟩
    | error e => exact ⟨rfl, .inr ⟨e, rfl, rfl⟩⟩

theorem room_prior (c : Consolidation) (w : Workspace) : (c.prior w).2.room = w.room := by
  rw [prior]
  split
  · rfl
  · dsimp only
    split
    · rename_i hrename
      have hroom := Workspace.room_of_onDisk hrename
      exact hroom
    · rfl

theorem changesOnly_prior (c : Consolidation) (w : Workspace) :
    Workspace.ChangesOnly [w.placeOf c.store.file, c.asidePlace w] w (c.prior w).2 := by
  rcases prior_cases c w with ⟨loaded, -, hprior⟩ | ⟨failure, -, -, hdirectory, hdisk⟩
  · rw [hprior]
    exact .refl _ _
  · refine ⟨hdirectory, room_prior c w, ?_⟩
    rcases hdisk with ⟨disk, hrename, hdisk⟩ | ⟨e, -, hdisk⟩
    · rw [hdisk]
      exact Disk.changesOnly_rename hrename
    · rw [hdisk]
      exact .refl _ _

/-- Events do not matter to what is read. -/
theorem prior_logAll (c : Consolidation) (w : Workspace) (es : List Event) :
    (c.prior (w.logAll es)).1 = (c.prior w).1 ∧ (c.prior (w.logAll es)).2.disk = (c.prior w).2.disk ∧
      (c.prior (w.logAll es)).2.directory = (c.prior w).2.directory := by
  have hload : c.store.load (w.logAll es) = c.store.load w := rfl
  rw [prior, prior, hload]
  cases c.store.load w with
  | ok loaded => exact ⟨rfl, rfl, rfl⟩
  | error failure =>
    refine ⟨rfl, ?_⟩
    dsimp only
    rw [Workspace.onDisk, Workspace.onDisk]
    have hrename : (w.logAll es).disk.rename ((w.logAll es).absolute c.store.file)
        ((w.logAll es).absolute (setAsideName c.store.file)) =
          w.disk.rename (w.absolute c.store.file) (w.absolute (setAsideName c.store.file)) := rfl
    rw [hrename]
    cases w.disk.rename (w.absolute c.store.file) (w.absolute (setAsideName c.store.file)) with
    | ok disk => exact ⟨rfl, rfl⟩
    | error e => exact ⟨rfl, rfl⟩

/-! ## 3. Running -/

/-- What a consolidation has before it writes: the sink was read, and what it will write can be written. -/
structure IsReady (c : Consolidation) (w : Workspace) (log : Record.Log) : Prop where
  isFile : w.isFile c.sink = true
  read : Sink.read w c.sink = .ok log
  writable : c.IsWritable w log

/-- The bytes of the catalog that a consolidation writes. -/
def catalogBytes (c : Consolidation) (w : Workspace) (log : Record.Log) : Bytes :=
  CatalogStore.bytesOf ((c.merged w log).fileText c.store.sorted)

/-- The bytes of the lookup module that a consolidation writes. -/
def moduleBytes (c : Consolidation) (w : Workspace) (log : Record.Log) : Bytes :=
  CatalogStore.bytesOf ((c.merged w log).moduleText c.store.sorted)

/-- A consolidation that has nothing to write changes no file. -/
theorem run_of_not_isReady (h : ∀ log, ¬ c.IsReady w log) :
    (c.run w).1.ran = false ∧ (c.run w).2.disk = w.disk ∧ (c.run w).2.directory = w.directory ∧
      (c.run w).2.room = w.room := by
  rw [run]
  split
  · rename_i hfile
    split
    · rename_i log hread
      have htooDeep : c.store.isTooDeep (w.logAll
          (log.failures.map fun f => .warning "Skipping corrupt sink line" f.details)) = c.store.isTooDeep w := rfl
      rw [mergeLog]
      dsimp only
      rw [htooDeep]
      by_cases hdeep : c.store.isTooDeep w = true
      · rw [if_pos hdeep]
        exact ⟨rfl, rfl, rfl, rfl⟩
      · have hdamage : (c.prior w).1.damage.any (survives log.records (c.merged w log)) = true := by
          rw [← Bool.not_eq_false]
          exact fun hwritable => h log ⟨hfile, hread, by simpa using hdeep, hwritable⟩
        obtain ⟨hloaded, hdisk, hdirectory⟩ :=
          prior_logAll c w (log.failures.map fun f => .warning "Skipping corrupt sink line" f.details)
        rw [if_neg hdeep, hloaded, ← merged, if_pos hdamage]
        refine ⟨rfl, ?_⟩
        -- only a catalog that was read can be damaged, and then nothing was set aside
        rcases prior_cases c w with ⟨loaded, -, hprior⟩ | ⟨failure, -, hempty, -⟩
        · rw [hprior] at hdisk hdirectory
          exact ⟨hdisk, hdirectory, room_prior c _⟩
        · rw [hempty] at hdamage
          exact absurd hdamage (by simp)
    · exact ⟨rfl, rfl, rfl, rfl⟩
  · exact ⟨rfl, rfl, rfl, rfl⟩

/-- A consolidation that has something to write is the publication of the merged catalog. -/
theorem run_of_isReady {log : Record.Log} (h : c.IsReady w log) :
    ∃ w' report, report.ran = true ∧ w'.disk = (c.prior w).2.disk ∧ w'.directory = w.directory ∧ w'.room = w.room ∧
      c.run w = c.publish w' (c.merged w log) report := by
  obtain ⟨hloaded, hdisk, hdirectory⟩ :=
    prior_logAll c w (log.failures.map fun f => .warning "Skipping corrupt sink line" f.details)
  obtain ⟨hshallow, hwritable⟩ := h.writable
  have htooDeep : c.store.isTooDeep (w.logAll
      (log.failures.map fun f => .warning "Skipping corrupt sink line" f.details)) = c.store.isTooDeep w := rfl
  rw [run, if_pos h.isFile, h.read]
  dsimp only
  rw [mergeLog]
  dsimp only
  rw [htooDeep, if_neg (by simp [hshallow]), hloaded, ← merged, if_neg (by simp [hwritable])]
  exact ⟨_, _, rfl, hdisk, hdirectory.trans (changesOnly_prior c w).directory, room_prior c _, rfl⟩

/-! ## 4. All or nothing -/

/-- Both files hold the merged catalog, and the sink is gone. -/
def IsPublished (c : Consolidation) (w w' : Workspace) : Prop :=
  ∃ log, c.IsReady w log ∧ w'.content? c.store.file = some (c.catalogBytes w log) ∧
    (∀ path, c.store.module = some path → w'.content? path = some (c.moduleBytes w log)) ∧ w'.holds c.sink = false

/-- The three files are as they were. -/
structure IsUntouched (c : Consolidation) (w w' : Workspace) : Prop where
  catalog : w'.content? c.store.file = w.content? c.store.file
  module : ∀ path, c.store.module = some path → w'.content? path = w.content? path
  sink : w'.content? c.sink = w.content? c.sink

/-- A consolidation has run and published its result, or it has not and nothing has changed. -/
def AllOrNothing (c : Consolidation) (w : Workspace) : Prop :=
  (c.run w).1.ran = true ∧ c.IsPublished w (c.run w).2 ∨ (c.run w).1.ran = false ∧ c.IsUntouched w (c.run w).2

/-- A catalog with new content can be written, but the lookup module cannot be written after it. -/
def IsTorn (c : Consolidation) (w : Workspace) : Prop :=
  ∃ log, c.IsReady w log ∧ ∃ disk path e,
    (c.prior w).2.disk.replace (w.absolute c.store.file) (c.catalogBytes w log) = .ok disk ∧
      c.store.module = some path ∧ disk.replace (w.absolute path) (c.moduleBytes w log) = .error e ∧
        w.content? c.store.file ≠ some (c.catalogBytes w log)

theorem isSound_prior (c : Consolidation) (w : Workspace) : (c.prior w).1.catalog.IsSound := by
  rcases prior_cases c w with ⟨loaded, hload, hprior⟩ | ⟨failure, -, hempty, -⟩
  · rw [hprior]
    exact CatalogStore.isSound_of_load hload
  · rw [hempty]
    exact Catalog.isSound_nil

/-- The records that are read from a sink have keys. -/
theorem key_ne_of_read {log : Record.Log} (h : Sink.read w c.sink = .ok log) : ∀ r ∈ log.records, r.key ≠ "" := by
  rw [Sink.read] at h
  split at h
  · rw [Except.ok.injEq] at h
    rw [← h]
    exact fun r hr => (Record.isCanonical_of_mem_ofLog r hr).key_ne
  · exact absurd h (by simp)

theorem isSound_merged {log : Record.Log} (h : Sink.read w c.sink = .ok log) : (c.merged w log).IsSound :=
  Merge.isSound_catalog (isSound_prior c w) (key_ne_of_read h)

theorem isUntouched_of_disk {w' : Workspace} (hdisk : w'.disk = w.disk) (hdirectory : w'.directory = w.directory) :
    c.IsUntouched w w' := by
  have hcontent : ∀ p, w'.content? p = w.content? p := by
    intro p
    rw [Workspace.content?, Workspace.content?, Workspace.read_congr hdisk hdirectory]
  exact ⟨hcontent _, fun path _ => hcontent path, hcontent _⟩

/-- What is in the file of the catalog can be written: the earlier catalog is there, or was set aside just now. -/
theorem replace_prior (htree : w.disk.IsTree) {content : Bytes} (hread : w.read c.store.file = .ok content)
    (bytes : Bytes) : ∃ disk, (c.prior w).2.disk.replace (w.absolute c.store.file) bytes = .ok disk := by
  obtain ⟨hlocate, hat⟩ := Disk.read_eq_ok_iff.mp hread
  have hparent := htree _ _ hat
  have hchanges := (changesOnly_prior c w).disk
  refine Disk.replace_of_locate (hchanges.locate hlocate) (hchanges.directory _ hparent) ?_ bytes
  rcases prior_cases c w with ⟨loaded, -, hprior⟩ | ⟨failure, -, -, -, hdisk⟩
  · rw [hprior]
    dsimp only
    rw [hat]
    simp
  · rcases hdisk with ⟨disk, hrename, hdisk⟩ | ⟨e, -, hdisk⟩
    · rw [hdisk]
      intro hdirectory
      have hfind : disk.find (w.absolute c.store.file) = .ok .directory :=
        Disk.find_eq_ok_iff.mpr ⟨(Disk.changesOnly_rename hrename).locate hlocate, hdirectory⟩
      exact absurd (hfind.symm.trans (Disk.find_rename hrename)) (by simp)
    · rw [hdisk, hat]
      simp

/-- A lookup module that could not be written is no file, neither before nor after the catalog was written. -/
theorem content?_module (htree : w.disk.IsTree) {disk : Disk} {path : Path} {e : DiskError} {bytes content : Bytes}
    (hplace : w.placeOf path ≠ w.placeOf c.store.file)
    (hcatalog : w.disk.replace (w.absolute c.store.file) bytes = .ok disk)
    (hmodule : disk.replace (w.absolute path) content = .error e) :
    w.content? path = none ∧ ∀ more, disk.read (w.absolute path) ≠ .ok more := by
  have hchanges := Disk.changesOnly_replace hcatalog
  have hnot : w.placeOf path ∉ [Disk.placeOf (w.absolute c.store.file)] := by
    rw [List.mem_singleton]
    exact hplace
  have hafter : ∀ more, disk.read (w.absolute path) ≠ .ok more := by
    intro more hread
    obtain ⟨hlocate, hat⟩ := Disk.read_eq_ok_iff.mp hread
    have hparent := hchanges.directory _ (htree _ _ (hchanges.noNew _ _ hnot hat))
    obtain ⟨disk', hreplace⟩ := Disk.replace_of_locate hlocate hparent (by rw [hat]; simp) content
    exact absurd (hmodule.symm.trans hreplace) (by simp)
  refine ⟨?_, hafter⟩
  rw [Workspace.content?_eq_none_iff]
  exact fun more hread => hafter more (hchanges.read hnot hread)

/-- The sink is still there when the earlier catalog has been taken. -/
theorem read_sink_prior (h : c.IsApart w) {content : Bytes} (hread : w.read c.sink = .ok content) :
    ∃ content', (c.prior w).2.read c.sink = .ok content' := by
  have hchanges := changesOnly_prior c w
  have hfile := h.sink_ne_file
  by_cases haside : w.placeOf c.sink = c.asidePlace w
  · -- then the catalog may have been put in place of the sink, which leaves a file there
    rcases prior_cases c w with ⟨loaded, -, hprior⟩ | ⟨failure, -, -, hdirectory, hdisk⟩
    · rw [hprior]
      exact ⟨content, hread⟩
    · rw [Workspace.read, hchanges.absolute]
      rcases hdisk with ⟨disk, hrename, hdisk⟩ | ⟨e, -, hdisk⟩
      · obtain ⟨content', -, hread'⟩ := Disk.read_rename hrename (fun heq => hfile (haside.trans heq))
        refine ⟨content', Disk.read_eq_ok_iff.mpr ⟨hchanges.disk.locate (Disk.read_eq_ok_iff.mp hread).1, ?_⟩⟩
        have hplace : Disk.placeOf (w.absolute c.sink) = Disk.placeOf (w.absolute (setAsideName c.store.file)) := haside
        rw [hdisk, hplace]
        exact (Disk.read_eq_ok_iff.mp hread').2
      · rw [hdisk]
        exact ⟨content, hread⟩
  · exact ⟨content, hchanges.read (by simp [hfile, haside]) hread⟩

theorem read_of_isReady {log : Record.Log} (h : c.IsReady w log) : ∃ content, w.read c.sink = .ok content :=
  Workspace.isFile_iff.mp h.isFile

/-- Where the catalog was written without a failure, it is published, and nothing is left of the sink. -/
theorem publish_of_save_none {w₂ : Workspace} {merged : Catalog} {content : Bytes} (h : c.IsApart w)
    (hsink : w.read c.sink = .ok content) (hsave : c.store.save w merged = (w₂, none)) (report : Report) :
    (c.publish w merged report).1 = report ∧
      (c.publish w merged report).2.content? c.store.file =
        some (CatalogStore.bytesOf (merged.fileText c.store.sorted)) ∧
      (∀ path, c.store.module = some path → (c.publish w merged report).2.content? path =
        some (CatalogStore.bytesOf (merged.moduleText c.store.sorted))) ∧
      (c.publish w merged report).2.holds c.sink = false ∧
      (c.publish w merged report).2.disk.bytesAt (w.placeOf c.sink) = [] := by
  obtain ⟨hcatalog, hmodule⟩ := CatalogStore.read_of_save_none h.store hsave
  have hsaved := CatalogStore.changesOnly_save c.store w merged
  rw [hsave] at hsaved
  obtain ⟨w₃, hclear, hcleared, hgone, hempty⟩ := Sink.clear_of_read (hsaved.read h.sink hsink)
  have hapart := h.of_directory hsaved.directory
  rw [publish, hsave]
  dsimp only
  rw [hclear]
  refine ⟨rfl, ?_, fun path hpath => ?_, hgone, ?_⟩
  · exact Workspace.content?_eq_some_iff.mpr (hapart.read_file hcleared hcatalog)
  · exact Workspace.content?_eq_some_iff.mpr (hapart.read_module hcleared hpath (hmodule path hpath))
  · rwa [hsaved.placeOf] at hempty

/-- How a consolidation ends that has something to write: the catalog cannot be written, or the lookup module cannot, or
both are written. -/
theorem run_cases (h : c.IsApart w) {log : Record.Log} (hready : c.IsReady w log) :
    (∃ e, (c.prior w).2.disk.replace (w.absolute c.store.file) (c.catalogBytes w log) = .error e ∧
      (c.run w).1.ran = false ∧ (c.run w).2.disk = (c.prior w).2.disk ∧ (c.run w).2.directory = w.directory) ∨
    (∃ disk path e, (c.prior w).2.disk.replace (w.absolute c.store.file) (c.catalogBytes w log) = .ok disk ∧
      c.store.module = some path ∧ disk.replace (w.absolute path) (c.moduleBytes w log) = .error e ∧
      (c.run w).1.ran = false ∧ (c.run w).2.disk = disk ∧ (c.run w).2.directory = w.directory) ∨
    ((∃ disk, (c.prior w).2.disk.replace (w.absolute c.store.file) (c.catalogBytes w log) = .ok disk ∧
        ∀ path, c.store.module = some path →
          ∃ disk', disk.replace (w.absolute path) (c.moduleBytes w log) = .ok disk') ∧
      (c.run w).1.ran = true ∧ c.IsPublished w (c.run w).2 ∧ (c.run w).2.disk.bytesAt (w.placeOf c.sink) = []) := by
  obtain ⟨w₁, report, hran, hdisk, hdirectory, -, hrun⟩ := run_of_isReady hready
  have habsolute := Workspace.absolute_of_directory hdirectory
  have hcases := CatalogStore.save_cases c.store w₁ (c.merged w log)
  simp only [hdisk, habsolute] at hcases
  simp only [catalogBytes, moduleBytes]
  rw [hrun]
  rcases hcases with ⟨e, hfile, hsave⟩ | ⟨disk, path, e, hfile, hmodule, hpath, hsave⟩ | ⟨disk, hfile, hrest⟩
  · rw [publish, hsave]
    exact .inl ⟨e, hfile, rfl, hdisk, hdirectory⟩
  · rw [publish, hsave]
    exact .inr (.inl ⟨disk, path, e, hfile, hmodule, hpath, rfl, rfl, hdirectory⟩)
  · refine .inr (.inr ⟨⟨disk, hfile, ?_⟩, ?_⟩)
    · rintro path hpath
      rcases hrest with ⟨hmodule, -⟩ | ⟨path', disk', hmodule, hdisk', -⟩
      · exact absurd (hpath.symm.trans hmodule) (by simp)
      · rw [hpath, Option.some.injEq] at hmodule
        exact ⟨disk', hmodule ▸ hdisk'⟩
    · obtain ⟨w₂, hsave⟩ : ∃ w₂, c.store.save w₁ (c.merged w log) = (w₂, none) := by
        rcases hrest with ⟨-, hsave⟩ | ⟨path, disk', -, -, hsave⟩
        · exact ⟨_, hsave⟩
        · exact ⟨_, hsave⟩
      obtain ⟨content, hsink⟩ := read_of_isReady hready
      obtain ⟨content, hsink⟩ := read_sink_prior h hsink
      have hsink₁ : w₁.read c.sink = .ok content := by
        rw [Workspace.read, (changesOnly_prior c w).absolute] at hsink
        rw [Workspace.read, hdisk, habsolute, hsink]
      obtain ⟨hreport, hcatalog, hmodule, hgone, hempty⟩ :=
        publish_of_save_none (h.of_directory hdirectory) hsink₁ hsave report
      rw [Workspace.placeOf_of_directory hdirectory] at hempty
      exact ⟨by rw [hreport, hran], ⟨log, hready, hcatalog, hmodule, hgone⟩, hempty⟩

/-- A consolidation that has run has published its result, and nothing is left of the sink. -/
theorem isPublished_of_ran (h : c.IsApart w) (hran : (c.run w).1.ran = true) :
    c.IsPublished w (c.run w).2 ∧ (c.run w).2.disk.bytesAt (w.placeOf c.sink) = [] := by
  by_cases hready : ∃ log, c.IsReady w log
  · obtain ⟨log, hready⟩ := hready
    rcases run_cases h hready with ⟨e, -, hnot, -⟩ | ⟨disk, path, e, -, -, -, hnot, -⟩ | ⟨-, -, hpublished⟩
    · exact absurd (hnot.symm.trans hran) (by simp)
    · exact absurd (hnot.symm.trans hran) (by simp)
    · exact hpublished
  · have hnot := (run_of_not_isReady (not_exists.mp hready)).1
    exact absurd (hnot.symm.trans hran) (by simp)

/-- Both files can be written with what a consolidation of a log writes to them. -/
def CanWrite (c : Consolidation) (w : Workspace) (log : Record.Log) : Prop :=
  ∃ disk, (c.prior w).2.disk.replace (w.absolute c.store.file) (c.catalogBytes w log) = .ok disk ∧
    ∀ path, c.store.module = some path → ∃ disk', disk.replace (w.absolute path) (c.moduleBytes w log) = .ok disk'

/-- A consolidation that has something to write and can write it runs. -/
theorem ran_of_canWrite (h : c.IsApart w) {log : Record.Log} (hready : c.IsReady w log) (hwrite : c.CanWrite w log) :
    (c.run w).1.ran = true := by
  obtain ⟨disk, hcatalog, hmodule⟩ := hwrite
  rcases run_cases h hready with ⟨e, hfailed, -⟩ | ⟨disk', path, e, hwritten, hpath, hfailed, -⟩ | ⟨-, hran, -⟩
  · exact absurd (hfailed.symm.trans hcatalog) (by simp)
  · obtain rfl := Except.ok.inj (hwritten.symm.trans hcatalog)
    obtain ⟨disk'', hmodule⟩ := hmodule path hpath
    exact absurd (hfailed.symm.trans hmodule) (by simp)
  · exact hran

/-- Whatever a consolidation reads in the sink, it can write what it merges. -/
def CanPublish (c : Consolidation) (w : Workspace) : Prop :=
  ∀ log, Sink.read w c.sink = .ok log → c.IsWritable w log ∧ c.CanWrite w log

/-- A consolidation that can read its sink and can write runs. -/
theorem ran_of_canPublish (hapart : c.IsApart w) (h : c.CanPublish w) {content : Bytes}
    (hread : w.read c.sink = .ok content) : (c.run w).1.ran = true := by
  have hlog : Sink.read w c.sink = .ok (Record.ofLog content) := by rw [Sink.read, hread]
  obtain ⟨hwritable, hwrite⟩ := h _ hlog
  exact ran_of_canWrite hapart ⟨Workspace.isFile_of_read hread, hlog, hwritable⟩ hwrite

theorem canPublish_of_not_isFile (h : w.isFile c.sink = false) : c.CanPublish w := by
  intro log hlog
  rw [Sink.read] at hlog
  split at hlog
  · rename_i content hread
    exact absurd ((Workspace.isFile_of_read hread).symm.trans h) (by simp)
  · exact absurd hlog (by simp)

/-- The first catalog of a project can be written where its files can be reached and no directory is in their place. -/
theorem canPublish_of_first (hapart : c.IsApart w) (hfirst : w.isFile c.store.file = false)
    (hfree : ∀ path, path = c.store.file ∨ c.store.module = some path →
      w.disk.locate (w.absolute path) = .ok (w.placeOf path) ∧ w.disk.at? (w.placeOf path) ≠ some .directory) :
    c.CanPublish w := by
  intro log _
  have hload := CatalogStore.load_of_not_isFile hfirst
  have hprior : c.prior w = (⟨[], []⟩, w) := by rw [prior, hload]
  obtain ⟨hlocate, hnot⟩ := hfree _ (.inl rfl)
  have hcatalog := Disk.replace_eq_of_locate hlocate (Disk.at?_dropLast_of_locate hlocate) hnot (c.catalogBytes w log)
  rw [IsWritable, CanWrite, hprior, CatalogStore.isTooDeep, hload]
  refine ⟨⟨rfl, rfl⟩, _, hcatalog, fun path hpath => ?_⟩
  -- the catalog is at another place than the lookup module
  obtain ⟨hlocate, hnot'⟩ := hfree path (.inr hpath)
  have hlocate' := (Disk.changesOnly_replace hcatalog).locate hlocate
  refine Disk.replace_of_locate hlocate' (Disk.at?_dropLast_of_locate hlocate') ?_ _
  have hne : Disk.placeOf (w.absolute c.store.file) ≠ [] := fun hnil => hnot (by rw [Workspace.placeOf, hnil]; rfl)
  have hother : Disk.placeOf (w.absolute c.store.file) ≠ Disk.placeOf (w.absolute path) :=
    Ne.symm (hapart.store path hpath)
  rw [Disk.at?_put hne, if_neg hother]
  exact hnot'

theorem eq_of_isReady {log log' : Record.Log} (h : c.IsReady w log) (h' : c.IsReady w log') : log = log' :=
  Except.ok.inj (h.read.symm.trans h'.read)

/-- A consolidation that has not run leaves the sink as it was. -/
theorem bytesAt_run_of_not_ran (h : c.IsApart w) (haside : w.placeOf c.sink ≠ c.asidePlace w)
    (hran : (c.run w).1.ran = false) : (c.run w).2.disk.bytesAt (w.placeOf c.sink) = w.disk.bytesAt (w.placeOf c.sink) := by
  have hfile := h.sink_ne_file
  have hprior : (c.prior w).2.disk.bytesAt (w.placeOf c.sink) = w.disk.bytesAt (w.placeOf c.sink) :=
    (changesOnly_prior c w).disk.bytesAt (by simp [hfile, haside])
  by_cases hready : ∃ log, c.IsReady w log
  · obtain ⟨log, hready⟩ := hready
    rcases run_cases h hready with ⟨e, -, -, hdisk, -⟩ | ⟨disk, path, e, hwritten, -, -, -, hdisk, -⟩ | ⟨-, hnot, -⟩
    · rw [hdisk, hprior]
    · rw [hdisk, (Disk.changesOnly_replace hwritten).bytesAt (fun hmem => hfile (List.mem_singleton.mp hmem)), hprior]
    · exact absurd (hran.symm.trans hnot) (by simp)
  · rw [(run_of_not_isReady (not_exists.mp hready)).2.1]

def places (c : Consolidation) (w : Workspace) : List Place :=
  c.asidePlace w :: w.placeOf c.sink :: c.store.places w

/-- Publishing touches the sink, the catalog and the lookup module alone. -/
theorem changesOnly_publish (c : Consolidation) (w : Workspace) (merged : Catalog) (report : Report) :
    Workspace.ChangesOnly (w.placeOf c.sink :: c.store.places w) w (c.publish w merged report).2 := by
  have hsaved : Workspace.ChangesOnly (w.placeOf c.sink :: c.store.places w) w (c.store.save w merged).1 :=
    (CatalogStore.changesOnly_save c.store w merged).mono fun _ hplace => List.mem_cons_of_mem _ hplace
  rw [publish]
  split
  · rename_i w₂ failure hsave
    rw [hsave] at hsaved
    exact hsaved.log _
  · rename_i w₂ hsave
    rw [hsave] at hsaved
    split
    · rename_i w₃ hclear
      have hcleared := Sink.changesOnly_clear hclear
      rw [hsaved.placeOf] at hcleared
      exact (hsaved.trans (hcleared.mono (by simp))).log _
    · exact hsaved.log _

/-- Whatever happens, no other file is changed, made or left behind. -/
theorem changesOnly_run (c : Consolidation) (w : Workspace) : Workspace.ChangesOnly (c.places w) w (c.run w).2 := by
  by_cases hready : ∃ log, c.IsReady w log
  · obtain ⟨log, hready⟩ := hready
    obtain ⟨w₁, report, -, hdisk, hdirectory, hroom, hrun⟩ := run_of_isReady hready
    have hprior : Workspace.ChangesOnly (c.places w) w w₁ := by
      refine ⟨hdirectory, hroom, ?_⟩
      rw [hdisk]
      exact (changesOnly_prior c w).disk.mono (by simp [places, CatalogStore.places])
    have hpublished := changesOnly_publish c w₁ (c.merged w log) report
    rw [CatalogStore.places_of_directory hdirectory, Workspace.placeOf_of_directory hdirectory] at hpublished
    rw [hrun]
    exact hprior.trans (hpublished.mono fun place hplace => List.mem_cons_of_mem _ hplace)
  · obtain ⟨-, hdisk, hdirectory, hroom⟩ := run_of_not_isReady (not_exists.mp hready)
    exact ⟨hdirectory, hroom, hdisk ▸ .refl _ _⟩

/-- A consolidation publishes what it merges of a log, whether it has run or not. -/
structure Publishes (c : Consolidation) (w : Workspace) (log : Record.Log) : Prop where
  ready : c.IsReady w log
  catalog : (c.run w).2.content? c.store.file = some (c.catalogBytes w log)

/-- A store that could be read reads what was published, or else the same as before. -/
theorem load_run_cases (h : c.IsApart w) {loaded : Catalog.Loaded} (hload : c.store.load w = .ok loaded) :
    c.store.load (c.run w).2 = .ok loaded ∨
      ∃ log, c.Publishes w log ∧ c.merged w log = Merge.catalog log.records loaded.catalog c.prune ∧
        c.store.load (c.run w).2 = .ok ⟨(c.merged w log).arranged c.store.sorted, []⟩ := by
  have hprior : c.prior w = (loaded, w) := by rw [prior, hload]
  have hsame (hdisk : (c.run w).2.disk = w.disk) (hdirectory : (c.run w).2.directory = w.directory) :
      c.store.load (c.run w).2 = .ok loaded := by
    rw [← hload]
    exact CatalogStore.load_congr hdisk hdirectory (changesOnly_run c w).room
  by_cases hready : ∃ log, c.IsReady w log
  · obtain ⟨log, hready⟩ := hready
    have hmerged : c.merged w log = Merge.catalog log.records loaded.catalog c.prune := by rw [merged, hprior]
    have hpublished (hcatalog : (c.run w).2.content? c.store.file = some (c.catalogBytes w log)) :
        c.store.load (c.run w).2 = .ok ⟨(c.merged w log).arranged c.store.sorted, []⟩ :=
      CatalogStore.load_of_read_fileText (isSound_merged hready.read) (Workspace.content?_eq_some_iff.mp hcatalog)
    rcases run_cases h hready with ⟨e, -, -, hdisk, hdirectory⟩ |
      ⟨disk, path, e, hwritten, -, -, -, hdisk, hdirectory⟩ | ⟨-, -, ⟨log', hready', hcatalog, -⟩, -⟩
    · rw [hprior] at hdisk
      exact .inl (hsame hdisk hdirectory)
    · have hcatalog : (c.run w).2.content? c.store.file = some (c.catalogBytes w log) := by
        rw [Workspace.content?_eq_some_iff, Workspace.read, Workspace.absolute, hdirectory, hdisk]
        exact Disk.read_replace hwritten
      exact .inr ⟨log, ⟨hready, hcatalog⟩, hmerged, hpublished hcatalog⟩
    · obtain rfl := eq_of_isReady hready hready'
      exact .inr ⟨log, ⟨hready, hcatalog⟩, hmerged, hpublished hcatalog⟩
  · obtain ⟨-, hdisk, hdirectory, -⟩ := run_of_not_isReady (not_exists.mp hready)
    exact .inl (hsame hdisk hdirectory)

/-- A catalog that cannot be written is none that was there: nothing was set aside. -/
theorem isUntouched_of_replace_error (htree : w.disk.IsTree) {w' : Workspace} {e : DiskError} {bytes : Bytes}
    (hfile : (c.prior w).2.disk.replace (w.absolute c.store.file) bytes = .error e)
    (hdisk : w'.disk = (c.prior w).2.disk) (hdirectory : w'.directory = w.directory) : c.IsUntouched w w' := by
  rcases prior_cases c w with ⟨loaded, -, hprior⟩ | ⟨failure, hload, -⟩
  · rw [hprior] at hdisk
    exact isUntouched_of_disk hdisk hdirectory
  · obtain ⟨content, -, hread, -⟩ := CatalogStore.read_of_load_error hload
    obtain ⟨disk, hreplace⟩ := replace_prior htree hread bytes
    exact absurd (hfile.symm.trans hreplace) (by simp)

/-- A catalog that held what is written leaves all files as they were, also if the lookup module cannot be written. -/
theorem isUntouched_of_same_catalog (h : c.IsApart w) (htree : w.disk.IsTree) {log : Record.Log}
    (hready : c.IsReady w log) {w' : Workspace} {disk : Disk} {path : Path} {e : DiskError} {bytes : Bytes}
    (hsame : w.content? c.store.file = some (c.catalogBytes w log))
    (hfile : (c.prior w).2.disk.replace (w.absolute c.store.file) (c.catalogBytes w log) = .ok disk)
    (hmodule : c.store.module = some path) (hpath : disk.replace (w.absolute path) bytes = .error e)
    (hdisk : w'.disk = disk) (hdirectory : w'.directory = w.directory) : c.IsUntouched w w' := by
  -- what the catalog holds is sound, so it was not set aside
  have hload : c.store.load w = .ok ⟨(c.merged w log).arranged c.store.sorted, []⟩ :=
    CatalogStore.load_of_read_fileText (isSound_merged hready.read) (Workspace.content?_eq_some_iff.mp hsame)
  have hprior : (c.prior w).2 = w := by rw [prior, hload]
  rw [hprior] at hfile
  have habsolute := Workspace.absolute_of_directory hdirectory
  refine ⟨?_, ?_, ?_⟩
  · rw [hsame, Workspace.content?_eq_some_iff, Workspace.read, habsolute, hdisk]
    exact Disk.read_replace hfile
  · intro path' hpath'
    obtain rfl : path' = path := Option.some.inj (hpath'.symm.trans hmodule)
    obtain ⟨hbefore, hafter⟩ := content?_module htree (h.store path' hmodule) hfile hpath
    rw [hbefore, Workspace.content?_eq_none_iff, Workspace.read, habsolute, hdisk]
    exact hafter
  · obtain ⟨content, hsink⟩ := read_of_isReady hready
    have hplace : w.placeOf c.sink ∉ [w.placeOf c.store.file] := by
      rw [List.mem_singleton]
      exact h.sink_ne_file
    rw [Workspace.content?_eq_some_iff.mpr hsink, Workspace.content?_eq_some_iff, Workspace.read, habsolute, hdisk]
    exact (Disk.changesOnly_replace hfile).read hplace hsink

/-- A consolidation is all or nothing unless it is torn: a lookup module that cannot be written leaves a catalog that was
written before it. In every case it leaves no other file behind. -/
theorem allOrNothing_iff_not_isTorn (h : c.IsApart w) (htree : w.disk.IsTree) :
    (c.AllOrNothing w ↔ ¬ c.IsTorn w) ∧ Workspace.ChangesOnly (c.places w) w (c.run w).2 := by
  refine ⟨?_, changesOnly_run c w⟩
  by_cases hready : ∃ log, c.IsReady w log
  · obtain ⟨log, hready⟩ := hready
    rcases run_cases h hready with ⟨e, hfile, hran, hdisk, hdirectory⟩ |
      ⟨disk, path, e, hfile, hmodule, hpath, hran, hdisk, hdirectory⟩ | ⟨⟨disk, hfile, hmodule⟩, hran, hpublished, -⟩
    · refine ⟨?_, fun _ => .inr ⟨hran, isUntouched_of_replace_error htree hfile hdisk hdirectory⟩⟩
      rintro - ⟨log', hready', disk, path, e', hfile', -⟩
      obtain rfl := eq_of_isReady hready hready'
      exact absurd (hfile.symm.trans hfile') (by simp)
    · by_cases hsame : w.content? c.store.file = some (c.catalogBytes w log)
      · refine ⟨?_, fun _ => .inr ⟨hran,
          isUntouched_of_same_catalog h htree hready hsame hfile hmodule hpath hdisk hdirectory⟩⟩
        rintro - ⟨log', hready', -, -, -, -, -, -, hdiffers⟩
        obtain rfl := eq_of_isReady hready hready'
        exact hdiffers hsame
      · refine ⟨?_, fun hnot => absurd ⟨log, hready, disk, path, e, hfile, hmodule, hpath, hsame⟩ hnot⟩
        rintro (⟨hran', -⟩ | ⟨-, huntouched⟩)
        · exact absurd (hran.symm.trans hran') (by simp)
        · have hafter : (c.run w).2.content? c.store.file = some (c.catalogBytes w log) := by
            rw [Workspace.content?_eq_some_iff, Workspace.read, Workspace.absolute, hdirectory, hdisk]
            exact Disk.read_replace hfile
          exact absurd (huntouched.catalog.symm.trans hafter) hsame
    · refine ⟨?_, fun _ => .inl ⟨hran, hpublished⟩⟩
      rintro - ⟨log', hready', disk₂, path, e, hfile', hpath, hfailed, -⟩
      obtain rfl := eq_of_isReady hready hready'
      obtain rfl : disk = disk₂ := Except.ok.inj (hfile.symm.trans hfile')
      obtain ⟨disk', hwritten⟩ := hmodule path hpath
      exact absurd (hfailed.symm.trans hwritten) (by simp)
  · obtain ⟨hran, hdisk, hdirectory, -⟩ := run_of_not_isReady (not_exists.mp hready)
    refine ⟨fun _ => ?_, fun _ => .inr ⟨hran, isUntouched_of_disk hdisk hdirectory⟩⟩
    rintro ⟨log, hlog, -⟩
    exact hready ⟨log, hlog⟩

/-! ## 5. Names

The files of a project that has them under their standard names are different files, by their names. -/

theorem getLast?_sinkPath {settings : Settings} (hsink : settings.sinkFilename = Settings.standard.sinkFilename)
    (root : Path) (w : Workspace) : (w.placeOf (settings.sinkPath root)).getLast? = some ".text-extraction.tmp" := by
  rw [Settings.sinkPath, hsink]
  exact Workspace.getLast?_placeOf_join w root (by decide) (by decide)

theorem getLast?_catalogFile {settings : Settings} (hcatalog : settings.catalogPath = Settings.standard.catalogPath)
    (root : Path) (w : Workspace) :
    (w.placeOf (settings.catalogFile root)).getLast? = some "extracted-strings.json" := by
  rw [Settings.catalogFile, hcatalog]
  exact Workspace.getLast?_placeOf_join w root (by decide) (by decide)

theorem getLast?_lookupModuleFile {settings : Settings}
    (hmodule : settings.lookupModulePath = Settings.standard.lookupModulePath) (root : Path) (w : Workspace) :
    (w.placeOf (settings.lookupModuleFile root)).getLast? = some "extracted-strings.js" := by
  rw [Settings.lookupModuleFile, hmodule]
  exact Workspace.getLast?_placeOf_join w root (by decide) (by decide)

theorem isApart_ofProject {settings : Settings} (hsink : settings.sinkFilename = Settings.standard.sinkFilename)
    (hcatalog : settings.catalogPath = Settings.standard.catalogPath)
    (hmodule : settings.lookupModulePath = Settings.standard.lookupModulePath) (root : Path) (w : Workspace) :
    (ofProject settings root).IsApart w := by
  have hsink' := getLast?_sinkPath hsink root w
  have hcatalog' := getLast?_catalogFile hcatalog root w
  have hmodule' := getLast?_lookupModuleFile hmodule root w
  refine ⟨?_, ?_⟩
  · rintro path ⟨⟩ heq
    have heq : w.placeOf (settings.lookupModuleFile root) = w.placeOf (settings.catalogFile root) := heq
    rw [heq, hcatalog'] at hmodule'
    exact absurd hmodule' (by decide)
  · intro hmem
    rcases List.mem_cons.mp hmem with heq | hmem
    · have heq : w.placeOf (settings.sinkPath root) = w.placeOf (settings.catalogFile root) := heq
      rw [heq, hcatalog'] at hsink'
      exact absurd hsink' (by decide)
    · have heq : w.placeOf (settings.sinkPath root) = w.placeOf (settings.lookupModuleFile root) :=
        List.mem_singleton.mp hmem
      rw [heq, hmodule'] at hsink'
      exact absurd hsink' (by decide)

theorem getLast?_asidePlace {settings : Settings} (hcatalog : settings.catalogPath = Settings.standard.catalogPath)
    (root : Path) (w : Workspace) :
    ((ofProject settings root).asidePlace w).getLast? = some "extracted-strings.json.corrupt" := by
  have hname : (settings.catalogFile root).name = "extracted-strings.json" := by
    have hpath : Path.ofString Settings.standard.catalogPath = (Path.ofString ".next").child "extracted-strings.json" := by
      decide
    rw [Settings.catalogFile, hcatalog, hpath, Workspace.join_child, Path.name, Path.child, List.getLast?_concat,
      Option.getD_some]
  rw [asidePlace, setAsideName, Path.withName, Workspace.placeOf_child w _ ?_, List.getLast?_concat]
  · exact congrArg (fun name => some (name ++ ".corrupt")) hname
  · show (settings.catalogFile root).name ++ ".corrupt" ≠ ".."
    rw [hname]
    decide

/-- A catalog is not set aside where the sink is. -/
theorem placeOf_sink_ne_asidePlace {settings : Settings}
    (hsink : settings.sinkFilename = Settings.standard.sinkFilename)
    (hcatalog : settings.catalogPath = Settings.standard.catalogPath) (root : Path) (w : Workspace) :
    w.placeOf (settings.sinkPath root) ≠ (ofProject settings root).asidePlace w := by
  intro heq
  have hlast := getLast?_sinkPath hsink root w
  rw [heq, getLast?_asidePlace hcatalog] at hlast
  exact absurd hlast (by decide)

/-- The sink of another project is none of the files that a consolidation touches. -/
theorem not_mem_places {settings : Settings} (hcatalog : settings.catalogPath = Settings.standard.catalogPath)
    (hmodule : settings.lookupModulePath = Settings.standard.lookupModulePath) {root : Path} {w : Workspace} {sink : Place}
    (hlast : sink.getLast? = some ".text-extraction.tmp") (hother : sink ≠ w.placeOf (settings.sinkPath root)) :
    sink ∉ (ofProject settings root).places w := by
  have hnot : ∀ place name, place.getLast? = some name → name ≠ ".text-extraction.tmp" → sink ≠ place := by
    rintro _ name hname hne rfl
    exact hne (Option.some.inj (hname.symm.trans hlast))
  intro hmem
  rcases List.mem_cons.mp hmem with heq | hmem
  · exact hnot _ _ (getLast?_asidePlace hcatalog root w) (by decide) heq
  rcases List.mem_cons.mp hmem with heq | hmem
  · exact hother heq
  rcases List.mem_cons.mp hmem with heq | hmem
  · exact hnot _ _ (getLast?_catalogFile hcatalog root w) (by decide) heq
  · exact hnot _ _ (getLast?_lookupModuleFile hmodule root w) (by decide) (List.mem_singleton.mp hmem)

/-! A directory stands where the lookup module belongs: the catalog is written, and the consolidation has not run. -/

namespace Sample

def record : Record := Record.make "Hi" "k" [] ⟨"a.jsx", "A", "p"⟩ none

/-- The consolidation of a project at the root. -/
def consolidation : Consolidation := ofProject Settings.standard ⟨"/", []⟩

/-- A workspace with a directory in place of the lookup module. -/
def blocked : Workspace where
  disk := [([".next"], .directory), ([".next", "extracted-strings.js"], .directory),
    ([".text-extraction.tmp"], .file (Record.linesBytes [record]))]
  directory := ⟨"/", []⟩
  events := []

def log : Record.Log := ⟨[record], []⟩

theorem isApart_blocked : consolidation.IsApart blocked where
  store := by rintro path ⟨⟩; decide
  sink := by decide

theorem isTree_blocked : blocked.disk.IsTree := Disk.isTree_of_mem (by decide)

theorem prior_blocked : consolidation.prior blocked = (⟨[], []⟩, blocked) := by
  rw [prior, CatalogStore.load_of_not_isFile (by decide)]

theorem isReady_blocked : consolidation.IsReady blocked log where
  isFile := Workspace.isFile_of_read (Disk.read_eq_ok_iff.mpr ⟨rfl, rfl⟩)
  read := by
    refine Sink.read_linesBytes (Disk.read_eq_ok_iff.mpr ⟨rfl, rfl⟩) ?_
    intro r hr
    rw [List.mem_singleton.mp hr]
    exact Record.make_isCanonical _ (by decide) (by decide) _ _
  writable := by
    rw [IsWritable, prior_blocked, CatalogStore.isTooDeep, CatalogStore.load_of_not_isFile (by decide)]
    exact ⟨rfl, rfl⟩

def catalogPlace : Place := [".next", "extracted-strings.json"]

theorem isTorn_blocked : consolidation.IsTorn blocked := by
  have hreplace : ∀ bytes, blocked.disk.replace (blocked.absolute consolidation.store.file) bytes =
      .ok (blocked.disk ++ [(catalogPlace, .file bytes)]) := fun _ => rfl
  have hmodule : ∀ bytes bytes', Disk.replace (blocked.disk ++ [(catalogPlace, .file bytes)])
      (blocked.absolute (Settings.standard.lookupModuleFile ⟨"/", []⟩)) bytes' = .error .isDirectory := fun _ _ => rfl
  have hnone : blocked.content? consolidation.store.file = none := rfl
  refine ⟨log, isReady_blocked, _, _, _, ?_, rfl, hmodule (consolidation.catalogBytes blocked log) _, ?_⟩
  · rw [prior_blocked]
    exact hreplace _
  · rw [hnone]
    simp

end Sample

open Sample in
theorem not_allOrNothing_of_blocked_module : ¬ consolidation.AllOrNothing blocked :=
  fun h => (allOrNothing_iff_not_isTorn isApart_blocked isTree_blocked).1.mp h isTorn_blocked

end Phrasebook.Consolidation
