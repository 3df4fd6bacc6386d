import Phrasebook.Proofs.Consolidations
import Phrasebook.Proofs.Remerges

/-!
# Consolidating the same records twice

A consolidation writes the catalog and the lookup module before it removes the sink. If it is cut between the two, or if
the same texts are scanned again, the next consolidation finds its own catalog and the sink as it was. It merges the
records into what it made of them before, reads no damage, and writes the same two files again.

Results:
1. `isRefilled_save`: so a consolidation that was cut leaves the workspace.
2. `merged_again`: what is merged then is what is in the catalog.
3. `run_again`: the second consolidation runs, and changes neither file.
-/

namespace Phrasebook.Consolidation

variable {c : Consolidation} {w w₂ : Workspace} {log : Record.Log}

/-! ## 1. A sink that is there again -/

/-- The catalog and the lookup module are as a consolidation left them, and the sink is as it found it. -/
structure IsRefilled (c : Consolidation) (w w₂ : Workspace) : Prop where
  directory : w₂.directory = w.directory
  sink : w₂.content? c.sink = w.content? c.sink
  catalog : w₂.content? c.store.file = (c.run w).2.content? c.store.file
  module : ∀ path, c.store.module = some path → w₂.content? path = (c.run w).2.content? path

/-- What a consolidation that ran has published is what it had to write. -/
theorem isRefilled_of_read (h : c.IsApart w) (hran : (c.run w).1.ran = true) (hready : c.IsReady w log)
    (hdirectory : w₂.directory = w.directory) (hsink : w₂.content? c.sink = w.content? c.sink)
    (hcatalog : w₂.read c.store.file = .ok (c.catalogBytes w log))
    (hmodule : ∀ path, c.store.module = some path → w₂.read path = .ok (c.moduleBytes w log)) : c.IsRefilled w w₂ := by
  obtain ⟨⟨log', hready', hcatalog', hmodule', -⟩, -⟩ := isPublished_of_ran h hran
  obtain rfl := eq_of_isReady hready hready'
  refine ⟨hdirectory, hsink, ?_, fun path hpath => ?_⟩
  · rw [Workspace.content?_eq_some_iff.mpr hcatalog, hcatalog']
  · rw [Workspace.content?_eq_some_iff.mpr (hmodule path hpath), hmodule' path hpath]

/-- A consolidation that runs writes both files. -/
theorem exists_save (h : c.IsApart w) (hran : (c.run w).1.ran = true) :
    ∃ log w₂, c.IsReady w log ∧ c.store.save (c.prior w).2 (c.merged w log) = (w₂, none) := by
  obtain ⟨⟨log, hready, -⟩, -⟩ := isPublished_of_ran h hran
  have hcases := CatalogStore.save_cases c.store (c.prior w).2 (c.merged w log)
  simp only [(changesOnly_prior c w).absolute] at hcases
  rcases run_cases h hready with ⟨e, -, hnot, -⟩ | ⟨disk, path, e, -, -, -, hnot, -⟩ | ⟨⟨disk, hfile, hmodule⟩, -⟩
  · exact absurd (hnot.symm.trans hran) (by simp)
  · exact absurd (hnot.symm.trans hran) (by simp)
  · rcases hcases with ⟨e, hnot, -⟩ | ⟨disk', path, e, hfile', hpath, hnot, -⟩ | ⟨disk', hfile', hsaved⟩
    · exact absurd (hfile.symm.trans hnot) (by simp)
    · obtain rfl : disk = disk' := Except.ok.inj (hfile.symm.trans hfile')
      obtain ⟨disk₂, hwritten⟩ := hmodule path hpath
      exact absurd (hwritten.symm.trans hnot) (by simp)
    · rcases hsaved with ⟨-, hsave⟩ | ⟨path, disk₂, -, -, hsave⟩
      · exact ⟨log, _, hready, hsave⟩
      · exact ⟨log, _, hready, hsave⟩

/-- A consolidation that was cut after it had written its files, and before it removed the sink. -/
theorem isRefilled_save (h : c.IsApart w) (haside : w.placeOf c.sink ≠ c.asidePlace w) (hran : (c.run w).1.ran = true)
    (hready : c.IsReady w log) (hsave : c.store.save (c.prior w).2 (c.merged w log) = (w₂, none)) :
    c.IsRefilled w w₂ := by
  have hprior := changesOnly_prior c w
  have hapart := h.of_directory hprior.directory
  obtain ⟨hcatalog, hmodule⟩ := CatalogStore.read_of_save_none hapart.store hsave
  have hsaved := CatalogStore.changesOnly_save c.store (c.prior w).2 (c.merged w log)
  rw [hsave] at hsaved
  obtain ⟨content, hsink⟩ := read_of_isReady hready
  refine isRefilled_of_read h hran hready (hsaved.directory.trans hprior.directory) ?_ hcatalog hmodule
  have hkept : (c.prior w).2.read c.sink = .ok content := hprior.read (by simp [h.sink_ne_file, haside]) hsink
  rw [Workspace.content?_eq_some_iff.mpr hsink, Workspace.content?_eq_some_iff]
  exact hsaved.read hapart.sink hkept

/-! ## 2. The same catalog again -/

/-- A catalog that was published is the earlier one of the next consolidation, in the order of its file. -/
theorem prior_again (hready : c.IsReady w log) (hcatalog : w₂.read c.store.file = .ok (c.catalogBytes w log)) :
    c.prior w₂ = (⟨(c.merged w log).arranged c.store.sorted, []⟩, w₂) := by
  rw [prior, CatalogStore.load_of_read_fileText (isSound_merged hready.read) hcatalog]

/-- The same log, merged into that catalog, gives the same entries, in the order of the file. -/
theorem merged_again (hready : c.IsReady w log) (hcatalog : w₂.read c.store.file = .ok (c.catalogBytes w log)) :
    (c.merged w₂ log).arranged c.store.sorted = (c.merged w log).arranged c.store.sorted := by
  rw [merged, prior_again hready hcatalog, merged]
  exact Merge.arranged_catalog_arranged (isSound_prior c w) (key_ne_of_read hready.read) c.store.sorted

theorem catalogBytes_again (hready : c.IsReady w log) (hcatalog : w₂.read c.store.file = .ok (c.catalogBytes w log)) :
    c.catalogBytes w₂ log = c.catalogBytes w log :=
  congrArg CatalogStore.bytesOf (Catalog.fileText_congr (merged_again hready hcatalog))

theorem moduleBytes_again (hready : c.IsReady w log) (hcatalog : w₂.read c.store.file = .ok (c.catalogBytes w log)) :
    c.moduleBytes w₂ log = c.moduleBytes w log :=
  congrArg CatalogStore.bytesOf (Catalog.moduleText_congr (merged_again hready hcatalog))

/-- The sink can be read again, and nothing in the catalog is damaged. -/
theorem isReady_again (hready : c.IsReady w log) (hcatalog : w₂.read c.store.file = .ok (c.catalogBytes w log))
    (hsink : w₂.content? c.sink = w.content? c.sink) : c.IsReady w₂ log := by
  obtain ⟨content, hread⟩ := read_of_isReady hready
  rw [Workspace.content?_eq_some_iff.mpr hread, Workspace.content?_eq_some_iff] at hsink
  have hlog := hready.read
  rw [Sink.read, hread] at hlog
  refine ⟨Workspace.isFile_of_read hsink, ?_, ?_⟩
  · rw [Sink.read, hsink]
    exact hlog
  · rw [IsWritable, prior_again hready hcatalog]
    have hload := CatalogStore.load_of_read_fileText (isSound_merged hready.read) hcatalog
    exact ⟨CatalogStore.isTooDeep_of_load hload, rfl⟩

/-! ## 3. Running again -/

/-- A consolidation that can write to files that are there runs. -/
theorem ran_of_read (h : c.IsApart w) {loaded : Catalog.Loaded} (hprior : c.prior w = (loaded, w))
    (hready : c.IsReady w log) {content : Bytes} (hcatalog : w.read c.store.file = .ok content)
    (hmodule : ∀ path, c.store.module = some path → ∃ content, w.read path = .ok content) :
    (c.run w).1.ran = true ∧ c.IsPublished w (c.run w).2 := by
  have hwrite : c.CanWrite w log := by
    obtain ⟨disk, hwritten⟩ := Disk.replace_of_read hcatalog (c.catalogBytes w log)
    rw [CanWrite, hprior]
    refine ⟨disk, hwritten, fun path hpath => ?_⟩
    -- the lookup module is still there when the catalog has been written
    obtain ⟨content', hread⟩ := hmodule path hpath
    have hplace : w.placeOf path ∉ [w.placeOf c.store.file] := by
      rw [List.mem_singleton]
      exact h.store path hpath
    exact Disk.replace_of_read ((Disk.changesOnly_replace hwritten).read hplace hread) (c.moduleBytes w log)
  have hran := ran_of_canWrite h hready hwrite
  exact ⟨hran, (isPublished_of_ran h hran).1⟩

/-- Merging the same records again gives the same entries in the same order; and a consolidation of the same sink again
runs, and leaves the catalog and the lookup module byte for byte as they were. -/
theorem run_again (c : Consolidation) :
    (∀ records prior, Merge.catalog records (Merge.catalog records prior c.prune) c.prune =
      Merge.catalog records prior c.prune) ∧
    ∀ w w₂, c.IsApart w → (c.run w).1.ran = true → c.IsRefilled w w₂ →
      (c.run w₂).1.ran = true ∧ (c.run w₂).2.content? c.store.file = w₂.content? c.store.file ∧
        ∀ path, c.store.module = some path → (c.run w₂).2.content? path = w₂.content? path := by
  refine ⟨fun records prior => Merge.catalog_catalog records prior c.prune, fun w w₂ h hran hrefilled => ?_⟩
  obtain ⟨⟨log, hready, hcatalog, hmodule, -⟩, -⟩ := isPublished_of_ran h hran
  have hcatalog₂ := Workspace.content?_eq_some_iff.mp (hrefilled.catalog.trans hcatalog)
  have hmodule₂ (path : Path) (hpath : c.store.module = some path) : w₂.read path = .ok (c.moduleBytes w log) :=
    Workspace.content?_eq_some_iff.mp ((hrefilled.module path hpath).trans (hmodule path hpath))
  have hready₂ := isReady_again hready hcatalog₂ hrefilled.sink
  obtain ⟨hran₂, log', hready', hfile, hlookup, -⟩ := ran_of_read (h.of_directory hrefilled.directory)
    (prior_again hready hcatalog₂) hready₂ hcatalog₂ fun path hpath => ⟨_, hmodule₂ path hpath⟩
  obtain rfl := eq_of_isReady hready₂ hready'
  refine ⟨hran₂, ?_, fun path hpath => ?_⟩
  · rw [hfile, catalogBytes_again hready hcatalog₂, hrefilled.catalog, hcatalog]
  · rw [hlookup path hpath, moduleBytes_again hready hcatalog₂, hrefilled.module path hpath, hmodule path hpath]

/-! A project whose earlier catalog has a translation and a key that goes stale, and which keeps stale keys. The
consolidation is cut before it removes the sink. -/

namespace Sample

open Merge.Sample

def keeping : Consolidation where
  sink := Settings.standard.sinkPath ⟨"/", []⟩
  store := CatalogStore.ofProject Settings.standard ⟨"/", []⟩
  prune := false

def rebuilt : Workspace where
  disk := [([".next"], .directory),
    ([".next", "extracted-strings.json"], .file (CatalogStore.bytesOf (Catalog.fileText true translated))),
    ([".next", "extracted-strings.js"], .file []),
    ([".text-extraction.tmp"], .file (Record.linesBytes [hi, yo]))]
  directory := ⟨"/", []⟩
  events := []

theorem isCanonical_hi_yo : ∀ r ∈ [hi, yo], r.IsCanonical := by
  have hkeys : hi.key ≠ "" ∧ yo.key ≠ "" := by decide +kernel
  simp only [List.forall_mem_cons, List.not_mem_nil, false_implies, implies_true, and_true]
  exact ⟨Record.make_isCanonical "Hi" hkeys.1 (by decide) _ _, Record.make_isCanonical "Yo" hkeys.2 (by decide) _ _⟩

theorem isSound_translated : translated.IsSound where
  nodup := by decide +kernel
  canonical := by
    have hhi := isCanonical_hi_yo hi List.mem_cons_self
    simp only [translated, List.forall_mem_cons, List.not_mem_nil, false_implies, implies_true, and_true]
    exact ⟨Record.make_isCanonical "Hi" hhi.key_ne (Entries.nodup_put hhi.nodup _ _) _ _,
      Record.make_isCanonical "Gone" (by decide) (by decide) _ _⟩

theorem read_catalog : rebuilt.read keeping.store.file = .ok (CatalogStore.bytesOf (Catalog.fileText true translated)) :=
  Disk.read_eq_ok_iff.mpr ⟨rfl, rfl⟩

theorem read_sink : rebuilt.read keeping.sink = .ok (Record.linesBytes [hi, yo]) := Disk.read_eq_ok_iff.mpr ⟨rfl, rfl⟩

theorem prior_rebuilt : keeping.prior rebuilt = (⟨translated.arranged true, []⟩, rebuilt) := by
  rw [prior, CatalogStore.load_of_read_fileText isSound_translated read_catalog]
  rfl

theorem isApart : keeping.IsApart rebuilt where
  store := by
    rintro path ⟨⟩
    decide
  sink := by decide

theorem ran_rebuilt : (keeping.run rebuilt).1.ran = true := by
  have hready : keeping.IsReady rebuilt ⟨[hi, yo], []⟩ := by
    refine ⟨Workspace.isFile_of_read read_sink, Sink.read_linesBytes read_sink isCanonical_hi_yo, ?_⟩
    rw [IsWritable, prior_rebuilt]
    exact ⟨CatalogStore.isTooDeep_of_load (CatalogStore.load_of_read_fileText isSound_translated read_catalog), rfl⟩
  refine (ran_of_read isApart prior_rebuilt hready read_catalog ?_).1
  rintro path ⟨⟩
  exact ⟨_, Disk.read_eq_ok_iff.mpr ⟨rfl, rfl⟩⟩

end Sample

open Sample in
theorem run_again_cut : ∃ w₂, keeping.IsRefilled rebuilt w₂ ∧ (keeping.run w₂).1.ran = true ∧
    (keeping.run w₂).2.content? keeping.store.file = w₂.content? keeping.store.file := by
  obtain ⟨log, w₂, hready, hsave⟩ := exists_save isApart ran_rebuilt
  have hrefilled := isRefilled_save isApart (by decide) ran_rebuilt hready hsave
  obtain ⟨hran, hcatalog, -⟩ := (run_again keeping).2 rebuilt w₂ isApart ran_rebuilt hrefilled
  exact ⟨w₂, hrefilled, hran, hcatalog⟩

end Phrasebook.Consolidation
