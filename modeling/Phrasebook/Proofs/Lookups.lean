import Phrasebook.Proofs.Builds
import Phrasebook.Proofs.Consolidations
import Phrasebook.Resolver

/-!
# Lookups in a published catalog

After a consolidation that has run, a lookup finds every key that had a record in the sink, and shows the text of one of
its records: of the only one, if keys tell records apart.

Results:
1. `resolve_of_shows` and `resolve_of_get?_none`: a lookup shows what its store reads.
2. `load_run`: what a store reads after a consolidation.
3. `resolve_run`: what a lookup shows in the default locale after a consolidation.
4. `shows_run_translation` and `shows_run_text`: what a consolidation leaves in the catalog.
-/

namespace Phrasebook

/-! ## 1. Resolvers -/

namespace Resolver

variable {store : CatalogStore} {w : Workspace}

/-- A lookup shows what its store reads. -/
theorem resolve_of_load {loaded : Catalog.Loaded} (hthere : store.isThere w = true) (hload : store.load w = .ok loaded)
    {key : String} {entry : Record} (hget : loaded.catalog.get? key = some entry) (current : Locale)
    (asked : Option String) :
    ((ofStore store).resolve w current key asked).1 = .ok (shown entry (requested asked current)) := by
  have hcatalog : (ofStore store).catalog w =
      (.ok loaded.catalog, { ofStore store with held := some loaded.catalog }, w) := by
    rw [catalog, ofStore]
    dsimp only
    rw [if_pos hthere, hload]
  have hlookup : (ofStore store).lookup w key = (.ok entry, { ofStore store with held := some loaded.catalog }, w) := by
    rw [lookup, hcatalog]
    dsimp only
    rw [hget]
  rw [resolve, hlookup]

/-- An entry shows its text in the default locale, if that is what its slot holds. -/
theorem shown_fallback {entry : Record} (h : entry.translation Locale.fallback.code = entry.text) :
    shown entry Locale.fallback.code = entry.text := by
  rw [shown]
  dsimp only
  rw [h]
  split
  · rfl
  · rfl

/-- A lookup shows the translation that its store shows. -/
theorem resolve_of_shows {key locale value : String} (h : store.Shows w key locale value) (hvalue : value ≠ "")
    (hlocale : locale ≠ "") (current : Locale) :
    ((ofStore store).resolve w current key (some locale)).1 = .ok value := by
  obtain ⟨bytes, loaded, entry, hread, hbytes, hget, htranslation⟩ := h.in_file
  rw [resolve_of_load (Workspace.isFile_of_read hread) (CatalogStore.load_of_read hread hbytes) hget, requested,
    if_pos (by simpa using hlocale), shown]
  dsimp only
  rw [htranslation, if_pos (by simpa using hvalue)]

/-- A lookup of a key that its store does not have shows the first characters of the key. -/
theorem resolve_of_get?_none {loaded : Catalog.Loaded} (hthere : store.isThere w = true)
    (hload : store.load w = .ok loaded) {key : String} (hget : loaded.catalog.get? key = none) (current : Locale)
    (asked : Option String) : ((ofStore store).resolve w current key asked).1 = .ok (Key.placeholder key) := by
  rw [resolve, lookup, catalog, ofStore]
  dsimp only
  rw [if_pos hthere, hload]
  dsimp only
  rw [hget]

end Resolver

/-! ## 2. After a consolidation -/

namespace Consolidation

variable {c : Consolidation} {w : Workspace} {records : List Record}

/-- The records of a sink that holds nothing but records. -/
theorem log_of_isReady {log : Record.Log} (h : c.IsReady w log)
    (hsink : w.disk.bytesAt (w.placeOf c.sink) = Record.linesBytes records) (hrecords : ∀ r ∈ records, r.IsCanonical) :
    log = ⟨records, []⟩ := by
  obtain ⟨content, hread⟩ := read_of_isReady h
  have hcontent : content = Record.linesBytes records := (Disk.bytesAt_of_read hread).symm.trans hsink
  exact Except.ok.inj (h.read.symm.trans (Sink.read_linesBytes (hcontent ▸ hread) hrecords))

/-- What a store reads after a consolidation that has run. -/
theorem load_run (h : c.IsApart w) (hran : (c.run w).1.ran = true)
    (hsink : w.disk.bytesAt (w.placeOf c.sink) = Record.linesBytes records) (hrecords : ∀ r ∈ records, r.IsCanonical) :
    c.store.isThere (c.run w).2 = true ∧ (c.merged w ⟨records, []⟩).IsSound ∧
      c.store.load (c.run w).2 = .ok ⟨(c.merged w ⟨records, []⟩).arranged c.store.sorted, []⟩ := by
  obtain ⟨⟨log, hready, hcatalog, -, -⟩, -⟩ := isPublished_of_ran h hran
  obtain rfl := log_of_isReady hready hsink hrecords
  have hread := Workspace.content?_eq_some_iff.mp hcatalog
  exact ⟨Workspace.isFile_of_read hread, isSound_merged hready.read,
    CatalogStore.load_of_read_fileText (isSound_merged hready.read) hread⟩

/-- After a consolidation every key with a record shows the text of one of its records in the default locale. -/
theorem resolve_run (h : c.IsApart w) (hran : (c.run w).1.ran = true)
    (hsink : w.disk.bytesAt (w.placeOf c.sink) = Record.linesBytes records) (hrecords : ∀ r ∈ records, r.IsCanonical)
    {key : String} (hkey : key ∈ records.map (·.key)) (current : Locale) :
    ∃ last ∈ records, last.key = key ∧
      ((Resolver.ofStore c.store).resolve (c.run w).2 current key (some Locale.fallback.code)).1 =
        .ok last.text := by
  obtain ⟨hthere, hsound, hload⟩ := load_run h hran hsink hrecords
  obtain ⟨last, hlast, hlastKey, hget⟩ := Merge.get?_catalog_of_mem hkey
  refine ⟨last, hlast, hlastKey, ?_⟩
  rw [Resolver.resolve_of_load hthere hload ((Catalog.get?_arranged hsound _ _).trans hget)]
  exact congrArg Except.ok (Resolver.shown_fallback (Merge.translation_freshEntry_fallback last))

/-! ## 3. What a catalog shows after a consolidation -/

/-- What was shown before a consolidation that publishes nothing is shown after it. -/
theorem shows_run_of_not_publishes (h : c.IsApart w) (hnot : ∀ log, ¬ c.Publishes w log) {key locale value : String}
    (hshows : c.store.Shows w key locale value) : c.store.Shows (c.run w).2 key locale value := by
  obtain ⟨loaded, entry, hload, hget, htranslation⟩ := hshows
  rcases load_run_cases h hload with hsame | ⟨log, hpublishes, -⟩
  · exact ⟨loaded, entry, hsame, hget, htranslation⟩
  · exact absurd hpublishes (hnot log)

/-- A translation is still there after a consolidation, run or not, unless its key is dropped. -/
theorem shows_run_translation (h : c.IsApart w) (hsink : w.disk.bytesAt (w.placeOf c.sink) = Record.linesBytes records)
    (hrecords : ∀ r ∈ records, r.IsCanonical) {key locale value : String} (hlocale : Locale.isGenerated locale = false)
    (hvalue : value ≠ "") (hkept : key ∈ records.map (·.key) ∨ c.prune = false)
    (hshows : c.store.Shows w key locale value) : c.store.Shows (c.run w).2 key locale value := by
  obtain ⟨loaded, entry, hload, hget, htranslation⟩ := hshows
  rcases load_run_cases h hload with hsame | ⟨log, ⟨hready, -⟩, hmerged, hloaded⟩
  · exact ⟨loaded, entry, hsame, hget, htranslation⟩
  · obtain rfl := log_of_isReady hready hsink hrecords
    obtain ⟨entry', hget', htranslation'⟩ := Merge.translation_catalog (CatalogStore.isSound_of_load hload) hget hlocale
      hvalue htranslation hkept
    exact ⟨_, entry', hloaded, by rw [Catalog.get?_arranged (isSound_merged hready.read), hmerged, hget'], htranslation'⟩

/-- A text is still there after a consolidation, run or not, if no key is dropped and no record has another text. -/
theorem shows_run_text (h : c.IsApart w) (hsink : w.disk.bytesAt (w.placeOf c.sink) = Record.linesBytes records)
    (hrecords : ∀ r ∈ records, r.IsCanonical) (hprune : c.prune = false) {key text : String}
    (htexts : ∀ r ∈ records, r.key = key → r.text = text)
    (hshows : c.store.Shows w key Locale.fallback.code text) :
    c.store.Shows (c.run w).2 key Locale.fallback.code text := by
  obtain ⟨loaded, entry, hload, hget, htext⟩ := hshows
  rcases load_run_cases h hload with hsame | ⟨log, ⟨hready, -⟩, hmerged, hloaded⟩
  · exact ⟨loaded, entry, hsame, hget, htext⟩
  · obtain rfl := log_of_isReady hready hsink hrecords
    obtain ⟨entry', hget', htext'⟩ := Merge.text_catalog hget htext htexts
    refine ⟨_, entry', hloaded, ?_, htext'⟩
    rw [Catalog.get?_arranged (isSound_merged hready.read), hmerged, hprune, hget']

/-- The text of a key with records is there after a consolidation that ran, if no record has another one. -/
theorem shows_run_record (h : c.IsApart w) (hran : (c.run w).1.ran = true)
    (hsink : w.disk.bytesAt (w.placeOf c.sink) = Record.linesBytes records) (hrecords : ∀ r ∈ records, r.IsCanonical)
    {key text : String} (hkey : key ∈ records.map (·.key)) (htexts : ∀ r ∈ records, r.key = key → r.text = text) :
    c.store.Shows (c.run w).2 key Locale.fallback.code text := by
  obtain ⟨-, hsound, hload⟩ := load_run h hran hsink hrecords
  obtain ⟨last, hlast, hlastKey, hget⟩ := Merge.get?_catalog_of_mem hkey
  exact ⟨_, _, hload, (Catalog.get?_arranged hsound _ _).trans hget,
    (Merge.translation_freshEntry_fallback last).trans (htexts last hlast hlastKey)⟩

/-- A key without records is dropped, and looking it up shows its first characters. -/
theorem resolve_run_of_dropped (h : c.IsApart w) (hran : (c.run w).1.ran = true)
    (hsink : w.disk.bytesAt (w.placeOf c.sink) = Record.linesBytes records) (hrecords : ∀ r ∈ records, r.IsCanonical)
    (hprune : c.prune = true) {key : String} (hkey : key ∉ records.map (·.key)) (current : Locale)
    (asked : Option String) :
    ((Resolver.ofStore c.store).resolve (c.run w).2 current key asked).1 = .ok (Key.placeholder key) := by
  obtain ⟨hthere, hsound, hload⟩ := load_run h hran hsink hrecords
  refine Resolver.resolve_of_get?_none hthere hload ?_ current asked
  rw [Catalog.get?_arranged hsound, merged, Merge.get?_catalog, Merge.get?_latest_eq_none_iff.mpr hkey, hprune]
  rfl

end Consolidation
end Phrasebook
