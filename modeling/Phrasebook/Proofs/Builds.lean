import Phrasebook.Consolidation
import Phrasebook.Proofs.Merges
import Phrasebook.Proofs.Stores

/-!
# Translations over builds

A build edits the catalog by hand, merges records into what it then holds, and writes the result. What a translator has
entered stays: no build loses a translation that its edits leave alone, as long as the key is kept.

Edits are as free as a text file is: all that is asked of them is that the catalog still reads, and that the translation
reads as before. A build whose catalog cannot be read, or cannot be written again, leaves it as it is.

Results:
1. `shows_run`: one build keeps a translation.
2. `shows_builds`: so do all builds after it was entered.
-/

namespace Phrasebook

/-- The catalog of a store has a key with some translation into a locale. -/
def CatalogStore.Shows (store : CatalogStore) (w : Workspace) (key locale value : String) : Prop :=
  ∃ loaded entry, store.load w = .ok loaded ∧ loaded.catalog.get? key = some entry ∧ entry.translation locale = value

namespace CatalogStore.Shows

variable {store : CatalogStore} {w w' : Workspace} {key locale value : String}

/-- A catalog that shows something is in its file. -/
theorem in_file (h : store.Shows w key locale value) :
    ∃ bytes loaded entry, w.read store.file = .ok bytes ∧ Catalog.ofBytes w.room bytes = .ok loaded ∧
      loaded.catalog.get? key = some entry ∧ entry.translation locale = value := by
  obtain ⟨loaded, entry, hload, hget, htranslation⟩ := h
  have hne : loaded.catalog ≠ [] := by
    intro hnil
    rw [hnil] at hget
    exact absurd hget (by simp [Entries.get?])
  obtain ⟨bytes, hread, hbytes⟩ := read_of_load hload hne
  exact ⟨bytes, loaded, entry, hread, hbytes, hget, htranslation⟩

/-- What is read from the same file shows the same. -/
theorem of_read (h : store.Shows w key locale value) (hroom : w'.room = w.room)
    (hread : ∀ content, w.read store.file = .ok content → w'.read store.file = .ok content) :
    store.Shows w' key locale value := by
  obtain ⟨bytes, loaded, entry, hbefore, hbytes, hget, htranslation⟩ := h.in_file
  exact ⟨loaded, entry, load_of_read (hread bytes hbefore) (hroom ▸ hbytes), hget, htranslation⟩

end CatalogStore.Shows

/-- What goes into a build: the content that hands gave to the catalog, if they did, the records of the sources, and
whether keys without records are dropped. -/
structure Build where
  edited : Option Bytes
  records : List Record
  prune : Bool

namespace Build

variable {store : CatalogStore} {w : Workspace} {b : Build} {key locale value : String}

/-- The workspace with the catalog as it was edited. -/
def edit (store : CatalogStore) (w : Workspace) (b : Build) : Workspace :=
  match b.edited with
  | none => w
  | some content =>
    match w.onDisk fun disk => disk.putFile (w.absolute store.file) content with
    | .ok w' => w'
    | .error _ => w

def run (store : CatalogStore) (w : Workspace) (b : Build) : Workspace :=
  let w := b.edit store w
  match store.load w with
  | .error _ => w
  | .ok loaded =>
    let merged := Merge.catalog b.records loaded.catalog b.prune
    if loaded.damage.any (Consolidation.survives b.records merged) then w else (store.save w merged).1

/-- A build leaves a translation alone: its edits do, and its key has a record or is not dropped for want of one. -/
structure Spares (store : CatalogStore) (w : Workspace) (b : Build) (key locale : String) : Prop where
  edited : ∀ value, store.Shows w key locale value → store.Shows (b.edit store w) key locale value
  kept : key ∈ b.records.map (·.key) ∨ b.prune = false
  keys : ∀ r ∈ b.records, r.key ≠ ""

/-- A build without edits leaves all translations alone before its merge. -/
theorem shows_edit_of_none (hb : b.edited = none) (h : store.Shows w key locale value) :
    store.Shows (b.edit store w) key locale value := by
  rwa [edit, hb]

theorem directory_edit : (b.edit store w).directory = w.directory := by
  rw [edit]
  split
  · rfl
  · split
    · rename_i h
      obtain ⟨disk, -, rfl⟩ := Workspace.onDisk_eq_ok_iff.mp h
      rfl
    · rfl

theorem directory_run : (b.run store w).directory = w.directory := by
  rw [run]
  dsimp only
  split
  · exact directory_edit
  · split
    · exact directory_edit
    · rw [(CatalogStore.changesOnly_save store _ _).directory, directory_edit]

/-! ## Builds -/

/-- One build keeps a translation that it leaves alone. -/
theorem shows_run (hstore : store.IsApart w) (hlocale : Locale.isGenerated locale = false) (hvalue : value ≠ "")
    (hb : b.Spares store w key locale) (h : store.Shows w key locale value) :
    store.Shows (b.run store w) key locale value := by
  have hedit := hb.edited value h
  obtain ⟨loaded, entry, hload, hget, htranslation⟩ := hedit
  rw [run]
  dsimp only
  rw [hload]
  dsimp only
  split
  · exact hb.edited value h
  · have hprior := CatalogStore.isSound_of_load hload
    have hmerged : (Merge.catalog b.records loaded.catalog b.prune).IsSound := Merge.isSound_catalog hprior hb.keys
    -- a catalog that could not be written is the edited one, and one that was written reads back
    rcases CatalogStore.read_save (hstore.of_directory directory_edit)
      (Merge.catalog b.records loaded.catalog b.prune) with ⟨hsame, -⟩ | hread
    · rw [hsame]
      exact hb.edited value h
    · obtain ⟨entry', hget', htranslation'⟩ :=
        Merge.translation_catalog hprior hget hlocale hvalue htranslation hb.kept
      refine ⟨_, entry', CatalogStore.load_of_read_fileText hmerged hread, ?_, htranslation'⟩
      rw [Catalog.get?_arranged hmerged, hget']

end Build

/-- Builds one after another, all of which leave a translation alone. -/
inductive Builds (store : CatalogStore) (key locale : String) (w : Workspace) : Workspace → Prop
  | start : Builds store key locale w w
  | next {w' : Workspace} (b : Build) :
      Builds store key locale w w' → b.Spares store w' key locale → Builds store key locale w (b.run store w')

theorem Builds.directory {store : CatalogStore} {key locale : String} {w w' : Workspace}
    (h : Builds store key locale w w') : w'.directory = w.directory := by
  induction h with
  | start => rfl
  | next b _ _ ih => rw [Build.directory_run, ih]

/-- A translation into a locale that the program does not fill is in every later catalog, exactly as it was entered:
through any number of builds, whatever the records say and whether or not the key has been stale in between. -/
theorem shows_builds {store : CatalogStore} {key locale value : String} {w w' : Workspace} (hstore : store.IsApart w)
    (hlocale : Locale.isGenerated locale = false) (hvalue : value ≠ "") (h : store.Shows w key locale value)
    (hbuilds : Builds store key locale w w') : store.Shows w' key locale value := by
  induction hbuilds with
  | start => exact h
  | next b hbefore hspares ih =>
    exact Build.shows_run (hstore.of_directory hbefore.directory) hlocale hvalue hspares ih

/-! A translated key that goes stale in one build and comes back in the next, with another translation in its record. -/

namespace Builds.Sample

def entry : Record := Record.make "Hi" "k" [("ru", "Privet")] ⟨"a.jsx", "A", "p"⟩ none

/-- The store of a project at the root. -/
def store : CatalogStore := CatalogStore.ofProject Settings.standard ⟨"/", []⟩

/-- The workspace in which the entry has been translated. -/
def translated : Workspace where
  disk := [([".next"], .directory),
    ([".next", "extracted-strings.json"], .file (CatalogStore.bytesOf (Catalog.fileText store.sorted [("k", entry)])))]
  directory := ⟨"/", []⟩
  events := []

/-- A build in which no text was found. -/
def empty : Build := ⟨none, [], false⟩

/-- A build in which the text was found again. -/
def again : Build := ⟨none, [Record.make "Hi" "k" [("ru", "Zdravstvuj")] ⟨"b.jsx", "B", "p"⟩ none], true⟩

theorem isSound_entry : Catalog.IsSound [("k", entry)] where
  nodup := List.nodup_singleton _
  canonical := by
    intro e he
    rw [List.mem_singleton.mp he]
    exact Record.make_isCanonical _ (by decide) (by decide) _ _

theorem shows_translated : store.Shows translated "k" "ru" "Privet" := by
  have hread : translated.read store.file = .ok (CatalogStore.bytesOf (Catalog.fileText store.sorted [("k", entry)])) :=
    Disk.read_eq_ok_iff.mpr ⟨rfl, rfl⟩
  refine ⟨_, entry, CatalogStore.load_of_read_fileText isSound_entry hread, ?_, ?_⟩
  · rw [Catalog.get?_arranged isSound_entry]
    rfl
  · exact Record.translation_make (by decide) (by decide)

end Builds.Sample

open Builds.Sample in
theorem shows_builds_stale_and_back : store.Shows (again.run store (empty.run store translated)) "k" "ru" "Privet" :=
  shows_builds (by rintro path ⟨⟩; decide) (by decide) (by decide) shows_translated
    (.next again (.next empty .start ⟨fun _ => Build.shows_edit_of_none rfl, .inr rfl, by simp [empty]⟩)
      ⟨fun _ => Build.shows_edit_of_none rfl, .inl (by simp [again, Record.make]), by simp [again, Record.make]⟩)

end Phrasebook
