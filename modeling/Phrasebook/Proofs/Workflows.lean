import Phrasebook.Proofs.Commands
import Phrasebook.Proofs.ProjectScans

/-!
# Working in place

Commands scan a project, write its sources back and consolidate, in any order and any number of times; between them
people edit sources and enter translations. A source that was written back has calls where its texts were, so that later
scans find nothing there. A consolidation drops the keys that were not found again, calls that stand in sources or not:
what holds of a call is that its text is shown from the consolidation after the scan that put it there until the next
one, or from then on if keys are not dropped. The records of a source in another project go to the sink of that project,
and a consolidation does not see them.

Results:
1. `addsTo_scans`: scans add to the sink what they find, and leave the catalog alone.
2. `Workflow`: runs of commands and edits, with a journal of what was put into sources.
3. `Workflow.holds`: what is true of a project at any time of a run.
4. `Workflow.resolve_consolidated`: what calls show after a consolidation that ran.
5. `resolve_dropped`: a call that stands in a source and shows no text.
-/

namespace Phrasebook

/-- The settings of a project that chooses nothing, but whether keys that were not found again are dropped. -/
def Settings.pruning (prune : Bool) : Settings := { standard with pruneStale := prune }

/-- The files of a project, and its sources, are called what they are called if nothing is chosen. -/
structure Settings.HasStandardNames (s : Settings) : Prop where
  sink : s.sinkFilename = standard.sinkFilename
  catalog : s.catalogPath = standard.catalogPath
  module : s.lookupModulePath = standard.lookupModulePath
  extensions : s.extensions = standard.extensions

theorem Settings.hasStandardNames_pruning (prune : Bool) : (pruning prune).HasStandardNames := ⟨rfl, rfl, rfl, rfl⟩

/-! ## 1. Files that scans leave alone -/

namespace Scan

variable {settings : Settings} {w : Workspace} {path : Path}

theorem getLast?_sinkOf (hnames : settings.HasStandardNames) (w : Workspace) (path : Path) :
    (w.placeOf (sinkOf settings w path)).getLast? = some ".text-extraction.tmp" :=
  Consolidation.getLast?_sinkPath hnames.sink _ w

/-- A file that is scanned has no other name than a source has. -/
theorem getLast?_ne_of_eligible (hnames : settings.HasStandardNames)
    (h : Project.ineligible? settings (w.absolute path) = none) {name : String}
    (hname : Settings.standard.extensions.contains (Path.lowerSuffix ⟨"", [name]⟩) = false) :
    (w.placeOf path).getLast? ≠ some name := by
  have hsuffix : Settings.standard.extensions.contains (w.absolute path).lowerSuffix = true := by
    rw [Project.ineligible?, hnames.extensions] at h
    split at h
    · exact absurd h (by simp)
    · rename_i hcontains
      simpa using hcontains
  -- the suffix depends on the last name alone
  have hother : ∀ other, Settings.standard.extensions.contains (Path.lowerSuffix ⟨"", [other]⟩) = false →
      (w.absolute path).name ≠ other := by
    rintro _ hnot rfl
    exact absurd (hnot.symm.trans hsuffix) (by simp)
  have hparts : (w.absolute path).names ≠ [] := by
    intro hnil
    refine hother "" (by decide) ?_
    rw [Path.name, hnil]
    rfl
  rw [Workspace.getLast?_placeOf w hparts (hother ".." (by decide))]
  exact fun heq => hother name hname (Option.some.inj heq)

end Scan

def insertionsOf (settings : Settings) (done : List Scanned) : List Rewrite.Insertion :=
  done.flatMap (Scanned.insertions settings)

/-- What they put into sources whose records go to the sink at a place. -/
def insertionsAt (settings : Settings) (sink : Place) (done : List Scanned) : List Rewrite.Insertion :=
  insertionsOf settings (done.filter fun s => s.before.placeOf (Scan.sinkOf settings s.before s.path) = sink)

theorem insertionsAt_append (settings : Settings) (sink : Place) (done more : List Scanned) :
    insertionsAt settings sink (done ++ more) = insertionsAt settings sink done ++ insertionsAt settings sink more := by
  rw [insertionsAt, List.filter_append, insertionsOf, List.flatMap_append]
  rfl

theorem mem_insertionsOf_of_mem_insertionsAt {settings : Settings} {sink : Place} {done : List Scanned}
    {i : Rewrite.Insertion} (h : i ∈ insertionsAt settings sink done) : i ∈ insertionsOf settings done := by
  obtain ⟨s, hs, hi⟩ := List.mem_flatMap.mp h
  exact List.mem_flatMap.mpr ⟨s, List.mem_of_mem_filter hs, hi⟩

theorem mem_insertionsOf {settings : Settings} {done : List Scanned} {i : Rewrite.Insertion}
    (h : i ∈ insertionsOf settings done) : ∃ file source, i ∈ Rewrite.insertions settings file source := by
  obtain ⟨s, -, hi⟩ := List.mem_flatMap.mp h
  obtain ⟨name, -, hinsertion⟩ := Scan.mem_insertions hi
  exact ⟨name, s.source, hinsertion⟩

theorem mem_insertionsAt {settings : Settings} {sink : Place} {done : List Scanned} {i : Rewrite.Insertion}
    (h : i ∈ insertionsAt settings sink done) : ∃ file source, i ∈ Rewrite.insertions settings file source :=
  mem_insertionsOf (mem_insertionsOf_of_mem_insertionsAt h)

/-- A scan adds to a sink what it puts into the source, if that is its sink. -/
theorem bytesAt_after (settings : Settings) (sink : Place) (s : Scanned) :
    (s.after settings).disk.bytesAt sink =
      s.before.disk.bytesAt sink ++ Record.linesBytes ((insertionsAt settings sink [s]).map (·.record)) := by
  by_cases hsink : s.before.placeOf (Scan.sinkOf settings s.before s.path) = sink
  · have hinsertions : insertionsAt settings sink [s] = s.insertions settings := by
      simp [insertionsAt, insertionsOf, hsink]
    rw [hinsertions, ← s.records_eq, ← hsink]
    exact Scan.bytesAt_run settings s.before s.path s.source
  · have hinsertions : insertionsAt settings sink [s] = [] := by simp [insertionsAt, insertionsOf, hsink]
    rw [hinsertions, List.map_nil]
    refine ((Scan.changesOnly_run settings s.before s.path s.source).disk.bytesAt ?_).trans (List.append_nil _).symm
    exact fun hmem => hsink (List.mem_singleton.mp hmem).symm

/-- A workspace has more records in a sink than another, and a file is as it was. -/
structure AddsTo (sink : Place) (file : Path) (records : List Record) (w w' : Workspace) : Prop where
  directory : w'.directory = w.directory
  room : w'.room = w.room
  sink : w'.disk.bytesAt sink = w.disk.bytesAt sink ++ Record.linesBytes records
  file : ∀ content, w.read file = .ok content → w'.read file = .ok content

theorem AddsTo.refl (sink : Place) (file : Path) (w : Workspace) : AddsTo sink file [] w w :=
  ⟨rfl, rfl, (List.append_nil _).symm, fun _ hread => hread⟩

theorem AddsTo.trans {sink : Place} {file : Path} {records more : List Record} {w w' w'' : Workspace}
    (h : AddsTo sink file records w w') (h' : AddsTo sink file more w' w'') : AddsTo sink file (records ++ more) w w'' where
  directory := h'.directory.trans h.directory
  room := h'.room.trans h.room
  sink := by rw [h'.sink, h.sink, Record.linesBytes_append, List.append_assoc]
  file := fun content hread => h'.file content (h.file content hread)

/-- Scanning a file adds to its sink what was found, and leaves any other file that no source is called like. -/
theorem addsTo_afterFile {settings : Settings} (hnames : settings.HasStandardNames) (write : Bool) {w : Workspace}
    (path : Path) {sink : Place} {file : Path} (hsink : sink.getLast? = some ".text-extraction.tmp")
    (hfile : (w.placeOf file).getLast? = some "extracted-strings.json") :
    AddsTo sink file ((insertionsAt settings sink (Command.scannedAt w path)).map (·.record)) w
      (Command.afterFile settings write w path) := by
  rcases Command.changesOnly_afterFile settings write w path with
    ⟨hnone, hsame⟩ | ⟨s, hscanned, rfl, rfl, places, hchanges, hplaces⟩
  · rw [hnone, hsame]
    exact .refl sink file w
  · have hscan : Workspace.ChangesOnly [s.before.placeOf (Scan.sinkOf settings s.before s.path)] s.before
        (s.after settings) :=
      Scan.changesOnly_run settings s.before s.path s.source
    -- the name of a source is neither that of a sink nor that of a catalog
    have hsinkPlace : sink ∉ places := fun hmem =>
      Scan.getLast?_ne_of_eligible hnames (hplaces _ hmem).2 (by decide +kernel) ((hplaces _ hmem).1 ▸ hsink)
    have hfilePlace : s.before.placeOf file ∉ places := fun hmem =>
      Scan.getLast?_ne_of_eligible hnames (hplaces _ hmem).2 (by decide +kernel) ((hplaces _ hmem).1 ▸ hfile)
    have hfileSink : s.before.placeOf file ∉
        [s.before.placeOf (Scan.sinkOf settings s.before s.path)] := by
      rw [List.mem_singleton]
      intro heq
      rw [heq, Scan.getLast?_sinkOf hnames] at hfile
      exact absurd hfile (by decide)
    refine ⟨hchanges.directory.trans hscan.directory, hchanges.room.trans hscan.room, ?_, fun content hread => ?_⟩
    · rw [hchanges.disk.bytesAt hsinkPlace, hscanned, bytesAt_after]
    · refine hchanges.read ?_ (hscan.read hfileSink hread)
      rw [Workspace.placeOf_of_directory hscan.directory]
      exact hfilePlace

/-- So do scans of many files. -/
theorem addsTo_scans {settings : Settings} (hnames : settings.HasStandardNames) {write : Bool} {w w' : Workspace}
    {done : List Scanned} {sink : Place} {file : Path} (h : Command.Scans settings write w done w')
    (hsink : sink.getLast? = some ".text-extraction.tmp")
    (hfile : (w.placeOf file).getLast? = some "extracted-strings.json") :
    AddsTo sink file ((insertionsAt settings sink done).map (·.record)) w w' := by
  induction h with
  | stop w => exact .refl sink file w
  | file path _ ih =>
    have hfirst := addsTo_afterFile hnames write path hsink hfile
    rw [← Workspace.placeOf_of_directory hfirst.directory] at hfile
    rw [insertionsAt_append, List.map_append]
    exact hfirst.trans (ih hfile)

/-! ## 2. Runs -/

/-- The consolidation of a project that chooses nothing else. -/
def Consolidation.pruning (prune : Bool) (root : Path) : Consolidation := ofProject (Settings.pruning prune) root

namespace Consolidation

theorem getLast?_sink (prune : Bool) (root : Path) (w : Workspace) :
    (w.placeOf (pruning prune root).sink).getLast? = some ".text-extraction.tmp" :=
  @getLast?_sinkPath (Settings.pruning prune) rfl root w

theorem getLast?_file (prune : Bool) (root : Path) (w : Workspace) :
    (w.placeOf (pruning prune root).store.file).getLast? = some "extracted-strings.json" :=
  @getLast?_catalogFile (Settings.pruning prune) rfl root w

theorem isApart_pruning (prune : Bool) (root : Path) (w : Workspace) : (pruning prune root).IsApart w :=
  @isApart_ofProject (Settings.pruning prune) rfl rfl rfl root w

theorem sink_ne_asidePlace (prune : Bool) (root : Path) (w : Workspace) :
    w.placeOf (pruning prune root).sink ≠ (pruning prune root).asidePlace w :=
  @placeOf_sink_ne_asidePlace (Settings.pruning prune) rfl rfl root w

end Consolidation

/-- A translation that people enter for a key. -/
structure Translation where
  key : String
  locale : String
  value : String
  deriving DecidableEq, Repr

/-- What has happened to a project. -/
structure Journal where
  /-- What was put into sources, since ever. -/
  inserted : List Rewrite.Insertion
  /-- That of it whose records went to the sink of the project. -/
  recorded : List Rewrite.Insertion
  /-- That of it whose records went there since the last consolidation that ran. -/
  pending : List Rewrite.Insertion
  /-- The translations that were entered, but for those that were entered anew or dropped with their keys. -/
  entered : List Translation

namespace Journal

def empty : Journal := ⟨[], [], [], []⟩

def pendingKeys (j : Journal) : List String := j.pending.map (·.record.key)

/-- What a consolidation makes sure of: what was recorded since the last one, or ever if no key is dropped. -/
def published (j : Journal) (prune : Bool) : List Rewrite.Insertion := if prune then j.pending else j.recorded

/-- The journal of the project with a sink after scans. -/
def scanned (settings : Settings) (sink : Place) (j : Journal) (done : List Scanned) : Journal :=
  { j with
    inserted := j.inserted ++ insertionsOf settings done
    recorded := j.recorded ++ insertionsAt settings sink done
    pending := j.pending ++ insertionsAt settings sink done }

/-- The journal after a consolidation that has published a catalog. It may not have run all the same. -/
def consolidated (j : Journal) (prune ran : Bool) : Journal :=
  { j with
    pending := if ran then [] else j.pending
    entered := j.entered.filter fun t => !prune || j.pendingKeys.contains t.key }

def edited (j : Journal) (entered : List Translation) : Journal :=
  { j with entered := entered ++ j.entered.filter fun t => !entered.any fun e => e.key == t.key && e.locale == t.locale }

/-- What becomes of a journal at a consolidation. One that publishes nothing drops nothing. -/
inductive Consolidated (c : Consolidation) (w : Workspace) (j : Journal) : Journal → Prop
  | published (log : Record.Log) : c.Publishes w log → Consolidated c w j (j.consolidated c.prune (c.run w).1.ran)
  | unpublished : (∀ log, ¬ c.Publishes w log) → Consolidated c w j j

end Journal

/-- What people do between commands: they change files at will, and in the catalog they enter translations. The sink is
none of their files, and what they do not enter still stands in the catalog. -/
structure IsEdit (c : Consolidation) (w w' : Workspace) (entered : List Translation) : Prop where
  directory : w'.directory = w.directory
  sink : w'.disk.bytesAt (w.placeOf c.sink) = w.disk.bytesAt (w.placeOf c.sink)
  kept : ∀ key locale value, (∀ e ∈ entered, e.key = key → e.locale ≠ locale) → c.store.Shows w key locale value →
    c.store.Shows w' key locale value
  authored : ∀ e ∈ entered, Locale.isGenerated e.locale = false ∧ e.value ≠ ""
  shown : ∀ e ∈ entered, c.store.Shows w' e.key e.locale e.value

/-- People may change what is neither the sink nor the catalog. -/
theorem isEdit_of_read {c : Consolidation} {w w' : Workspace} {content : Bytes} (hdirectory : w'.directory = w.directory)
    (hroom : w'.room = w.room) (hsink : w'.disk.bytesAt (w.placeOf c.sink) = w.disk.bytesAt (w.placeOf c.sink))
    (hread : w.read c.store.file = .ok content) (hread' : w'.read c.store.file = .ok content) : IsEdit c w w' [] where
  directory := hdirectory
  sink := hsink
  kept := fun _ _ _ _ hshows => hshows.of_read hroom fun content' hcontent => by
    rw [hread', ← hread, hcontent]
  authored := fun _ he => absurd he List.not_mem_nil
  shown := fun _ he => absurd he List.not_mem_nil

/-- Runs of commands and edits on a project with an empty sink, with the journal of what happened. Any earlier catalog
may be there, in any state. -/
inductive Workflow (prune : Bool) (root : Path) : Workspace → Journal → Prop
  | start (w : Workspace) :
      w.directory = root → w.disk.bytesAt (w.placeOf (Consolidation.pruning prune root).sink) = [] →
        Workflow prune root w .empty
  | scan {w : Workspace} {j : Journal} (terminal : Terminal) (current : Locale) {arguments paths : List String}
      {level : Option String} {json write : Bool} :
      Workflow prune root w j →
        Arguments.request? arguments = some (.run ⟨level, json, .scan paths write, none⟩) →
          Workflow prune root (Command.run (Settings.pruning prune) terminal current w arguments).workspace
            (j.scanned (Settings.pruning prune) (w.placeOf (Consolidation.pruning prune root).sink)
              (Command.scans terminal (Settings.pruning prune) paths write w))
  | consolidate {w : Workspace} {j j' : Journal} (terminal : Terminal) (current : Locale) {arguments : List String}
      {level : Option String} {json : Bool} :
      Workflow prune root w j → Arguments.request? arguments = some (.run ⟨level, json, .consolidate, none⟩) →
        Journal.Consolidated (Consolidation.pruning prune root) w j j' →
          Workflow prune root (Command.run (Settings.pruning prune) terminal current w arguments).workspace j'
  | edit {w w' : Workspace} {j : Journal} {entered : List Translation} :
      Workflow prune root w j → IsEdit (Consolidation.pruning prune root) w w' entered →
        Workflow prune root w' (j.edited entered)

/-! ## 3. What holds of every run -/

namespace Workflow

variable {prune : Bool} {root : Path} {w w' : Workspace} {j : Journal}

/-- What is true of a project at any time of a run: the sink holds the records of what is pending, the translations that
were entered are in the catalog, and if no key is dropped, so are the texts of all that was recorded and is not pending. -/
structure Holds (prune : Bool) (root : Path) (w : Workspace) (j : Journal) : Prop where
  directory : w.directory = root
  sink : w.disk.bytesAt (w.placeOf (Consolidation.pruning prune root).sink) =
    Record.linesBytes (j.pending.map (·.record))
  origin : ∀ i ∈ j.inserted, ∃ file source, i ∈ Rewrite.insertions (Settings.pruning prune) file source
  recorded : ∀ i ∈ j.recorded, i ∈ j.inserted
  pending : ∀ i ∈ j.pending, i ∈ j.recorded
  kept : prune = false → ∀ i ∈ j.recorded, i ∈ j.pending ∨
    (Consolidation.pruning prune root).store.Shows w i.record.key Locale.fallback.code i.record.text
  authored : ∀ t ∈ j.entered, Locale.isGenerated t.locale = false ∧ t.value ≠ ""
  entered : ∀ t ∈ j.entered, (Consolidation.pruning prune root).store.Shows w t.key t.locale t.value

theorem holds_start (hdirectory : w.directory = root)
    (hempty : w.disk.bytesAt (w.placeOf (Consolidation.pruning prune root).sink) = []) : Holds prune root w .empty where
  directory := hdirectory
  sink := hempty
  origin := fun _ h => absurd h List.not_mem_nil
  recorded := fun _ h => absurd h List.not_mem_nil
  pending := fun _ h => absurd h List.not_mem_nil
  kept := fun _ _ h => absurd h List.not_mem_nil
  authored := fun _ h => absurd h List.not_mem_nil
  entered := fun _ h => absurd h List.not_mem_nil

theorem holds_scan (h : Holds prune root w j) {write : Bool} {done : List Scanned}
    (hscans : Command.Scans (Settings.pruning prune) write w done w') :
    Holds prune root w'
      (j.scanned (Settings.pruning prune) (w.placeOf (Consolidation.pruning prune root).sink) done) := by
  have hadds := addsTo_scans (Settings.hasStandardNames_pruning _) hscans
    (Consolidation.getLast?_sink prune root w) (Consolidation.getLast?_file prune root w)
  -- scans leave the file of the catalog alone, and so all that it shows
  have hshows {key locale value : String} (hshown : (Consolidation.pruning prune root).store.Shows w key locale value) :
      (Consolidation.pruning prune root).store.Shows w' key locale value :=
    hshown.of_read hadds.room hadds.file
  refine ⟨hadds.directory.trans h.directory, ?_, ?_, ?_, ?_, ?_, h.authored, fun t ht => hshows (h.entered t ht)⟩
  · rw [Workspace.placeOf_of_directory hadds.directory, Journal.scanned, List.map_append, Record.linesBytes_append,
      ← h.sink]
    exact hadds.sink
  · intro i hi
    exact (List.mem_append.mp hi).elim (h.origin i) mem_insertionsOf
  · intro i hi
    rcases List.mem_append.mp hi with hi | hi
    · exact List.mem_append_left _ (h.recorded i hi)
    · exact List.mem_append_right _ (mem_insertionsOf_of_mem_insertionsAt hi)
  · intro i hi
    rcases List.mem_append.mp hi with hi | hi
    · exact List.mem_append_left _ (h.pending i hi)
    · exact List.mem_append_right _ hi
  · intro hprune i hi
    rcases List.mem_append.mp hi with hi | hi
    · exact (h.kept hprune i hi).imp (List.mem_append_left _) hshows
    · exact .inl (List.mem_append_right _ hi)

theorem holds_edit (h : Holds prune root w j) {entered : List Translation}
    (hedit : IsEdit (Consolidation.pruning prune root) w w' entered) : Holds prune root w' (j.edited entered) := by
  -- a text is in the slot of the default locale, which people do not fill
  have htext : ∀ e ∈ entered, ∀ key, e.key = key → e.locale ≠ Locale.fallback.code := by
    rintro e he key - heq
    have hnot := (hedit.authored e he).1
    rw [heq] at hnot
    exact absurd hnot (by decide)
  refine ⟨hedit.directory.trans h.directory, ?_, h.origin, h.recorded, h.pending, ?_, ?_, ?_⟩
  · rw [Workspace.placeOf_of_directory hedit.directory, hedit.sink]
    exact h.sink
  · intro hprune i hi
    exact (h.kept hprune i hi).imp_right (hedit.kept _ _ _ fun e he => htext e he _)
  · intro t ht
    rcases List.mem_append.mp ht with ht | ht
    · exact hedit.authored t ht
    · exact h.authored t (List.mem_of_mem_filter ht)
  · intro t ht
    rcases List.mem_append.mp ht with ht | ht
    · exact hedit.shown t ht
    · obtain ⟨ht, hfilter⟩ := List.mem_filter.mp ht
      refine hedit.kept _ _ _ (fun e he hkey hlocale => ?_) (h.entered t ht)
      simp only [Bool.not_eq_true', List.any_eq_false, Bool.and_eq_true, beq_iff_eq, not_and] at hfilter
      exact hfilter e he hkey hlocale

theorem Holds.isCanonical (h : Holds prune root w j) : ∀ r ∈ j.pending.map (·.record), r.IsCanonical :=
  isCanonical_of_inserted fun i hi => h.origin i (h.recorded i (h.pending i hi))

/-- Keys tell what was put into sources apart. -/
theorem Holds.text_eq (h : Holds prune root w j) (hkeys : HaveDistinctKeys (j.inserted.map (·.record)))
    {i : Rewrite.Insertion} (hi : i ∈ j.inserted) :
    ∀ r ∈ j.pending.map (·.record), r.key = i.record.key → r.text = i.record.text := by
  intro r hr hkey
  obtain ⟨i', hi', rfl⟩ := List.mem_map.mp hr
  exact hkeys.text_eq (key_of_inserted h.origin) (List.mem_map_of_mem (h.recorded i' (h.pending i' hi')))
    (List.mem_map_of_mem hi) hkey

theorem Holds.mem_keys {j : Journal} {key : String} (h : key ∈ j.pendingKeys) :
    key ∈ (j.pending.map (·.record)).map (·.key) := by
  rwa [List.map_map]

/-- The text of what is pending is in the catalog after a consolidation that ran. -/
theorem Holds.shows_pending (h : Holds prune root w j) (hkeys : HaveDistinctKeys (j.inserted.map (·.record)))
    (hran : ((Consolidation.pruning prune root).run w).1.ran = true) {i : Rewrite.Insertion} (hi : i ∈ j.inserted)
    (hpending : i.record.key ∈ j.pendingKeys) :
    (Consolidation.pruning prune root).store.Shows ((Consolidation.pruning prune root).run w).2 i.record.key
      Locale.fallback.code i.record.text :=
  Consolidation.shows_run_record (Consolidation.isApart_pruning prune root w) hran h.sink h.isCanonical
    (Holds.mem_keys hpending) (h.text_eq hkeys hi)

/-- If no key is dropped, a text is in the catalog after a consolidation if it was there before. -/
theorem Holds.shows_text (h : Holds prune root w j) (hkeys : HaveDistinctKeys (j.inserted.map (·.record)))
    (hprune : prune = false) {i : Rewrite.Insertion} (hi : i ∈ j.recorded)
    (hbefore : (Consolidation.pruning prune root).store.Shows w i.record.key Locale.fallback.code i.record.text) :
    (Consolidation.pruning prune root).store.Shows ((Consolidation.pruning prune root).run w).2 i.record.key
      Locale.fallback.code i.record.text :=
  Consolidation.shows_run_text (Consolidation.isApart_pruning prune root w) h.sink h.isCanonical hprune
    (h.text_eq hkeys (h.recorded i hi)) hbefore

/-- A consolidation that has not run leaves the sink. -/
theorem Holds.sink_of_not_ran (h : Holds prune root w j) (hran : ((Consolidation.pruning prune root).run w).1.ran = false) :
    ((Consolidation.pruning prune root).run w).2.disk.bytesAt (w.placeOf (Consolidation.pruning prune root).sink) =
      Record.linesBytes (j.pending.map (·.record)) := by
  rw [Consolidation.bytesAt_run_of_not_ran (Consolidation.isApart_pruning prune root w)
    (Consolidation.sink_ne_asidePlace prune root w) hran]
  exact h.sink

/-- What publishes nothing has not run. -/
theorem ran_of_not_publishes {c : Consolidation} (hapart : c.IsApart w) (hnot : ∀ log, ¬ c.Publishes w log) :
    (c.run w).1.ran = false := by
  rw [← Bool.not_eq_true]
  intro hran
  obtain ⟨⟨log, hready, hcatalog, -⟩, -⟩ := Consolidation.isPublished_of_ran hapart hran
  exact hnot log ⟨hready, hcatalog⟩

theorem holds_unpublished (h : Holds prune root w j)
    (hnot : ∀ log, ¬ (Consolidation.pruning prune root).Publishes w log) :
    Holds prune root ((Consolidation.pruning prune root).run w).2 j := by
  have hapart := Consolidation.isApart_pruning prune root w
  have hdirectory := (Consolidation.changesOnly_run (Consolidation.pruning prune root) w).directory
  refine ⟨hdirectory.trans h.directory, ?_, h.origin, h.recorded, h.pending, ?_, h.authored, ?_⟩
  · rw [Workspace.placeOf_of_directory hdirectory]
    exact h.sink_of_not_ran (ran_of_not_publishes hapart hnot)
  · exact fun hprune i hi =>
      (h.kept hprune i hi).imp_right (Consolidation.shows_run_of_not_publishes hapart hnot)
  · exact fun t ht => Consolidation.shows_run_of_not_publishes hapart hnot (h.entered t ht)

theorem holds_published (h : Holds prune root w j) (hkeys : HaveDistinctKeys (j.inserted.map (·.record))) :
    Holds prune root ((Consolidation.pruning prune root).run w).2
      (j.consolidated prune ((Consolidation.pruning prune root).run w).1.ran) := by
  have hapart := Consolidation.isApart_pruning prune root w
  have hdirectory := (Consolidation.changesOnly_run (Consolidation.pruning prune root) w).directory
  generalize hran : ((Consolidation.pruning prune root).run w).1.ran = ran
  refine ⟨hdirectory.trans h.directory, ?_, h.origin, h.recorded, ?_, ?_, ?_, ?_⟩
  · rw [Workspace.placeOf_of_directory hdirectory, Journal.consolidated]
    cases ran with
    -- what ran has taken the sink away, and nothing is pending; what did not has left it
    | true => exact (Consolidation.isPublished_of_ran hapart hran).2
    | false => exact h.sink_of_not_ran hran
  · intro i hi
    rw [Journal.consolidated] at hi
    split at hi
    · exact absurd hi List.not_mem_nil
    · exact h.pending i hi
  · intro hprune i hi
    cases ran with
    | true =>
      rcases h.kept hprune i hi with hpending | hbefore
      · exact .inr (h.shows_pending hkeys hran (h.recorded i hi) (List.mem_map_of_mem hpending))
      · exact .inr (h.shows_text hkeys hprune hi hbefore)
    -- the catalog was written even so, before the lookup module failed
    | false => exact (h.kept hprune i hi).imp_right (h.shows_text hkeys hprune hi)
  · exact fun t ht => h.authored t (List.mem_of_mem_filter ht)
  · intro t ht
    obtain ⟨ht, hkept⟩ := List.mem_filter.mp ht
    obtain ⟨hlocale, hvalue⟩ := h.authored t ht
    rw [Bool.or_eq_true, Bool.not_eq_true', List.contains_iff_mem] at hkept
    exact Consolidation.shows_run_translation hapart h.sink h.isCanonical hlocale hvalue
      (hkept.symm.imp_left Holds.mem_keys) (h.entered t ht)

/-- What a command leaves that consolidates in the working directory. -/
theorem workspace_consolidate (hdirectory : w.directory = root) {arguments : List String} {level : Option String}
    {json : Bool} (h : Arguments.request? arguments = some (.run ⟨level, json, .consolidate, none⟩)) (terminal : Terminal)
    (current : Locale) :
    (Command.run (Settings.pruning prune) terminal current w arguments).workspace =
      ((Consolidation.pruning prune root).run w).2 := by
  rw [Command.workspace_run_consolidate h rfl, ← hdirectory]
  rfl

/-- What is true of a project at any time of a run. -/
theorem holds (h : Workflow prune root w j) (hkeys : HaveDistinctKeys (j.inserted.map (·.record))) :
    Holds prune root w j := by
  induction h with
  | start w hdirectory hempty => exact holds_start hdirectory hempty
  | scan terminal current _ hrequest ih =>
    rw [Journal.scanned, List.map_append] at hkeys
    have hbefore := ih (haveDistinctKeys_of_subset hkeys fun r hr => List.mem_append_left _ hr)
    exact holds_scan hbefore (Command.scans_run hrequest rfl terminal current)
  | consolidate terminal current _ hrequest hjournal ih =>
    cases hjournal with
    | published log hpublishes =>
      have hbefore := ih hkeys
      rw [workspace_consolidate hbefore.directory hrequest]
      exact holds_published hbefore hkeys
    | unpublished hnot =>
      have hbefore := ih hkeys
      rw [workspace_consolidate hbefore.directory hrequest]
      exact holds_unpublished hbefore hnot
  | edit _ hedit ih => exact holds_edit (ih hkeys) hedit

/-- What is inserted stands for a text, and is the call of its key. -/
theorem Holds.insertion_spec (h : Holds prune root w j) {i : Rewrite.Insertion} (hi : i ∈ j.inserted) :
    ∃ argument shown, i.edit.replacement = (Rewrite.callText "t" i.record.key argument).toList ∧
      Source.shownText i.text.raw = some shown ∧ i.record.text = String.ofList (Text.trim shown) ∧
        i.record.text ≠ "" := by
  obtain ⟨file, source, hinsertion⟩ := h.origin i hi
  obtain ⟨o, shown, -, -, hshown, -, hrecord, hedit⟩ := Rewrite.insertion_spec hinsertion
  have htext : i.record.text = String.ofList (Text.trim shown) := by rw [hrecord]; rfl
  exact ⟨Rewrite.localeName (Settings.pruning prune) o, shown, by rw [hedit]; rfl, hshown, htext,
    Rewrite.text_ne_of_insertion hinsertion⟩

/-! ## 4. After a consolidation -/

theorem resolver_pruning (h : w.directory = root) :
    Resolver.ofProject (Settings.pruning prune) w = Resolver.ofStore (Consolidation.pruning prune root).store := by
  rw [Resolver.ofProject, ← h]
  rfl

/-- After a consolidation that ran, every call that was put into a source looks up the text that it replaced if its key was
recorded in this project since the last consolidation that ran, or ever if no key is dropped. So are the translations
there that were entered for such keys and not dropped before. All other keys are dropped. -/
theorem resolve_consolidated (h : Workflow prune root w j) (hkeys : HaveDistinctKeys (j.inserted.map (·.record)))
    {arguments : List String} {level : Option String} {json : Bool}
    (hrequest : Arguments.request? arguments = some (.run ⟨level, json, .consolidate, none⟩))
    (hran : ((Consolidation.pruning prune root).run w).1.ran = true) (terminal : Terminal) (current reader : Locale) :
    let settings := Settings.pruning prune
    let w' := (Command.run settings terminal current w arguments).workspace
    let store := (Consolidation.pruning prune root).store
    (∀ i ∈ j.inserted, i.record.key ∈ (j.published prune).map (·.record.key) →
      ∃ argument shown, i.edit.replacement = (Rewrite.callText "t" i.record.key argument).toList ∧
        Source.shownText i.text.raw = some shown ∧
          store.Shows w' i.record.key Locale.en.code (String.ofList (Text.trim shown)) ∧
            ((Resolver.ofProject settings w').resolve w' reader i.record.key (some Locale.en.code)).1 =
              .ok (String.ofList (Text.trim shown))) ∧
      (∀ t ∈ j.entered, t.key ∈ j.pendingKeys ∨ prune = false → store.Shows w' t.key t.locale t.value) ∧
        (prune = true → ∀ key, key ∉ j.pendingKeys →
          ((Resolver.ofProject settings w').resolve w' reader key (some Locale.en.code)).1 =
            .ok (Key.placeholder key)) := by
  have hbefore := h.holds hkeys
  have hafter := holds_published hbefore hkeys
  rw [hran] at hafter
  dsimp only
  rw [workspace_consolidate hbefore.directory hrequest, resolver_pruning hafter.directory]
  refine ⟨fun i hi hpublished => ?_, fun t ht hkept => ?_, fun hprune key hdropped => ?_⟩
  · obtain ⟨argument, shown, hedit, hshown, htext, hne⟩ := hbefore.insertion_spec hi
    have hshows : (Consolidation.pruning prune root).store.Shows ((Consolidation.pruning prune root).run w).2
        i.record.key Locale.fallback.code i.record.text := by
      by_cases hpending : i.record.key ∈ j.pendingKeys
      · exact hbefore.shows_pending hkeys hran hi hpending
      · rw [Journal.published] at hpublished
        split at hpublished
        · exact absurd hpublished hpending
        · rename_i hprune
          -- another call of the key was recorded, and stands for the same text
          obtain ⟨i', hi', hkey⟩ := List.mem_map.mp hpublished
          have hsame : i'.record.text = i.record.text :=
            hkeys.text_eq (key_of_inserted hbefore.origin) (List.mem_map_of_mem (hbefore.recorded i' hi'))
              (List.mem_map_of_mem hi) hkey
          have hshows := (hafter.kept (by simpa using hprune) i' hi').resolve_left List.not_mem_nil
          rwa [hkey, hsame] at hshows
    rw [htext] at hshows hne
    exact ⟨argument, shown, hedit, hshown, hshows, Resolver.resolve_of_shows hshows hne (by decide) reader⟩
  · refine hafter.entered t (List.mem_filter.mpr ⟨ht, ?_⟩)
    rw [Bool.or_eq_true, Bool.not_eq_true', List.contains_iff_mem]
    exact hkept.symm
  · have hnot : key ∉ (j.pending.map (·.record)).map (·.key) := by
      rw [List.map_map]
      exact hdropped
    exact Consolidation.resolve_run_of_dropped (Consolidation.isApart_pruning prune root w) hran hbefore.sink
      hbefore.isCanonical hprune hnot reader _

end Workflow

/-! A project with one source. A text is found and published, then a second one is added beside the call of the first:
the second consolidation runs, and drops the key of the call that still stands in the source. -/

namespace Workflow.Sample

/-- The consolidation of the project, with the choices of a project that chooses nothing. -/
def consolidation : Consolidation := Consolidation.pruning true ⟨"/", []⟩

/-- The content of the source with some markup. -/
def sourceOf (markup : String) : Bytes := CatalogStore.bytesOf ("import \x7b t \x7d from 'x';\n" ++ markup)

def contentOf (c : Catalog) : Bytes := CatalogStore.bytesOf (c.fileText true)

/-- The project with a source, a catalog and maybe a sink. -/
def project (markup : String) (catalog : Bytes) (sink : Disk) : Workspace where
  disk :=
    [(["a.jsx"], .file (sourceOf markup)), ([".next"], .directory),
      ([".next", "extracted-strings.json"], .file catalog)] ++ sink
  directory := ⟨"/", []⟩
  events := []

def sinkOf (records : List Record) : Disk := [([".text-extraction.tmp"], .file (Record.linesBytes records))]

def terminal : Terminal := .ofWidth false 80

/-- The scans that a command makes of the project. -/
def scansOf (w : Workspace) : List Scanned := Command.scans terminal (Settings.pruning true) ["."] true w

def found (w : Workspace) : List Rewrite.Insertion := insertionsOf (Settings.pruning true) (scansOf w)

/-- The records of all of this go to the sink of the project. -/
def IsRecorded (w : Workspace) : Prop :=
  insertionsAt (Settings.pruning true) (w.placeOf consolidation.sink) (scansOf w) = found w

def first : Workspace := project "<p>Hi</p>" (contentOf []) []

def second : Workspace := project "<p>\x7bt('5d906d475aae9289')\x7d</p>" (contentOf []) (sinkOf ((found first).map (·.record)))

def published : Catalog := consolidation.merged second ⟨(found first).map (·.record), []⟩

/-- The project after the first consolidation, with another text in its source. -/
def third : Workspace := project "<p>\x7bt('5d906d475aae9289')\x7d<b>Yo</b></p>" (contentOf published) []

def fourth : Workspace :=
  project "<p>\x7bt('5d906d475aae9289')\x7d<b>\x7bt('a02e8864f62b997e')\x7d</b></p>" (contentOf published)
    (sinkOf ((found third).map (·.record)))

theorem isRecorded_of_all {w : Workspace} (h : ((scansOf w).all fun s =>
    s.before.placeOf (Scan.sinkOf (Settings.pruning true) s.before s.path) = w.placeOf consolidation.sink) = true) :
    IsRecorded w := by
  rw [IsRecorded, insertionsAt, List.filter_eq_self.mpr (List.all_eq_true.mp h), found]

theorem isRecorded_first : IsRecorded first := isRecorded_of_all (by decide +kernel)

theorem isRecorded_third : IsRecorded third := isRecorded_of_all (by decide +kernel)

theorem calls_first : (found first).map (fun i => (i.record.key, i.record.text, String.ofList i.edit.replacement)) =
    [("5d906d475aae9289", "Hi", "\x7bt('5d906d475aae9289')\x7d")] := by
  decide +kernel

theorem keys_third : (found third).map (·.record.key) = ["a02e8864f62b997e"] := by
  decide +kernel

theorem haveDistinctKeys_found : HaveDistinctKeys ((found first ++ found third).map (·.record)) := by
  have hkeys : ((found first ++ found third).map (·.record)).map (·.key) = ["5d906d475aae9289", "a02e8864f62b997e"] := by
    have hfirst := congrArg (List.map Prod.fst) calls_first
    rw [List.map_map] at hfirst
    rw [List.map_map, List.map_append]
    exact congrArg₂ (· ++ ·) hfirst keys_third
  exact haveDistinctKeys_of_nodup (by rw [hkeys]; decide)
    (key_of_inserted fun i hi => (List.mem_append.mp hi).elim mem_insertionsOf mem_insertionsOf)

theorem isApart (w : Workspace) : consolidation.IsApart w := Consolidation.isApart_pruning true ⟨"/", []⟩ w

theorem read_catalog (markup : String) (catalog : Bytes) (sink : Disk) :
    (project markup catalog sink).read consolidation.store.file = .ok catalog :=
  Disk.read_eq_ok_iff.mpr ⟨rfl, rfl⟩

theorem bytesAt_sink (markup : String) (catalog : Bytes) (records : List Record) :
    (project markup catalog (sinkOf records)).disk.bytesAt
      ((project markup catalog (sinkOf records)).placeOf consolidation.sink) = Record.linesBytes records :=
  Disk.bytesAt_of_file rfl

/-- A consolidation of the project runs. -/
theorem ran_project (markup : String) {c : Catalog} (hc : c.IsSound) {records : List Record}
    (hrecords : ∀ r ∈ records, r.IsCanonical) :
    (consolidation.run (project markup (contentOf c) (sinkOf records))).1.ran = true := by
  have hprior : consolidation.prior (project markup (contentOf c) (sinkOf records)) =
      (⟨c.arranged true, []⟩, project markup (contentOf c) (sinkOf records)) := by
    have hread := read_catalog markup (contentOf c) (sinkOf records)
    rw [Consolidation.prior, CatalogStore.load_of_read_fileText hc hread]
    rfl
  have hsink : (project markup (contentOf c) (sinkOf records)).read consolidation.sink =
      .ok (Record.linesBytes records) :=
    Disk.read_eq_ok_iff.mpr ⟨rfl, rfl⟩
  have hready : consolidation.IsReady (project markup (contentOf c) (sinkOf records)) ⟨records, []⟩ := by
    refine ⟨Workspace.isFile_of_read hsink, Sink.read_linesBytes hsink hrecords, ?_⟩
    rw [Consolidation.IsWritable, hprior]
    exact ⟨CatalogStore.isTooDeep_of_load (CatalogStore.load_of_read_fileText hc (read_catalog markup _ _)), rfl⟩
  -- both files can be written, whatever is in them
  have hcatalog : ∀ bytes, (project markup (contentOf c) (sinkOf records)).disk.replace
      ((project markup (contentOf c) (sinkOf records)).absolute consolidation.store.file) bytes =
        .ok (project markup bytes (sinkOf records)).disk := fun _ => rfl
  have hmodule : ∀ bytes bytes', ∃ disk, (project markup bytes (sinkOf records)).disk.replace
      ((project markup (contentOf c) (sinkOf records)).absolute (Settings.standard.lookupModuleFile ⟨"/", []⟩)) bytes' =
        .ok disk := fun _ _ => ⟨_, rfl⟩
  refine Consolidation.ran_of_canWrite (isApart _) hready ?_
  rw [Consolidation.CanWrite, hprior]
  refine ⟨_, hcatalog _, fun path hpath => ?_⟩
  obtain rfl := Option.some.inj hpath
  exact hmodule (consolidation.catalogBytes _ _) (consolidation.moduleBytes _ _)

theorem request_scan : Arguments.request? ["scan", ".", "--write"] =
    some (.run ⟨none, false, .scan ["."] true, none⟩) := by
  decide +kernel

theorem request_consolidate : Arguments.request? ["consolidate"] =
    some (.run ⟨none, false, .consolidate, none⟩) := by
  decide +kernel

/-- A scan of the project, and edits of its source. -/
theorem workflow_scan {markup : String} {catalog : Bytes} {before : List Rewrite.Insertion}
    (h : Workflow true ⟨"/", []⟩ (project markup catalog []) ⟨before, before, [], []⟩)
    (hrecorded : IsRecorded (project markup catalog []))
    (hkeys : HaveDistinctKeys ((before ++ found (project markup catalog [])).map (·.record))) (markup' : String) :
    Workflow true ⟨"/", []⟩
      (project markup' catalog (sinkOf ((found (project markup catalog [])).map (·.record))))
      ⟨before ++ found (project markup catalog []), before ++ found (project markup catalog []),
        found (project markup catalog []), []⟩ := by
  have hscan := Workflow.scan terminal .en h request_scan
  have hafter := hscan.holds hkeys
  have hscans : Command.Scans (Settings.pruning true) true (project markup catalog []) _ _ :=
    Command.scans_run request_scan rfl terminal .en
  have hadds := addsTo_scans (Settings.hasStandardNames_pruning _) hscans
    (Consolidation.getLast?_sink true ⟨"/", []⟩ (project markup catalog []))
    (Consolidation.getLast?_file true ⟨"/", []⟩ (project markup catalog []))
  have hread := hadds.file catalog (read_catalog markup catalog [])
  have hplace := Workspace.placeOf_of_directory (w := project markup' catalog []) hafter.directory consolidation.sink
  have hjournal : Journal.scanned (Settings.pruning true) ((project markup catalog []).placeOf consolidation.sink)
      ⟨before, before, [], []⟩ (scansOf (project markup catalog [])) =
        ⟨before ++ found (project markup catalog []), before ++ found (project markup catalog []),
          found (project markup catalog []), []⟩ := by
    rw [Journal.scanned, hrecorded]
    rfl
  rw [show (Consolidation.pruning true ⟨"/", []⟩) = consolidation from rfl, ← scansOf, hjournal] at hscan hafter
  have hedit : IsEdit consolidation
      (Command.run (Settings.pruning true) terminal .en (project markup catalog []) ["scan", ".", "--write"]).workspace
      (project markup' catalog (sinkOf ((found (project markup catalog [])).map (·.record)))) [] := by
    refine isEdit_of_read hafter.directory.symm hadds.room.symm ?_ hread (read_catalog _ _ _)
    refine Eq.trans ?_ hafter.sink.symm
    rw [hplace]
    exact bytesAt_sink markup' catalog _
  exact .edit hscan hedit

theorem workflow_second : Workflow true ⟨"/", []⟩ second ⟨found first, found first, found first, []⟩ := by
  have hkeys : HaveDistinctKeys ((found first).map (·.record)) :=
    haveDistinctKeys_of_subset haveDistinctKeys_found fun r hr => by
      rw [List.map_append]
      exact List.mem_append_left _ hr
  rw [← List.nil_append (found first)] at hkeys
  have hscan := workflow_scan (.start first rfl rfl) isRecorded_first hkeys "<p>\x7bt('5d906d475aae9289')\x7d</p>"
  rwa [List.nil_append] at hscan

theorem isCanonical_found (w : Workspace) : ∀ r ∈ (found w).map (·.record), r.IsCanonical :=
  isCanonical_of_inserted fun _ => mem_insertionsOf

theorem ran_second : (consolidation.run second).1.ran = true :=
  ran_project _ Catalog.isSound_nil (isCanonical_found first)

theorem isSound_published : published.IsSound :=
  (Consolidation.load_run (isApart second) ran_second (bytesAt_sink _ _ _) (isCanonical_found first)).2.1

theorem ran_fourth : (consolidation.run fourth).1.ran = true :=
  ran_project _ isSound_published (isCanonical_found third)

theorem workflow_third : Workflow true ⟨"/", []⟩ third ⟨found first, found first, [], []⟩ := by
  have hdirectory := (Consolidation.changesOnly_run consolidation second).directory
  have hroom := (Consolidation.changesOnly_run consolidation second).room
  obtain ⟨⟨log, hready, hcatalog, -⟩, hempty⟩ := Consolidation.isPublished_of_ran (isApart second) ran_second
  have hconsolidate := Workflow.consolidate terminal .en workflow_second request_consolidate
    (.published log ⟨hready, hcatalog⟩)
  have hrun : (Command.run (Settings.pruning true) terminal .en second ["consolidate"]).workspace =
      (consolidation.run second).2 := workspace_consolidate rfl request_consolidate terminal .en
  have hran : ((Consolidation.pruning true ⟨"/", []⟩).run second).1.ran = true := ran_second
  rw [hrun, hran] at hconsolidate
  obtain rfl := Consolidation.log_of_isReady hready (bytesAt_sink _ _ _) (isCanonical_found first)
  have hread := Workspace.content?_eq_some_iff.mp hcatalog
  have hedit : IsEdit consolidation (consolidation.run second).2 third [] := by
    refine isEdit_of_read hdirectory.symm hroom.symm ?_ hread (read_catalog _ (contentOf published) _)
    rw [Workspace.placeOf_of_directory hdirectory]
    exact hempty.symm
  exact .edit hconsolidate hedit

theorem workflow_fourth :
    Workflow true ⟨"/", []⟩ fourth ⟨found first ++ found third, found first ++ found third, found third, []⟩ :=
  workflow_scan workflow_third isRecorded_third haveDistinctKeys_found _

/-- The first scan writes the call into the source. -/
theorem read_scanned : (Command.run (Settings.pruning true) terminal .en first ["scan", ".", "--write"]).workspace.read
    ⟨"", ["a.jsx"]⟩ = second.read ⟨"", ["a.jsx"]⟩ := by
  decide +kernel

theorem read_consolidated : (consolidation.run fourth).2.read ⟨"", ["a.jsx"]⟩ = fourth.read ⟨"", ["a.jsx"]⟩ := by
  have hread : fourth.read ⟨"", ["a.jsx"]⟩ = .ok (sourceOf _) := Disk.read_eq_ok_iff.mpr ⟨rfl, rfl⟩
  rw [hread]
  exact (Consolidation.changesOnly_run consolidation fourth).read (by decide) hread

end Workflow.Sample

open Workflow.Sample in
theorem resolve_consolidated_second_text :
    let w' := (Command.run (Settings.pruning true) terminal .en fourth ["consolidate"]).workspace
    (found third).length = 1 ∧
      ∀ i ∈ found third, ∃ argument shown,
        i.edit.replacement = (Rewrite.callText "t" i.record.key argument).toList ∧
          Source.shownText i.text.raw = some shown ∧
            consolidation.store.Shows w' i.record.key Locale.en.code (String.ofList (Text.trim shown)) ∧
              ((Resolver.ofProject (Settings.pruning true) w').resolve w' .en i.record.key (some Locale.en.code)).1 =
                .ok (String.ofList (Text.trim shown)) := by
  refine ⟨?_, fun i hi => ?_⟩
  · have hlength := congrArg List.length keys_third
    rwa [List.length_map] at hlength
  · exact (Workflow.resolve_consolidated workflow_fourth haveDistinctKeys_found request_consolidate ran_fourth terminal
      .en .en).1 i (List.mem_append_right _ hi) (List.mem_map_of_mem hi)

open Workflow.Sample in
/-- A call stands in a source after a consolidation that ran, and the text that it replaced is not shown: the text was
not found again, since it is no longer in the source. -/
theorem resolve_dropped :
    let w' := (Command.run (Settings.pruning true) terminal .en fourth ["consolidate"]).workspace
    (Command.run (Settings.pruning true) terminal .en first ["scan", ".", "--write"]).workspace.read ⟨"", ["a.jsx"]⟩ =
        second.read ⟨"", ["a.jsx"]⟩ ∧
    ∃ j, Workflow true ⟨"/", []⟩ fourth j ∧ HaveDistinctKeys (j.inserted.map (·.record)) ∧
      (consolidation.run fourth).1.ran = true ∧
        ∃ i ∈ j.inserted, i.record.text = "Hi" ∧
          (∃ before after, w'.read ⟨"", ["a.jsx"]⟩ =
            .ok (CatalogStore.bytesOf (before ++ String.ofList i.edit.replacement ++ after))) ∧
              ((Resolver.ofProject (Settings.pruning true) w').resolve w' .en i.record.key (some Locale.en.code)).1 =
                .ok "[5d906d47]" := by
  have hrun : (Command.run (Settings.pruning true) terminal .en fourth ["consolidate"]).workspace =
      (consolidation.run fourth).2 := Workflow.workspace_consolidate rfl request_consolidate terminal .en
  obtain ⟨i, hi, hcall⟩ : ∃ i ∈ found first,
      (i.record.key, i.record.text, String.ofList i.edit.replacement) =
        ("5d906d475aae9289", "Hi", "\x7bt('5d906d475aae9289')\x7d") := by
    have hmem : ("5d906d475aae9289", "Hi", "\x7bt('5d906d475aae9289')\x7d") ∈ (found first).map
        (fun i => (i.record.key, i.record.text, String.ofList i.edit.replacement)) := by
      rw [calls_first]
      exact List.mem_cons_self
    exact List.mem_map.mp hmem
  simp only [Prod.mk.injEq] at hcall
  obtain ⟨hkey, htext, hedit⟩ := hcall
  refine ⟨read_scanned, _, workflow_fourth, haveDistinctKeys_found, ran_fourth, i, List.mem_append_left _ hi, htext, ?_, ?_⟩
  · refine ⟨"import \x7b t \x7d from 'x';\n<p>", "<b>\x7bt('a02e8864f62b997e')\x7d</b></p>", ?_⟩
    rw [hrun, read_consolidated, hedit]
    exact Disk.read_eq_ok_iff.mpr ⟨rfl, rfl⟩
  · have hnot : "5d906d475aae9289" ∉ ((found third).map (·.record)).map (·.key) := by
      rw [List.map_map]
      show _ ∉ (found third).map (·.record.key)
      rw [keys_third]
      decide
    have hdirectory := (Consolidation.changesOnly_run consolidation fourth).directory
    rw [hrun, hkey, Workflow.resolver_pruning hdirectory]
    exact Consolidation.resolve_run_of_dropped (isApart fourth) ran_fourth (bytesAt_sink _ _ _)
      (isCanonical_found third) rfl hnot .en (some Locale.en.code)

end Phrasebook
