import Phrasebook.Proofs.Lookups
import Phrasebook.Proofs.Scans

/-!
# A build from scratch

All sources of a project are scanned into an empty sink, in any order, and the sink is consolidated. Every call that was
put into a source then shows the text that it stands for. The earlier catalog does not matter, whatever state it is in,
nor do the settings of the consolidation.

Results:
1. `bytesAt_sink`: what is in the sink after the scans.
2. `resolve_scanned`: what the calls show after the consolidation.
-/

namespace Phrasebook

/-- Scans of sources of one project, one after the other. -/
inductive ProjectScans (settings : Settings) (root : Path) (w : Workspace) : List Scanned → Workspace → Prop
  | start : ProjectScans settings root w [] w
  | scan {done : List Scanned} {w' : Workspace} (path : Path) (source : String) :
      ProjectScans settings root w done w' → Scan.projectRoot w' settings (w'.absolute path) = root →
        ProjectScans settings root w (done ++ [⟨w', path, source⟩]) (Scanned.after settings ⟨w', path, source⟩)

namespace ProjectScans

variable {settings : Settings} {root : Path} {w w' : Workspace} {done : List Scanned}

def records (settings : Settings) (done : List Scanned) : List Record :=
  done.flatMap (Scanned.records settings)

theorem key_of_mem_records {settings : Settings} {done : List Scanned} {r : Record} (h : r ∈ records settings done) :
    r.key = Key.within r.text r.context := by
  obtain ⟨s, -, hs⟩ := List.mem_flatMap.mp h
  exact Scan.key_of_mem_records hs

theorem mem_records_of_insertion {settings : Settings} {done : List Scanned} {s : Scanned} (hs : s ∈ done)
    {i : Rewrite.Insertion} (hi : i ∈ s.insertions settings) : i.record ∈ records settings done :=
  List.mem_flatMap.mpr ⟨s, hs, by rw [s.records_eq]; exact List.mem_map_of_mem hi⟩

theorem isCanonical_records (settings : Settings) (done : List Scanned) : ∀ r ∈ records settings done, r.IsCanonical := by
  intro r hr
  obtain ⟨s, -, hs⟩ := List.mem_flatMap.mp hr
  exact Scan.records_isCanonical settings s.before s.path s.source r hs

/-- Scans touch the sink of their project alone, and add their records to it. -/
theorem bytesAt_sink (h : ProjectScans settings root w done w') :
    Workspace.ChangesOnly [w.placeOf (settings.sinkPath root)] w w' ∧
      w'.disk.bytesAt (w.placeOf (settings.sinkPath root)) =
        w.disk.bytesAt (w.placeOf (settings.sinkPath root)) ++ Record.linesBytes (records settings done) := by
  induction h with
  | start => exact ⟨.refl _ _, (List.append_nil _).symm⟩
  | @scan done w' path source _ hroot ih =>
    obtain ⟨hchanges, hbytes⟩ := ih
    have hsink : w'.placeOf (Scan.sinkOf settings w' path) = w.placeOf (settings.sinkPath root) := by
      rw [Scan.sinkOf, hroot, hchanges.placeOf]
    have hstep := Scan.changesOnly_run settings w' path source
    have hadded := Scan.bytesAt_run settings w' path source
    rw [hsink] at hstep hadded
    refine ⟨hchanges.trans hstep, ?_⟩
    rw [Scanned.after, hadded, hbytes, records, records, List.flatMap_append, List.append_assoc,
      Record.linesBytes_append, List.flatMap_singleton]
    rfl

end ProjectScans

/-- Keys tell the texts and contexts of some records apart. -/
def HaveDistinctKeys (records : List Record) : Prop :=
  ∀ a ∈ records, ∀ b ∈ records, Key.within a.text a.context = Key.within b.text b.context →
    a.text = b.text ∧ a.context = b.context

theorem haveDistinctKeys_of_nodup {records : List Record} (h : (records.map (·.key)).Nodup)
    (hkey : ∀ r ∈ records, r.key = Key.within r.text r.context) : HaveDistinctKeys records := by
  intro a ha b hb heq
  obtain rfl := List.inj_on_of_nodup_map h ha hb (by rw [hkey a ha, hkey b hb, heq])
  exact ⟨rfl, rfl⟩

theorem haveDistinctKeys_of_subset {records more : List Record} (h : HaveDistinctKeys more)
    (hsub : ∀ r ∈ records, r ∈ more) : HaveDistinctKeys records :=
  fun a ha b hb => h a (hsub a ha) b (hsub b hb)

/-- Where keys tell records apart, records with one key have one text. -/
theorem HaveDistinctKeys.text_eq {records : List Record} (h : HaveDistinctKeys records)
    (hkey : ∀ r ∈ records, r.key = Key.within r.text r.context) {r s : Record} (hr : r ∈ records) (hs : s ∈ records)
    (heq : r.key = s.key) : r.text = s.text :=
  (h r hr s hs (by rw [← hkey r hr, ← hkey s hs, heq])).1

section Inserted

variable {settings : Settings} {found : List Rewrite.Insertion}

/-- The records of what was put into sources are canonical. -/
theorem isCanonical_of_inserted (h : ∀ i ∈ found, ∃ file source, i ∈ Rewrite.insertions settings file source) :
    ∀ r ∈ found.map (·.record), r.IsCanonical := by
  intro r hr
  obtain ⟨i, hi, rfl⟩ := List.mem_map.mp hr
  obtain ⟨file, source, hinsertion⟩ := h i hi
  exact Rewrite.isCanonical_of_insertion hinsertion

/-- Their keys are those of their texts and contexts. -/
theorem key_of_inserted (h : ∀ i ∈ found, ∃ file source, i ∈ Rewrite.insertions settings file source) :
    ∀ r ∈ found.map (·.record), r.key = Key.within r.text r.context := by
  intro r hr
  obtain ⟨i, hi, rfl⟩ := List.mem_map.mp hr
  obtain ⟨file, source, hinsertion⟩ := h i hi
  exact Rewrite.key_of_insertion hinsertion

end Inserted

/-- After a build from scratch every call that was put into a source looks up the text that it replaced. -/
theorem resolve_scanned {settings : Settings} {root : Path} {w w' : Workspace} {done : List Scanned}
    (hscans : ProjectScans settings root w done w') (hempty : w.disk.bytesAt (w.placeOf (settings.sinkPath root)) = [])
    (hkeys : HaveDistinctKeys (ProjectScans.records settings done))
    (hapart : (Consolidation.ofProject settings root).IsApart w)
    (hran : ((Consolidation.ofProject settings root).run w').1.ran = true) (current : Locale) :
    ∀ s ∈ done,
      (∃ more, (more = [] ∨ ∃ place, more = [⟨place, place, Rewrite.importTextAt settings place⟩]) ∧
        Splice.apply s.source.toList ((s.insertions settings).map (·.edit) ++ more) =
          .ok (s.result settings).code.toList) ∧
      ∀ i ∈ s.insertions settings, ∃ argument shown,
        i.edit.replacement = (Rewrite.callText settings.lookupFunction i.record.key argument).toList ∧
          Source.shownText i.text.raw = some shown ∧
            ((Resolver.ofStore (CatalogStore.ofProject settings root)).resolve
              ((Consolidation.ofProject settings root).run w').2 current i.record.key (some Locale.en.code)).1 =
                .ok (String.ofList (Text.trim shown)) := by
  intro s hs
  refine ⟨s.code_eq settings, fun i hi => ?_⟩
  obtain ⟨hchanges, hbytes⟩ := hscans.bytesAt_sink
  rw [hempty, List.nil_append] at hbytes
  obtain ⟨name, -, hinsertion⟩ := Scan.mem_insertions hi
  obtain ⟨o, shown, -, -, hshown, -, hrecord, hedit⟩ := Rewrite.insertion_spec hinsertion
  refine ⟨Rewrite.localeName settings o, shown, by rw [hedit], hshown, ?_⟩
  have hmem := ProjectScans.mem_records_of_insertion hs hi
  obtain ⟨last, hlast, hlastKey, hresolve⟩ := Consolidation.resolve_run (hapart.of_directory hchanges.directory) hran
    (by rw [hchanges.placeOf]; exact hbytes) (ProjectScans.isCanonical_records settings done) (List.mem_map_of_mem hmem) current
  -- the last record of the key is of the same text, since its key is
  have htext := (hkeys last hlast i.record hmem (by
    rw [← ProjectScans.key_of_mem_records hlast, ← ProjectScans.key_of_mem_records hmem, hlastKey])).1
  rw [hrecord] at htext
  exact hresolve.trans (congrArg Except.ok htext)

/-! A source with one text, in a project whose catalog cannot be read. -/

namespace ProjectScans.Sample

def broken : Workspace where
  disk := [([".next"], .directory), ([".next", "extracted-strings.json"], .file (CatalogStore.bytesOf "\x7b"))]
  directory := ⟨"/", []⟩
  events := []

def greeting : Scanned := ⟨broken, ⟨"", ["a.jsx"]⟩, "import \x7b t \x7d from 'x';\n<p> Hi &amp; bye </p>"⟩

theorem haveDistinctKeys_greeting : HaveDistinctKeys (records Settings.standard [greeting]) := by
  have hlength : (records Settings.standard [greeting]).length = 1 := by decide +kernel
  obtain ⟨r, hr⟩ := List.length_eq_one_iff.mp hlength
  rw [hr]
  intro a ha b hb _
  rw [List.mem_singleton.mp ha, List.mem_singleton.mp hb]
  exact ⟨rfl, rfl⟩

end ProjectScans.Sample

open ProjectScans.Sample in
theorem resolve_scanned_greeting :
    (greeting.insertions Settings.standard).length = 1 ∧
      (∃ more, (more = [] ∨ ∃ place, more = [⟨place, place, Rewrite.importTextAt Settings.standard place⟩]) ∧
        Splice.apply greeting.source.toList ((greeting.insertions Settings.standard).map (·.edit) ++ more) =
          .ok (greeting.result Settings.standard).code.toList) ∧
      ∀ i ∈ greeting.insertions Settings.standard, ∃ argument shown,
        i.edit.replacement = (Rewrite.callText "t" i.record.key argument).toList ∧
          Source.shownText i.text.raw = some shown ∧
            ((Resolver.ofStore (CatalogStore.ofProject Settings.standard ⟨"/", []⟩)).resolve
              ((Consolidation.ofProject Settings.standard ⟨"/", []⟩).run (greeting.after Settings.standard)).2 .en
              i.record.key (some Locale.en.code)).1 = .ok (String.ofList (Text.trim shown)) := by
  have hscans : ProjectScans Settings.standard ⟨"/", []⟩ broken [greeting] (greeting.after Settings.standard) :=
    .scan greeting.path greeting.source .start (by decide +kernel)
  exact ⟨by decide +kernel, resolve_scanned hscans (by decide +kernel) haveDistinctKeys_greeting
    (Consolidation.isApart_ofProject rfl rfl rfl _ _) (by decide +kernel) .en greeting List.mem_cons_self⟩

end Phrasebook
