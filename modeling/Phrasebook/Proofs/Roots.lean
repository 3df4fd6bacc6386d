import Phrasebook.Proofs.Answers
import Phrasebook.Proofs.Workflows

/-!
# Where commands look for a project

Unless the root of a project is named, a scan looks for it above every file, and the other commands take the working
directory. So a consolidation finds what a scan has found before in the same directory just if a root is named or the
working directory is the root; anywhere else it finds no sink, and what was found stays where the scan put it.

Results:
1. `IsFound.read_sink`: where a consolidation looks at the same root as the scan, it reads what was found.
2. `IsFound.bytesAt_elsewhere`: where it looks at another root, it leaves what was found alone.
3. `IsFound.agree_iff`: when a consolidation and lookups agree with a scan on where the project is.
-/

namespace Phrasebook

/-! ## 1. Roots -/

theorem Settings.sinkPath_eq {settings : Settings} (hnames : settings.HasStandardNames) (root : Path) :
    settings.sinkPath root = root.child ".text-extraction.tmp" := by
  have hpath : Path.ofString standard.sinkFilename = ⟨"", [".text-extraction.tmp"]⟩ := by decide
  rw [sinkPath, hnames.sink, hpath]
  rfl

theorem Settings.placeOf_sinkPath {settings : Settings} (hnames : settings.HasStandardNames) (root : Path)
    (w : Workspace) : w.placeOf (settings.sinkPath root) = w.placeOf root ++ [".text-extraction.tmp"] := by
  rw [sinkPath_eq hnames, Workspace.placeOf_child w _ (by decide)]

namespace Command

theorem rootOf_of_directory {w w' : Workspace} (h : w'.directory = w.directory) (settings : Settings) :
    rootOf settings w' = rootOf settings w := by
  rw [rootOf, rootOf, h]

/-- The same settings are chosen as long as a root that is named is a directory. -/
theorem settingsFor_of_directory {settings chosen : Settings} {w w' : Workspace} {root : Option String}
    (h : settingsFor settings w root = some chosen) (hdirectory : w'.directory = w.directory)
    (hroot : ∀ path, chosen.projectRoot = some path → w'.disk.at? (w'.placeOf path) = some .directory) :
    settingsFor settings w' root = some chosen := by
  cases root with
  | none => exact h
  | some text =>
    rw [settingsFor] at h ⊢
    rw [hdirectory]
    split at h
    · exact absurd h (by simp)
    · obtain rfl := Option.some.inj h
      have hfile := Disk.isFile_eq_false (hroot _ rfl)
      rw [Workspace.isFile, hfile]
      rfl

/-- Where no root comes of it, none was named. -/
theorem root_eq_none {settings chosen : Settings} {w : Workspace} {root : Option String}
    (h : settingsFor settings w root = some chosen) (hnone : chosen.projectRoot = none) : root = none := by
  cases root with
  | none => rfl
  | some text =>
    rw [settingsFor] at h
    split at h
    · exact absurd h (by simp)
    · obtain rfl := Option.some.inj h
      exact absurd hnone (by simp)

end Command

/-! ## 2. What was found in a project -/

/-- What the scans of a command put into sources whose records go to the sink of a project. -/
def foundIn (terminal : Terminal) (settings : Settings) (project : Path) (paths : List String) (write : Bool)
    (w : Workspace) : List Rewrite.Insertion :=
  insertionsAt settings (w.placeOf (settings.sinkPath project)) (Command.scans terminal settings paths write w)

/-- A command that scans with some settings and maybe a root, from a working directory without detours, finds something
in files of a project with an empty sink, and keys tell apart what it finds. -/
structure IsFound (terminal : Terminal) (settings chosen : Settings) (root : Option String) (project : Path)
    (paths : List String) (write : Bool) (w : Workspace) : Prop where
  settled : Command.settingsFor settings w root = some chosen
  names : chosen.HasStandardNames
  absolute : w.directory.isAbsolute = true
  plain : ".." ∉ w.directory.names
  fresh : w.disk.bytesAt (w.placeOf (chosen.sinkPath project)) = []
  found : foundIn terminal chosen project paths write w ≠ []
  distinct : HaveDistinctKeys ((foundIn terminal chosen project paths write w).map (·.record))

/-- Commands agree with a scan on where a project is: a consolidation from the same directory and with the same root
succeeds and takes the sink away, and then a lookup prints the text of every key that was found. -/
def Agree (settings : Settings) (root : Option String) (sink : Place) (found : List Rewrite.Insertion) (w : Workspace) :
    Prop :=
  ∀ terminal current arguments level json,
    Arguments.request? arguments = some (.run ⟨level, json, .consolidate, root⟩) →
      let outcome := Command.run settings terminal current w arguments
      outcome.code = 0 ∧ outcome.workspace.disk.bytesAt sink = [] ∧
        ∀ i ∈ found, ∀ terminal current arguments level json,
          Arguments.request? arguments =
              some (.run ⟨level, json, .resolve i.record.key Locale.fallback.code, root⟩) →
            let answer := Command.run settings terminal current outcome.workspace arguments
            answer.code = 0 ∧ answer.printed = i.record.text ++ "\n"

namespace IsFound

variable {terminal : Terminal} {settings chosen : Settings} {root : Option String} {project : Path} {paths : List String}
  {write : Bool} {w w' : Workspace}

theorem getLast?_sink (h : IsFound terminal settings chosen root project paths write w) :
    (w.placeOf (chosen.sinkPath project)).getLast? = some ".text-extraction.tmp" :=
  Consolidation.getLast?_sinkPath h.names.sink project w

/-- The sink holds what was found. -/
theorem bytesAt_sink (h : IsFound terminal settings chosen root project paths write w)
    (hscans : Command.Scans chosen write w (Command.scans terminal chosen paths write w) w') :
    w'.disk.bytesAt (w.placeOf (chosen.sinkPath project)) =
      Record.linesBytes ((foundIn terminal chosen project paths write w).map (·.record)) := by
  have hcatalog := Consolidation.getLast?_catalogFile h.names.catalog project w
  rw [(addsTo_scans h.names hscans h.getLast?_sink hcatalog).sink, h.fresh, List.nil_append]
  rfl

theorem bytesAt_sink_ne_nil (h : IsFound terminal settings chosen root project paths write w)
    (hscans : Command.Scans chosen write w (Command.scans terminal chosen paths write w) w') :
    w'.disk.bytesAt (w.placeOf (chosen.sinkPath project)) ≠ [] := by
  rw [h.bytesAt_sink hscans]
  exact Record.linesBytes_ne_nil fun hnil => h.found (List.map_eq_nil_iff.mp hnil)

/-- Some scan has found something, and its sink is that of the project. -/
theorem exists_scanned (h : IsFound terminal settings chosen root project paths write w)
    (hscans : Command.Scans chosen write w (Command.scans terminal chosen paths write w) w') :
    ∃ s : Scanned, s.before.directory = w.directory ∧
      w.placeOf (Scan.sinkOf chosen s.before s.path) = w.placeOf (chosen.sinkPath project) ∧
        w'.disk.locate (w.absolute (Scan.sinkOf chosen s.before s.path)) = .ok (w.placeOf (chosen.sinkPath project)) := by
  obtain ⟨i, hi⟩ := List.exists_mem_of_ne_nil _ h.found
  obtain ⟨s, hs, hi⟩ := List.mem_flatMap.mp hi
  obtain ⟨hs, hplace⟩ := List.mem_filter.mp hs
  obtain ⟨hbefore, hlocate⟩ := Command.locate_sinkOf_of_scans hscans hs (List.ne_nil_of_mem hi)
  rw [decide_eq_true_iff, Workspace.placeOf_of_directory hbefore] at hplace
  rw [hplace] at hlocate
  exact ⟨s, hbefore, hplace, hlocate⟩

/-- A consolidation looks for the sink where the scan has put it, and can reach it. -/
theorem locate_sink (h : IsFound terminal settings chosen root project paths write w)
    (hscans : Command.Scans chosen write w (Command.scans terminal chosen paths write w) w')
    (hroot : chosen.projectRoot.isSome = true ∨ w.placeOf project = Disk.placeOf w.directory) :
    w.placeOf (chosen.sinkPath (Command.rootOf chosen w)) = w.placeOf (chosen.sinkPath project) ∧
      w'.disk.locate (w.absolute (chosen.sinkPath (Command.rootOf chosen w))) =
        .ok (w.placeOf (chosen.sinkPath project)) := by
  obtain ⟨s, hbefore, hplace, hlocate⟩ := h.exists_scanned hscans
  cases hnamed : chosen.projectRoot with
  | some path =>
    -- the scan takes the root that is named, whatever the file
    have hsame : w.absolute (Scan.sinkOf chosen s.before s.path) =
        w.absolute (chosen.sinkPath (Command.rootOf chosen w)) := by
      have hbelow : Scan.projectRoot s.before chosen (s.before.absolute s.path) = w.absolute path := by
        rw [Scan.projectRoot, hnamed]
        exact Workspace.absolute_of_directory hbefore path
      rw [Scan.sinkOf, hbelow, Command.rootOf, hnamed, Option.getD_some, Settings.sinkPath_eq h.names,
        Settings.sinkPath_eq h.names, Workspace.absolute_child, Workspace.absolute_child,
        Workspace.absolute_absolute h.absolute]
    rw [← hsame, Workspace.placeOf, ← hsame]
    exact ⟨hplace, hlocate⟩
  | none =>
    -- the scan may have come to the root by a detour, but the working directory leads straight there
    have hsink : w.placeOf (chosen.sinkPath project) = w.directory.names ++ [".text-extraction.tmp"] := by
      rw [Settings.placeOf_sinkPath h.names, hroot.resolve_left (by rw [hnamed]; simp), Disk.placeOf,
        Disk.collapsed_of_not_mem h.plain]
    have hpath : w.absolute (chosen.sinkPath (Command.rootOf chosen w)) =
        w.directory.child ".text-extraction.tmp" := by
      rw [Settings.sinkPath_eq h.names, Workspace.absolute_child, Command.rootOf, hnamed, Option.getD_none,
        w.absolute_of_isAbsolute h.absolute]
    have hplain : ".." ∉ (w.directory.child ".text-extraction.tmp").names := by
      rw [Path.child, List.mem_append, List.mem_singleton, not_or]
      exact ⟨h.plain, by decide⟩
    have hreached := Disk.isReached_of_locate hlocate
    rw [hsink] at hreached ⊢
    rw [Workspace.placeOf, hpath, Disk.placeOf, Disk.collapsed_of_not_mem hplain]
    exact ⟨rfl, Disk.locate_of_isReached hplain hreached⟩

/-- Where a consolidation looks at the same root as the scan, it reads what was found. -/
theorem read_sink (h : IsFound terminal settings chosen root project paths write w)
    (hscans : Command.Scans chosen write w (Command.scans terminal chosen paths write w) w')
    (hroot : chosen.projectRoot.isSome = true ∨ w.placeOf project = Disk.placeOf w.directory) :
    w'.read (chosen.sinkPath (Command.rootOf chosen w)) =
      .ok (Record.linesBytes ((foundIn terminal chosen project paths write w).map (·.record))) := by
  obtain ⟨hplace, hlocate⟩ := h.locate_sink hscans hroot
  have hbytes := h.bytesAt_sink_ne_nil hscans
  rw [← hplace] at hlocate hbytes
  rw [Workspace.read, Workspace.absolute_of_directory (Command.directories_of_scans hscans).1,
    Disk.read_of_bytesAt hlocate hbytes, ← h.bytesAt_sink hscans, ← hplace]
  rfl

/-- A consolidation of another project leaves what was found alone. -/
theorem bytesAt_elsewhere (h : IsFound terminal settings chosen root project paths write w)
    (hscans : Command.Scans chosen write w (Command.scans terminal chosen paths write w) w') {root' : Path}
    (hroot : w.placeOf project ≠ w.placeOf root') :
    ((Consolidation.ofProject chosen root').run w').2.disk.bytesAt (w.placeOf (chosen.sinkPath project)) =
      Record.linesBytes ((foundIn terminal chosen project paths write w).map (·.record)) := by
  have hdirectory := (Command.directories_of_scans hscans).1
  have hother : w.placeOf (chosen.sinkPath project) ≠ w'.placeOf (chosen.sinkPath root') := by
    rw [Workspace.placeOf_of_directory hdirectory, Settings.placeOf_sinkPath h.names, Settings.placeOf_sinkPath h.names]
    exact fun heq => hroot (List.append_cancel_right heq)
  have hchanges := Consolidation.changesOnly_run (Consolidation.ofProject chosen root') w'
  rw [← h.bytesAt_sink hscans]
  exact hchanges.disk.bytesAt (Consolidation.not_mem_places h.names.catalog h.names.module h.getLast?_sink hother)

/-- Where a root is named, it is a directory once something was found in it. -/
theorem at?_root (h : IsFound terminal settings chosen root project paths write w)
    (hscans : Command.Scans chosen write w (Command.scans terminal chosen paths write w) w') {path : Path}
    (hnamed : chosen.projectRoot = some path) : w'.disk.at? (w'.placeOf path) = some .directory := by
  obtain ⟨hplace, hlocate⟩ := h.locate_sink hscans (.inl (by rw [hnamed]; rfl))
  have hparent := Disk.at?_dropLast_of_locate hlocate
  rwa [← hplace, Settings.placeOf_sinkPath h.names, List.dropLast_concat, Command.rootOf, hnamed, Option.getD_some,
    ← Workspace.placeOf_of_directory (Command.directories_of_scans hscans).1] at hparent

/-! ## 3. Agreement -/

theorem isApart (h : IsFound terminal settings chosen root project paths write w) (w' : Workspace) :
    (Consolidation.ofProject chosen (Command.rootOf chosen w)).IsApart w' :=
  Consolidation.isApart_ofProject h.names.sink h.names.catalog h.names.module _ w'

/-- After a consolidation of what was found, a lookup shows the text of every key. -/
theorem resolve_run (h : IsFound terminal settings chosen root project paths write w) (hdirectory : w'.directory = w.directory)
    (hread : w'.read (chosen.sinkPath (Command.rootOf chosen w)) =
      .ok (Record.linesBytes ((foundIn terminal chosen project paths write w).map (·.record))))
    (hran : ((Consolidation.ofProject chosen (Command.rootOf chosen w)).run w').1.ran = true)
    {i : Rewrite.Insertion} (hi : i ∈ foundIn terminal chosen project paths write w) (current : Locale) :
    let w'' := ((Consolidation.ofProject chosen (Command.rootOf chosen w)).run w').2
    ((Resolver.ofProject chosen w'').resolve w'' current i.record.key (some Locale.fallback.code)).1 =
      .ok i.record.text := by
  have hchanges := Consolidation.changesOnly_run (Consolidation.ofProject chosen (Command.rootOf chosen w)) w'
  have hresolver : Resolver.ofProject chosen ((Consolidation.ofProject chosen (Command.rootOf chosen w)).run w').2 =
      Resolver.ofStore (Consolidation.ofProject chosen (Command.rootOf chosen w)).store := by
    rw [Resolver.ofProject, hchanges.directory, hdirectory]
    rfl
  have hmem : i.record ∈ (foundIn terminal chosen project paths write w).map (·.record) := List.mem_map_of_mem hi
  obtain ⟨last, hlast, hkey, hshown⟩ := Consolidation.resolve_run (h.isApart w') hran (Disk.bytesAt_of_read hread)
    (isCanonical_of_inserted fun _ => mem_insertionsAt) (List.mem_map_of_mem hmem) current
  dsimp only
  rw [hresolver, hshown]
  exact congrArg Except.ok (h.distinct.text_eq (key_of_inserted fun _ => mem_insertionsAt) hlast hmem hkey)

/-- Where a root is named or the commands run in the root of the project, they agree with the scan. -/
theorem agree (h : IsFound terminal settings chosen root project paths write w)
    (hscans : Command.Scans chosen write w (Command.scans terminal chosen paths write w) w')
    (hpublish : (Consolidation.ofProject chosen (Command.rootOf chosen w)).CanPublish w')
    (hroot : chosen.projectRoot.isSome = true ∨ w.placeOf project = Disk.placeOf w.directory) :
    Agree settings root (w.placeOf (chosen.sinkPath project)) (foundIn terminal chosen project paths write w) w' := by
  intro terminal' current arguments level json hrequest
  have hdirectory := (Command.directories_of_scans hscans).1
  have hsettled : Command.settingsFor settings w' root = some chosen :=
    Command.settingsFor_of_directory h.settled hdirectory fun _ => h.at?_root hscans
  have hread := h.read_sink hscans hroot
  have hran := Consolidation.ran_of_canPublish (h.isApart w') hpublish hread
  dsimp only
  rw [Command.code_run_consolidate hrequest hsettled terminal', Command.workspace_run_consolidate hrequest hsettled,
    Command.rootOf_of_directory hdirectory, if_pos hran]
  refine ⟨rfl, ?_, fun i hi terminal' current arguments level json hrequest => ?_⟩
  · have hempty := (Consolidation.isPublished_of_ran (h.isApart w') hran).2
    rw [Workspace.placeOf_of_directory hdirectory] at hempty
    rw [← (h.locate_sink hscans hroot).1]
    exact hempty
  · -- the root is still a directory, so the lookup has the same settings
    have hchanges := Consolidation.changesOnly_run (Consolidation.ofProject chosen (Command.rootOf chosen w)) w'
    have hsettled' := Command.settingsFor_of_directory hsettled hchanges.directory fun path hnamed => by
      rw [hchanges.placeOf]
      exact hchanges.disk.directory _ (h.at?_root hscans hnamed)
    exact Command.run_resolve (h.resolve_run hdirectory hread hran hi current) hrequest hsettled' terminal'

/-- Commands that agree with the scan have a root that is named, or run in the root of the project. -/
theorem root_of_agree (h : IsFound terminal settings chosen root project paths write w)
    (hscans : Command.Scans chosen write w (Command.scans terminal chosen paths write w) w')
    (hagree : Agree settings root (w.placeOf (chosen.sinkPath project)) (foundIn terminal chosen project paths write w) w') :
    chosen.projectRoot.isSome = true ∨ w.placeOf project = Disk.placeOf w.directory := by
  by_contra hroot
  rw [not_or, Bool.not_eq_true, Option.isSome_eq_false_iff, Option.isNone_iff_eq_none] at hroot
  obtain ⟨hnone, hplace⟩ := hroot
  obtain rfl := Command.root_eq_none h.settled hnone
  have hsettled : Command.settingsFor settings w' none = some chosen := h.settled
  have hdirectory := (Command.directories_of_scans hscans).1
  have hrootOf : Command.rootOf chosen w' = w.directory := by rw [Command.rootOf, hnone, Option.getD_none, hdirectory]
  have hhere : w.placeOf w.directory = Disk.placeOf w.directory := by
    rw [Workspace.placeOf, w.absolute_of_isAbsolute h.absolute]
  have hstays := h.bytesAt_elsewhere hscans (hhere ▸ hplace)
  have hgone := (hagree terminal .en _ _ _ Workflow.Sample.request_consolidate).2.1
  rw [Command.workspace_run_consolidate Workflow.Sample.request_consolidate hsettled, hrootOf, hstays,
    ← h.bytesAt_sink hscans] at hgone
  exact h.bytesAt_sink_ne_nil hscans hgone

/-- Commands agree with a scan on where a project is just if a root is named or they run in the root of the project. -/
theorem agree_iff (h : IsFound terminal settings chosen root project paths write w) {arguments : List String}
    {level : Option String} {json : Bool}
    (hrequest : Arguments.request? arguments = some (.run ⟨level, json, .scan paths write, root⟩)) (current : Locale)
    (hpublish : (Consolidation.ofProject chosen (Command.rootOf chosen w)).CanPublish
      (Command.run settings terminal current w arguments).workspace) :
    Agree settings root (w.placeOf (chosen.sinkPath project)) (foundIn terminal chosen project paths write w)
        (Command.run settings terminal current w arguments).workspace ↔
      chosen.projectRoot.isSome = true ∨ w.placeOf project = Disk.placeOf w.directory := by
  have hscans := Command.scans_run hrequest h.settled terminal current
  exact ⟨h.root_of_agree hscans, h.agree hscans hpublish⟩

end IsFound

/-! A project with a source in a directory of its own: commands can run in the root of the project, or in the directory
of the source. -/

namespace Agree.Sample

def project : Path := ⟨"/", ["app"]⟩

def below : Path := ⟨"/", ["app", "src"]⟩

def workspace (directory : Path) : Workspace where
  disk :=
    [(["app"], .directory), (["app", "next.config.js"], .file []), (["app", ".next"], .directory),
      (["app", "src"], .directory),
      (["app", "src", "a.jsx"], .file (CatalogStore.bytesOf "import \x7b t \x7d from 'x';\n<p>Hi</p>"))]
  directory := directory
  events := []

def terminal : Terminal := .ofWidth false 80

/-- What a scan of the working directory finds. -/
def found (directory : Path) : List Rewrite.Insertion :=
  foundIn terminal Settings.standard project ["."] false (workspace directory)

def scanned (directory : Path) : Workspace :=
  (Command.run Settings.standard terminal .en (workspace directory) ["scan", "."]).workspace

/-- Whether commands agree with the scan. -/
def Agrees (directory : Path) : Prop :=
  Agree Settings.standard none ["app", ".text-extraction.tmp"] (found directory) (scanned directory)

theorem isFound {directory : Path} (habsolute : directory.isAbsolute = true) (hplain : ".." ∉ directory.names)
    (htexts : (found directory).map (fun i => (i.record.key, i.record.text)) = [("cbded34b350212fa", "Hi")]) :
    IsFound terminal Settings.standard Settings.standard none project ["."] false (workspace directory) where
  settled := rfl
  names := ⟨rfl, rfl, rfl, rfl⟩
  absolute := habsolute
  plain := hplain
  fresh := rfl
  found := fun hnil => by
    rw [found, hnil] at htexts
    exact absurd htexts (by simp)
  distinct := by
    have hkeys := congrArg (List.map Prod.fst) htexts
    rw [List.map_map] at hkeys
    refine haveDistinctKeys_of_nodup ?_ (key_of_inserted fun _ => mem_insertionsAt)
    rw [List.map_map]
    exact hkeys ▸ List.nodup_singleton _

theorem texts_below : (found below).map (fun i => (i.record.key, i.record.text)) = [("cbded34b350212fa", "Hi")] := by
  decide +kernel

theorem texts_project :
    (found project).map (fun i => (i.record.key, i.record.text)) = [("cbded34b350212fa", "Hi")] := by
  decide +kernel

/-- In the directory of the source there is no sink. -/
theorem canPublish_below : (Consolidation.ofProject Settings.standard below).CanPublish (scanned below) :=
  Consolidation.canPublish_of_not_isFile (by decide +kernel)

/-- In the root of the project there is room for the catalog and for the lookup module. -/
theorem room_project :
    (scanned project).isFile (Settings.standard.catalogFile project) = false ∧
      ∀ path ∈ [Settings.standard.catalogFile project, Settings.standard.lookupModuleFile project],
        (scanned project).disk.locate ((scanned project).absolute path) = .ok ((scanned project).placeOf path) ∧
          (scanned project).disk.at? ((scanned project).placeOf path) ≠ some .directory := by
  decide +kernel

theorem canPublish_project : (Consolidation.ofProject Settings.standard project).CanPublish (scanned project) := by
  refine Consolidation.canPublish_of_first (Consolidation.isApart_ofProject rfl rfl rfl project _) room_project.1 ?_
  rintro path (rfl | hpath)
  · exact room_project.2 _ List.mem_cons_self
  · obtain rfl := Option.some.inj hpath
    exact room_project.2 _ (List.mem_cons_of_mem _ List.mem_cons_self)

theorem request_scan : Arguments.request? ["scan", "."] = some (.run ⟨none, false, .scan ["."] false, none⟩) := by
  decide +kernel

end Agree.Sample

open Agree.Sample in
/-- Below the root of the project a consolidation does not find what was found there. In the root it does. -/
theorem agree_project_not_below :
    (found below).map (fun i => (i.record.key, i.record.text)) = [("cbded34b350212fa", "Hi")] ∧
      ¬ Agrees below ∧ Agrees project := by
  refine ⟨texts_below, fun hagree => ?_, ?_⟩
  · have hfound := isFound rfl (by decide) texts_below
    exact absurd ((IsFound.agree_iff hfound request_scan .en canPublish_below).mp hagree) (by decide)
  · have hfound := isFound rfl (by decide) texts_project
    exact (IsFound.agree_iff hfound request_scan .en canPublish_project).mpr (.inr (by decide))

end Phrasebook
