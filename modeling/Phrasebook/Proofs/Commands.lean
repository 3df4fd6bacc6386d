import Phrasebook.Command.Run
import Phrasebook.Proofs.Consolidations
import Phrasebook.Proofs.Scans

/-!
# What commands do to the workspace

Printing leaves the workspace alone, so a command does what its scans and its consolidation do. A scan of many files
may end early, where a message cannot be printed or a source cannot be written back.

Results:
1. `workspace_scanFile`: what scanning a file leaves.
2. `directories_of_scans`, `locate_sinkOf_of_scans`: what scans of many files leave of directories and sinks.
3. `scans_run`: a command that scans many files leaves what their scans leave, one after the other.
4. `workspace_run_consolidate`: a command that consolidates leaves what the consolidation leaves.
-/

namespace Phrasebook

namespace Step

variable {α β : Type}

/-- What a step gives, and what it leaves. -/
def outcome (x : Step α) (p : Progress) : Except Nat α × Progress := x.run.run p

def workspace (x : Step α) (p : Progress) : Workspace := (x.outcome p).2.workspace

theorem outcome_bind (x : Step α) (f : α → Step β) (p : Progress) :
    outcome (x >>= f) p =
      match x.outcome p with
      | (.ok a, p') => (f a).outcome p'
      | (.error code, p') => (.error code, p') := by
  show (ExceptT.bindCont f ((x.run.run p).1)).run (x.run.run p).2 = _
  rw [outcome]
  rcases (x.run.run p) with ⟨_ | a, p'⟩
  · rfl
  · rfl

end Step

namespace Command

/-! ## 1. Printing -/

theorem outcome_workspace (p : Progress) : Step.outcome workspace p = (.ok p.workspace, p) := rfl

theorem outcome_setWorkspace (w : Workspace) (p : Progress) :
    Step.outcome (setWorkspace w) p = (.ok (), { p with workspace := w }) := rfl

theorem workspace_display (text : Except Console.Unmatched String) (p : Progress) :
    Step.workspace (display text) p = p.workspace := by
  cases text with
  | ok shown => rfl
  | error e => rfl

theorem workspace_say (terminal : Terminal) (kind : Console.MessageKind) (message : String) (p : Progress) :
    Step.workspace (say terminal kind message) p = p.workspace :=
  workspace_display _ p

/-- What comes after a step that leaves the workspace alone starts from there, or does not come. -/
theorem workspace_bind_of_eq {α β : Type} {x : Step α} {f : α → Step β} {p : Progress} {w : Workspace}
    (hx : x.workspace p = w) (hf : ∀ a p', p'.workspace = w → (f a).workspace p' = w) : (x >>= f).workspace p = w := by
  rw [Step.workspace, Step.outcome_bind]
  rw [Step.workspace] at hx
  rcases h : x.outcome p with ⟨_ | a, p'⟩
  · rw [h] at hx
    exact hx
  · rw [h] at hx
    exact hf a p' hx

/-! ## 2. Scans -/

/-- The workspace after a source was written back, as far as it can be. -/
def writtenBack (w : Workspace) (path : Path) (code : String) : Workspace :=
  match w.onDisk fun disk => disk.putFile (w.absolute path) (CatalogStore.bytesOf code) with
  | .ok w' => w'
  | .error _ => w

theorem workspace_writeBack (path : Path) (code : String) (p : Progress) :
    (writeBack path code).workspace p = writtenBack p.workspace path code := by
  rw [writeBack, Step.workspace, Step.outcome_bind, outcome_workspace, writtenBack]
  dsimp only
  cases p.workspace.onDisk fun disk => disk.putFile (p.workspace.absolute path) (CatalogStore.bytesOf code) with
  | ok w' => rfl
  | error e => rfl

def afterFile (settings : Settings) (write : Bool) (w : Workspace) (path : Path) : Workspace :=
  match sourceText w path with
  | .error _ => w
  | .ok source =>
    let s : Scanned := ⟨w, path, source⟩
    if (s.result settings).changed && write then writtenBack (s.after settings) path (s.result settings).code
    else s.after settings

/-- What scanning a file leaves. -/
theorem workspace_scanFile (terminal : Terminal) (settings : Settings) (write : Bool) (path : Path) (p : Progress) :
    (scanFile terminal settings write path).workspace p = afterFile settings write p.workspace path := by
  rw [scanFile, Step.workspace, Step.outcome_bind, outcome_workspace, afterFile]
  dsimp only
  cases sourceText p.workspace path with
  | error reason =>
    dsimp only
    refine workspace_bind_of_eq (workspace_say terminal _ _ p) ?_
    rintro _ p' hp'
    exact hp'
  | ok source =>
    dsimp only
    rw [Step.outcome_bind, outcome_setWorkspace]
    dsimp only
    show Step.workspace (if (Scanned.result settings ⟨p.workspace, path, source⟩).changed then _ else _)
      { p with workspace := Scanned.after settings ⟨p.workspace, path, source⟩ } = _
    cases (Scanned.result settings ⟨p.workspace, path, source⟩).changed with
    | false => rfl
    | true =>
      cases write with
      | false => rfl
      | true =>
        show Step.workspace (writeBack path (Scanned.result settings ⟨p.workspace, path, source⟩).code >>= _) _ = _
        refine workspace_bind_of_eq (workspace_writeBack path _ _) ?_
        rintro _ p' hp'
        exact hp'

/-- The scan of a file, if it can be read. -/
def scannedAt (w : Workspace) (path : Path) : List Scanned :=
  match sourceText w path with
  | .error _ => []
  | .ok source => [⟨w, path, source⟩]

theorem changesOnly_writtenBack (w : Workspace) (path : Path) (code : String) :
    Workspace.ChangesOnly [w.placeOf path] w (writtenBack w path code) := by
  rw [writtenBack]
  split
  · rename_i w' hput
    obtain ⟨disk, hdisk, rfl⟩ := Workspace.onDisk_eq_ok_iff.mp hput
    exact ⟨rfl, rfl, Disk.changesOnly_putFile hdisk⟩
  · exact .refl _ _

/-- Scanning a file leaves what the scan leaves; only a file that is eligible is written back. -/
theorem changesOnly_afterFile (settings : Settings) (write : Bool) (w : Workspace) (path : Path) :
    (scannedAt w path = [] ∧ afterFile settings write w path = w) ∨
      ∃ s : Scanned, scannedAt w path = [s] ∧ s.before = w ∧ s.path = path ∧
        ∃ places, Workspace.ChangesOnly places (s.after settings) (afterFile settings write w path) ∧
          ∀ place ∈ places, place = w.placeOf path ∧ Project.ineligible? settings (w.absolute path) = none := by
  rw [scannedAt, afterFile]
  cases sourceText w path with
  | error reason => exact .inl ⟨rfl, rfl⟩
  | ok source =>
    refine .inr ⟨⟨w, path, source⟩, rfl, rfl, rfl, ?_⟩
    dsimp only
    split
    · rename_i hchanged
      have heligible : Project.ineligible? settings (w.absolute path) = none := by
        rcases Scan.run_cases settings w none path source with ⟨name, r, hr, -⟩ | ⟨reason, hrun⟩
        · exact hr.eligible
        · rw [Scanned.result, hrun] at hchanged
          exact absurd hchanged (by simp [Scan.skip, Scan.changed])
      have hplace : (Scanned.after settings ⟨w, path, source⟩).placeOf path = w.placeOf path :=
        (Scan.changesOnly_run settings w path source).placeOf path
      refine ⟨_, changesOnly_writtenBack _ path _, fun place hmem => ?_⟩
      exact ⟨(List.mem_singleton.mp hmem).trans hplace, heligible⟩
    · exact ⟨[], .refl _ _, fun place hmem => absurd hmem List.not_mem_nil⟩

/-- The scans of files, until something ends them. -/
def scansOf (terminal : Terminal) (settings : Settings) (write : Bool) : List Path → Progress → List Scanned
  | [], _ => []
  | path :: rest, p =>
    scannedAt p.workspace path ++
      match (scanFile terminal settings write path).outcome p with
      | (.ok _, p') => scansOf terminal settings write rest p'
      | (.error _, _) => []

/-- Scans of files, one after the other, from a workspace to another. -/
inductive Scans (settings : Settings) (write : Bool) : Workspace → List Scanned → Workspace → Prop
  | stop (w : Workspace) : Scans settings write w [] w
  | file {w w' : Workspace} {done : List Scanned} (path : Path) :
      Scans settings write (afterFile settings write w path) done w' →
        Scans settings write w (scannedAt w path ++ done) w'

theorem scans_mapM (terminal : Terminal) (settings : Settings) (write : Bool) (files : List Path) (p : Progress) :
    Scans settings write p.workspace (scansOf terminal settings write files p)
      ((files.mapM (scanFile terminal settings write)).workspace p) := by
  induction files generalizing p with
  | nil => exact .stop _
  | cons path rest ih =>
    rw [List.mapM_cons, Step.workspace, Step.outcome_bind, scansOf]
    refine .file path ?_
    rw [← workspace_scanFile terminal settings write path p, Step.workspace]
    rcases (scanFile terminal settings write path).outcome p with ⟨_ | row, p'⟩
    · exact .stop _
    · dsimp only
      have hrows : Step.workspace (rest.mapM (scanFile terminal settings write) >>= fun rows => pure (row :: rows)) p' =
          (rest.mapM (scanFile terminal settings write)).workspace p' :=
        workspace_bind_of_eq rfl fun _ _ h => h
      rw [← Step.workspace, hrows]
      exact ih p'

/-- Scans start where they started, and remove no directory. -/
theorem directories_of_scans {settings : Settings} {write : Bool} {w w' : Workspace} {done : List Scanned}
    (h : Scans settings write w done w') :
    w'.directory = w.directory ∧ ∀ place, w.disk.at? place = some .directory → w'.disk.at? place = some .directory := by
  induction h with
  | stop w => exact ⟨rfl, fun _ hat => hat⟩
  | @file w _ _ path _ ih =>
    rcases changesOnly_afterFile settings write w path with ⟨-, hsame⟩ | ⟨s, -, rfl, -, places, hchanges, -⟩
    · rwa [hsame] at ih
    · have hscan := Scan.changesOnly_run settings s.before s.path s.source
      exact ⟨ih.1.trans (hchanges.directory.trans hscan.directory),
        fun place hat => ih.2 place (hchanges.disk.directory place (hscan.disk.directory place hat))⟩

/-- Where a scan has found something, its sink can be reached from then on. -/
theorem locate_sinkOf_of_scans {settings : Settings} {write : Bool} {w w' : Workspace} {done : List Scanned}
    (h : Scans settings write w done w') {s : Scanned} (hs : s ∈ done) (hfound : s.insertions settings ≠ []) :
    s.before.directory = w.directory ∧
      w'.disk.locate (w.absolute (Scan.sinkOf settings s.before s.path)) =
        .ok (w.placeOf (Scan.sinkOf settings s.before s.path)) := by
  induction h with
  | stop w => exact absurd hs List.not_mem_nil
  | @file w w' _ path hscans ih =>
    have hdirectories := (directories_of_scans hscans).2
    rcases changesOnly_afterFile settings write w path with ⟨hnone, hsame⟩ | ⟨s', hscanned, rfl, rfl, places, hchanges, -⟩
    · rw [hnone, List.nil_append] at hs
      rw [hsame] at ih
      exact ih hs
    · rw [hscanned, List.singleton_append, List.mem_cons] at hs
      rcases hs with rfl | hs
      · have hrecords : s.records settings ≠ [] := by
          rw [s.records_eq, ne_eq, List.map_eq_nil_iff]
          exact hfound
        exact ⟨rfl, Disk.locate_of_directories hdirectories (hchanges.disk.locate (Scan.locate_run hrecords))⟩
      · have hscan := Scan.changesOnly_run settings s'.before s'.path s'.source
        have hdirectory := hchanges.directory.trans hscan.directory
        obtain ⟨hbefore, hlocate⟩ := ih hs
        rw [Workspace.absolute_of_directory hdirectory, Workspace.placeOf_of_directory hdirectory] at hlocate
        exact ⟨hbefore.trans hdirectory, hlocate⟩

def scans (terminal : Terminal) (settings : Settings) (paths : List String) (write : Bool) (w : Workspace) :
    List Scanned :=
  if isPossible w (.scan paths write) then
    scansOf terminal settings write (Project.sources w settings (paths.map Path.ofString)) ⟨"", w⟩
  else []

theorem scans_scan (terminal : Terminal) (settings : Settings) (paths : List String) (write : Bool) (w : Workspace) :
    Scans settings write w
      (scansOf terminal settings write (Project.sources w settings (paths.map Path.ofString)) ⟨"", w⟩)
      ((scan terminal settings paths write).workspace ⟨"", w⟩) := by
  rw [scan, Step.workspace, Step.outcome_bind, outcome_workspace]
  dsimp only
  rw [← Step.workspace]
  generalize Project.sources w settings (paths.map Path.ofString) = files
  cases files with
  | nil =>
    show Scans settings write w [] (Step.workspace (say terminal .warning _) ⟨"", w⟩)
    rw [workspace_say]
    exact .stop w
  | cons path rest =>
    have hscans := scans_mapM terminal settings write (path :: rest) ⟨"", w⟩
    show Scans settings write w _
      (Step.workspace ((path :: rest).mapM (scanFile terminal settings write) >>= _) ⟨"", w⟩)
    rw [workspace_bind_of_eq rfl]
    · exact hscans
    · rintro rows p' hp'
      split
      · refine workspace_bind_of_eq ((workspace_display _ p').trans hp') ?_
        rintro _ p'' hp''
        exact (workspace_say terminal _ _ p'').trans hp''
      · exact (workspace_say terminal _ _ p').trans hp'

/-- What a command answers and leaves: what its action does with the settings that its options make, if there is all
that it works on. -/
theorem run_of_settingsFor {settings chosen : Settings} {w : Workspace} {arguments : List String}
    {level root : Option String} {json : Bool} {action : Action}
    (h : Arguments.request? arguments = some (.run ⟨level, json, action, root⟩))
    (hchosen : settingsFor settings w root = some chosen) (terminal : Terminal) (current : Locale) :
    let outcome := run settings terminal current w arguments
    let performed := (perform terminal chosen current action).outcome ⟨"", w⟩
    if isPossible w action then
      outcome.code = (match performed.1 with | .ok _ => 0 | .error code => code) ∧
        outcome.printed = performed.2.printed ∧ outcome.workspace = performed.2.workspace
    else outcome.workspace = w := by
  intro outcome performed
  show if isPossible w action then _ else _
  split
  · rename_i hpossible
    have hrun : outcome = ⟨match performed.1 with | .ok _ => 0 | .error code => code, performed.2.printed,
        logSetup settings level json terminal.colored, performed.2.workspace⟩ := by
      show run settings terminal current w arguments = _
      rw [run, h]
      dsimp only
      rw [hchosen]
      dsimp only
      rw [if_pos hpossible]
      rfl
    rw [hrun]
    exact ⟨rfl, rfl, rfl⟩
  · rename_i hpossible
    show (run settings terminal current w arguments).workspace = w
    rw [run, h]
    dsimp only
    rw [hchosen]
    dsimp only
    rw [if_neg hpossible]

/-- What a command leaves that scans: what its scans leave, as far as they went. -/
theorem scans_run {settings chosen : Settings} {w : Workspace} {arguments paths : List String}
    {level root : Option String} {json write : Bool}
    (h : Arguments.request? arguments = some (.run ⟨level, json, .scan paths write, root⟩))
    (hchosen : settingsFor settings w root = some chosen) (terminal : Terminal) (current : Locale) :
    Scans chosen write w (scans terminal chosen paths write w) (run settings terminal current w arguments).workspace := by
  have hrun := run_of_settingsFor h hchosen terminal current
  dsimp only at hrun
  rw [scans]
  split
  · rename_i hpossible
    rw [if_pos hpossible] at hrun
    rw [hrun.2.2]
    exact scans_scan terminal chosen paths write w
  · rename_i hpossible
    rw [if_neg hpossible] at hrun
    rw [hrun]
    exact .stop w

/-! ## 3. Consolidations -/

theorem workspace_consolidate (terminal : Terminal) (settings : Settings) (p : Progress) :
    (consolidate terminal settings).workspace p =
      ((Consolidation.ofProject settings (rootOf settings p.workspace)).run p.workspace).2 := by
  rw [consolidate, Step.workspace, Step.outcome_bind, outcome_workspace]
  dsimp only
  rw [Step.outcome_bind, outcome_setWorkspace]
  dsimp only
  rw [← Step.workspace]
  split
  · refine workspace_bind_of_eq (workspace_say terminal _ _ _) ?_
    rintro _ p' hp'
    split
    · exact (workspace_say terminal _ _ p').trans hp'
    · exact hp'
  · refine workspace_bind_of_eq (workspace_say terminal _ _ _) ?_
    rintro _ p' hp'
    exact hp'

/-- What a command leaves that consolidates. -/
theorem workspace_run_consolidate {settings chosen : Settings} {w : Workspace} {arguments : List String}
    {level root : Option String} {json : Bool}
    (h : Arguments.request? arguments = some (.run ⟨level, json, .consolidate, root⟩))
    (hchosen : settingsFor settings w root = some chosen) (terminal : Terminal) (current : Locale) :
    (run settings terminal current w arguments).workspace =
      ((Consolidation.ofProject chosen (rootOf chosen w)).run w).2 := by
  have hrun := run_of_settingsFor h hchosen terminal current
  rw [show isPossible w .consolidate = true from rfl, if_pos rfl] at hrun
  rw [hrun.2.2]
  exact workspace_consolidate terminal chosen ⟨"", w⟩

end Command
end Phrasebook
