import Phrasebook.Proofs.Rewrites
import Phrasebook.Proofs.Sinks
import Phrasebook.Scan

/-!
# What a scan leaves

A scan touches one file, the sink of its project, and only adds the records of the texts it found to what the sink
holds. A scan that leaves the source alone adds nothing.

Results:
1. `changesOnly_run` and `bytesAt_run`: what is in the sink after a scan.
2. `run_cases`: a scan is a rewrite, or it hands the source back.
3. `records_eq_insertions`: the records of a scan are those of the calls that it inserts.
-/

namespace Phrasebook

namespace Scan

variable {settings : Settings} {w : Workspace} {path : Path} {source : String}

/-- The sink of the project of a file. -/
def sinkOf (settings : Settings) (w : Workspace) (path : Path) : Path :=
  settings.sinkPath (projectRoot w settings (w.absolute path))

/-- The name that a scanned file has in records, if it has one. -/
def nameOf (settings : Settings) (w : Workspace) (path : Path) : Option String :=
  Project.nameBelow (w.absolute path) (Project.findWorkspaceRoot w (projectRoot w settings (w.absolute path)))

/-! ## 1. One scan -/

/-- A scan of a file is a rewrite of its source under some name. -/
structure RewritesAs (settings : Settings) (w : Workspace) (path : Path) (source name : String) (r : Rewritten) : Prop where
  eligible : Project.ineligible? settings (w.absolute path) = none
  name_eq : nameOf settings w path = some name
  rewrite_eq : Rewrite.rewrite settings name source = .ok r

/-- What comes of a scan, with some way to append records. -/
inductive Comes (append : Appending) (settings : Settings) (w : Workspace) (sink : Option Path) (path : Path)
    (source : String) : Scan × Workspace → Prop where
  /-- The source is not rewritten. -/
  | left (reason : Skip) (w' : Workspace) (hnot : ∀ name r, ¬ RewritesAs settings w path source name r)
      (hsame : w.SameFiles w') : Comes append settings w sink path source (skip source reason, w')
  /-- It has no records. -/
  | empty (name : String) (r : Rewritten) (hr : RewritesAs settings w path source name r) (hnil : r.records = []) :
      Comes append settings w sink path source (⟨r.code, r.records, none⟩, w)
  /-- Its records are appended to the sink. -/
  | kept (name : String) (r : Rewritten) (hr : RewritesAs settings w path source name r) (hne : r.records ≠ [])
      (w' : Workspace) (happend : append (w.log (extracted name r)) (sink.getD (sinkOf settings w path)) r.records = (w', none)) :
      Comes append settings w sink path source (⟨r.code, r.records, none⟩, w')
  /-- This fails. -/
  | broken (name : String) (r : Rewritten) (hr : RewritesAs settings w path source name r) (hne : r.records ≠ [])
      (w' : Workspace) (e : DiskError)
      (happend : append (w.log (extracted name r)) (sink.getD (sinkOf settings w path)) r.records = (w', some e)) :
      Comes append settings w sink path source (skip source .failed, w'.log (failedEvent (w.absolute path)))

theorem comes_runWith (append : Appending) (settings : Settings) (w : Workspace) (sink : Option Path) (path : Path)
    (source : String) : Comes append settings w sink path source (runWith append w settings sink path source) := by
  rw [runWith]
  dsimp only
  split
  · rename_i reason hineligible
    refine .left _ _ (fun name r hr => ?_) (.refl w)
    rw [hr.eligible] at hineligible
    cases hineligible
  · rename_i heligible
    split
    · rename_i hnone
      refine .left _ _ (fun name r hr => ?_) ((Workspace.SameFiles.refl w).log _)
      have hname := hr.name_eq
      rw [nameOf, hnone] at hname
      cases hname
    · rename_i name hname
      have hrewrite {other : String} {r : Rewritten} (hr : RewritesAs settings w path source other r) :
          Rewrite.rewrite settings name source = .ok r := by
        obtain rfl : name = other := Option.some.inj (hname.symm.trans hr.name_eq)
        exact hr.rewrite_eq
      rw [store]
      split
      · rename_i heq
        exact .left _ _ (fun other r hr => by rw [hrewrite hr] at heq; cases heq) ((Workspace.SameFiles.refl w).log _)
      · rename_i heq
        exact .left _ _ (fun other r hr => by rw [hrewrite hr] at heq; cases heq) ((Workspace.SameFiles.refl w).log _)
      · rename_i r hr
        have hname : RewritesAs settings w path source name r := ⟨heligible, hname, hr⟩
        split
        · rename_i hempty
          have hnil := List.isEmpty_iff.mp hempty
          have hempty : Comes append settings w sink path source (⟨r.code, r.records, none⟩, w) :=
            .empty name r hname hnil
          rwa [hnil] at hempty
        · rename_i hne
          have hne : r.records ≠ [] := fun hnil => hne (List.isEmpty_iff.mpr hnil)
          dsimp only
          split
          · rename_i w' happend
            exact .kept name r hname hne w' happend
          · rename_i w' e happend
            exact .broken name r hname hne w' e happend

/-- Whatever comes of a scan, its records are what it appends to a sink, up to events. -/
theorem run_spec (settings : Settings) (w : Workspace) (sink : Option Path) (path : Path) (source : String) :
    ∃ w₁ w₂, w.SameFiles w₁ ∧
      Sink.append w₁ (sink.getD (sinkOf settings w path)) (run w settings sink path source).1.records = .ok w₂ ∧
      w₂.SameFiles (run w settings sink path source).2 := by
  have hcomes := comes_runWith Sink.appendWhole settings w sink path source
  rw [run]
  generalize runWith Sink.appendWhole w settings sink path source = result at hcomes
  cases hcomes with
  | left reason w' hnot hsame => exact ⟨w, w, .refl w, rfl, hsame⟩
  | empty name r hr hnil =>
    refine ⟨w, w, .refl w, ?_, .refl w⟩
    rw [hnil]
    rfl
  | kept name r hr hne w' happend =>
    rw [Sink.appendWhole] at happend
    split at happend
    · rename_i heq
      obtain ⟨rfl, -⟩ := Prod.mk.inj happend
      exact ⟨_, _, (Workspace.SameFiles.refl w).log _, heq, .refl _⟩
    · cases happend
  | broken name r hr hne w' e happend =>
    rw [Sink.appendWhole] at happend
    split at happend
    · cases happend
    · obtain ⟨rfl, -⟩ := Prod.mk.inj happend
      exact ⟨w, w, .refl w, rfl, ((Workspace.SameFiles.refl w).log _).log _⟩

/-- A scan touches the sink of its project alone. -/
theorem changesOnly_run (settings : Settings) (w : Workspace) (path : Path) (source : String) :
    Workspace.ChangesOnly [w.placeOf (sinkOf settings w path)] w (run w settings none path source).2 := by
  obtain ⟨w₁, w₂, hsame, happend, hsame₂⟩ := run_spec settings w none path source
  have hchanges := Sink.changesOnly_append happend
  rw [hsame.placeOf] at hchanges
  exact ((Workspace.ChangesOnly.of_sameFiles _ hsame).trans hchanges).trans (.of_sameFiles _ hsame₂)

/-- A scan adds its records to the sink. -/
theorem bytesAt_run (settings : Settings) (w : Workspace) (path : Path) (source : String) :
    (run w settings none path source).2.disk.bytesAt (w.placeOf (sinkOf settings w path)) =
      w.disk.bytesAt (w.placeOf (sinkOf settings w path)) ++
        Record.linesBytes (run w settings none path source).1.records := by
  obtain ⟨w₁, w₂, hsame, happend, hsame₂⟩ := run_spec settings w none path source
  have hbytes := Sink.bytesAt_append happend
  rw [hsame.placeOf, hsame.disk] at hbytes
  rw [hsame₂.disk]
  exact hbytes

/-- A scan that has found something leaves a sink that can be reached. -/
theorem locate_run (h : (run w settings none path source).1.records ≠ []) :
    (run w settings none path source).2.disk.locate (w.absolute (sinkOf settings w path)) =
      .ok (w.placeOf (sinkOf settings w path)) := by
  obtain ⟨w₁, w₂, hsame, happend, hsame₂⟩ := run_spec settings w none path source
  have hread := Sink.read_append happend h
  rw [Workspace.read, (Sink.changesOnly_append happend).absolute, hsame.absolute] at hread
  rw [hsame₂.disk]
  exact (Disk.read_eq_ok_iff.mp hread).1

/-- A file that is there is there after a scan, even if it is the sink. -/
theorem read_run {content : Bytes} {p : Path} (h : w.read p = .ok content) :
    ∃ content', (run w settings none path source).2.read p = .ok content' := by
  obtain ⟨w₁, w₂, hsame, happend, hsame₂⟩ := run_spec settings w none path source
  rw [hsame₂.read]
  exact Sink.exists_read_append happend ((hsame.read p).trans h)

/-- A scan is a rewrite, under the name that the file has in its workspace, or it hands the source back. -/
theorem run_cases (settings : Settings) (w : Workspace) (sink : Option Path) (path : Path) (source : String) :
    (∃ name r, RewritesAs settings w path source name r ∧
      (run w settings sink path source).1 = ⟨r.code, r.records, none⟩) ∨
    ∃ reason, (run w settings sink path source).1 = skip source reason := by
  have hcomes := comes_runWith Sink.appendWhole settings w sink path source
  rw [run]
  generalize runWith Sink.appendWhole w settings sink path source = result at hcomes
  cases hcomes with
  | left reason w' hnot hsame => exact .inr ⟨reason, rfl⟩
  | empty name r hr hnil => exact .inl ⟨name, r, hr, rfl⟩
  | kept name r hr hne w' happend => exact .inl ⟨name, r, hr, rfl⟩
  | broken name r hr hne w' e happend => exact .inr ⟨.failed, rfl⟩

/-- What a scan inserts into a source; nothing if it is skipped. -/
def insertions (settings : Settings) (w : Workspace) (path : Path) (source : String) : List Rewrite.Insertion :=
  match (run w settings none path source).1.skipped, nameOf settings w path with
  | none, some name => Rewrite.insertions settings name source
  | _, _ => []

/-- The records of a scan are those of what it inserts. -/
theorem records_eq_insertions (settings : Settings) (w : Workspace) (path : Path) (source : String) :
    (run w settings none path source).1.records = (insertions settings w path source).map (·.record) := by
  rw [insertions]
  rcases run_cases settings w none path source with ⟨name, r, hr, hrun⟩ | ⟨reason, hrun⟩
  · rw [hr.name_eq, hrun]
    exact Rewrite.records_of_rewrite hr.rewrite_eq
  · rw [hrun]
    rfl

theorem mem_insertions {i : Rewrite.Insertion} (h : i ∈ insertions settings w path source) :
    ∃ name, nameOf settings w path = some name ∧ i ∈ Rewrite.insertions settings name source := by
  rw [insertions] at h
  split at h
  · rename_i name _ hname
    exact ⟨name, hname, h⟩
  · exact absurd h List.not_mem_nil

/-- The records of a scan have the keys of their texts and contexts. -/
theorem key_of_mem_records {r : Record} (h : r ∈ (run w settings none path source).1.records) :
    r.key = Key.within r.text r.context := by
  rw [records_eq_insertions] at h
  obtain ⟨i, hi, rfl⟩ := List.mem_map.mp h
  obtain ⟨name, -, hi⟩ := mem_insertions hi
  exact Rewrite.key_of_insertion hi

/-- What a scan hands back is the source with the edits of what it inserts, and with an import where one is needed. -/
theorem code_eq_insertions (settings : Settings) (w : Workspace) (path : Path) (source : String) :
    ∃ more, (more = [] ∨ ∃ place, more = [⟨place, place, Rewrite.importTextAt settings place⟩]) ∧
      Splice.apply source.toList ((insertions settings w path source).map (·.edit) ++ more) =
        .ok (run w settings none path source).1.code.toList := by
  rcases run_cases settings w none path source with ⟨name, r, hr, hrun⟩ | ⟨reason, hrun⟩
  · have hinsertions : insertions settings w path source = Rewrite.insertions settings name source := by
      rw [insertions, hr.name_eq, hrun]
    rw [hinsertions, hrun]
    exact Rewrite.code_of_rewrite hr.rewrite_eq
  · have hinsertions : insertions settings w path source = [] := by
      rw [insertions, hrun]
      rfl
    rw [hinsertions, hrun]
    exact ⟨[], .inl rfl, Rewrite.apply_nil _⟩

theorem records_isCanonical (settings : Settings) (w : Workspace) (path : Path) (source : String) :
    ∀ r ∈ (run w settings none path source).1.records, r.IsCanonical := by
  intro r hr
  rw [records_eq_insertions] at hr
  obtain ⟨i, hi, rfl⟩ := List.mem_map.mp hr
  obtain ⟨name, -, hi⟩ := mem_insertions hi
  exact Rewrite.isCanonical_of_insertion hi

end Scan

/-! ## 2. Scans that were made -/

/-- A scan of a source: the workspace before it, the file and its text. -/
structure Scanned where
  before : Workspace
  path : Path
  source : String

namespace Scanned

def result (settings : Settings) (s : Scanned) : Scan := (Scan.run s.before settings none s.path s.source).1

def after (settings : Settings) (s : Scanned) : Workspace := (Scan.run s.before settings none s.path s.source).2

/-- The calls that the scan put into the source. -/
def insertions (settings : Settings) (s : Scanned) : List Rewrite.Insertion :=
  Scan.insertions settings s.before s.path s.source

def records (settings : Settings) (s : Scanned) : List Record := (s.result settings).records

theorem code_eq (settings : Settings) (s : Scanned) :
    ∃ more, (more = [] ∨ ∃ place, more = [⟨place, place, Rewrite.importTextAt settings place⟩]) ∧
      Splice.apply s.source.toList ((s.insertions settings).map (·.edit) ++ more) = .ok (s.result settings).code.toList :=
  Scan.code_eq_insertions settings s.before s.path s.source

theorem records_eq (settings : Settings) (s : Scanned) :
    s.records settings = (s.insertions settings).map (·.record) :=
  Scan.records_eq_insertions settings s.before s.path s.source

end Scanned

end Phrasebook
