import Phrasebook.Proofs.Scans
import Phrasebook.Proofs.Workspaces

/-!
# What is listed and what is scanned

Sources are listed before they are scanned, and both steps pass over the files that are not to be scanned. The listing
looks at a path as it was given, the scan at the path from the root on. So every file that a scan admits is listed,
but below a working directory that is never scanned the files of a relative path are listed too, and passed over only
when they are scanned. All this is about disks without links: a listing does not follow them, a scan does.

Results:
1. `Scan.admits_iff`: which files a scan admits.
2. `Project.mem_sources_iff`, `Project.mem_candidates_of_isFile`: what is listed.
3. `Project.listsWhatIsAdmitted_iff`: when the two steps agree.
-/

namespace Phrasebook

namespace Path

/-- The path to what stands some names below. -/
def below (p : Path) (names : List String) : Path := ⟨p.root, p.names ++ names⟩

theorem parts_join (base : Path) {p : Path} (hbase : base.isAbsolute = true) (hp : p.isAbsolute = false) :
    (base.join p).parts = base.parts ++ p.parts := by
  rw [isAbsolute, Bool.not_eq_eq_eq_not] at hbase hp
  rw [join, if_neg (by rw [isAbsolute, hp]; decide), parts, parts, parts, hp]
  simp only [hbase, Bool.not_true, Bool.false_eq_true, if_false]
  rfl

theorem lowerSuffix_join (base : Path) {p : Path} (hp : p.names ≠ []) : (base.join p).lowerSuffix = p.lowerSuffix := by
  have hname : (base.join p).name = p.name := by
    rw [join]
    split
    · rfl
    · rw [name, name, List.getLast?_append_of_ne_nil _ hp]
  rw [lowerSuffix, lowerSuffix, suffix, suffix, hname]

end Path

namespace Scan

/-! ## 1. Files that are scanned -/

/-- A scan does not pass over a file as one that is not to be scanned, whatever else comes of it. -/
def Admits (settings : Settings) (w : Workspace) (file : Path) : Prop :=
  ∀ sink source reason, (run w settings sink file source).1.skipped ≠ some (.ineligible reason)

/-- What is rewritten is passed over for what comes of it alone. -/
theorem eq_of_skipped_store {settings : Settings} {w : Workspace} {sink path : Path} {name source : String} {reason : Skip}
    {append : Appending} (h : (store append w settings sink path name source).1.skipped = some reason) :
    reason = .unreadable ∨ reason = .failed := by
  rw [store] at h
  split at h
  · exact .inl (Option.some.inj h).symm
  · exact .inr (Option.some.inj h).symm
  · split at h
    · exact absurd h (by simp)
    · dsimp only at h
      split at h
      · exact absurd h (by simp)
      · exact .inr (Option.some.inj h).symm

/-- The scan looks at the path from the root on. -/
theorem admits_iff {settings : Settings} {w : Workspace} {file : Path} :
    Admits settings w file ↔ Project.ineligible? settings (w.absolute file) = none := by
  constructor
  · intro h
    cases hreason : Project.ineligible? settings (w.absolute file) with
    | none => rfl
    | some reason => exact absurd (by rw [run, runWith]; simp only [hreason]; rfl) (h none "" reason)
  · intro h sink source reason
    rw [run, runWith]
    simp only [h]
    split
    · exact fun hskip => absurd (Option.some.inj hskip) (by simp)
    · exact fun hskip => absurd (eq_of_skipped_store hskip) (by simp)

end Scan

namespace Project

variable {settings : Settings} {w : Workspace} {paths : List Path}

/-! ## 2. Files that are listed -/

/-- A file is listed if a path leads to it whose parts, as they were given, allow it. -/
theorem mem_sources_iff {file : Path} :
    file ∈ sources w settings paths ↔ ∃ p ∈ paths, ∃ c ∈ candidates w p,
      w.isFile c = true ∧ ineligible? settings c = none ∧ w.absolute c = file := by
  simp only [sources, List.mem_mergeSort, List.mem_eraseDups, List.mem_map, List.mem_filter, List.mem_flatMap,
    Bool.and_eq_true, Option.isNone_iff_eq_none]
  constructor
  · rintro ⟨c, ⟨⟨p, hp, hc⟩, hfile, heligible⟩, habsolute⟩
    exact ⟨p, hp, c, hc, hfile, heligible, habsolute⟩
  · rintro ⟨p, hp, c, hc, hfile, heligible, habsolute⟩
    exact ⟨c, ⟨⟨p, hp, hc⟩, hfile, heligible⟩, habsolute⟩

theorem absolute_below (p : Path) (names : List String) : w.absolute (p.below names) = (w.absolute p).below names := by
  rw [Workspace.absolute, Workspace.absolute, Path.join, Path.join, Path.below, Path.isAbsolute, Path.isAbsolute]
  by_cases h : p.root.isEmpty = true
  · simp [h, Path.below, List.append_assoc]
  · simp [h, Path.below]

/-- A path leads through what stands above. -/
theorem locate_below_eq_ok_iff {disk : Disk} {path : Path} {names : List String} {target : Place} :
    disk.locate (path.below names) = .ok target ↔
      ∃ start, disk.locate path = .ok start ∧ names.foldlM disk.step start = .ok target := by
  rw [Disk.locate, Disk.locate, Path.below, List.foldlM_append]
  cases List.foldlM disk.step [] path.names with
  | error e => simp [bind, Except.bind]
  | ok start => simp [bind, Except.bind]

/-- Names without detours lead straight down. -/
theorem eq_append_of_foldlM {disk : Disk} {start target : Place} {names : List String} (hplain : ".." ∉ names)
    (h : names.foldlM disk.step start = .ok target) : target = start ++ names := by
  induction names generalizing start with
  | nil => rw [List.append_nil, ← Except.ok.inj h]
  | cons name names ih =>
    rw [List.mem_cons, not_or] at hplain
    obtain ⟨next, hstep, hrest⟩ := Disk.foldlM_step_cons.mp h
    rw [ih hplain.2 hrest, (Disk.eq_of_step hstep).2, if_neg (by simpa using Ne.symm hplain.1), List.append_assoc]
    rfl

/-- A path to a file is its own candidate. -/
theorem candidates_of_isFile {p : Path} (h : w.isFile p = true) : candidates w p = [p] := by
  have hdirectory : w.isDirectory p = false := by
    rw [Workspace.isFile, Disk.isFile] at h
    rw [Workspace.isDirectory, Disk.isDirectory]
    split at h
    · rename_i hfind
      rw [hfind]
    · exact absurd h (by simp)
  rw [candidates, hdirectory]
  split
  · exact absurd ‹_› (by simp)
  · rfl

/-- A file that is given is listed if its path allows it. -/
theorem mem_sources_of_isFile {p : Path} (hp : p ∈ paths) (hfile : w.isFile p = true)
    (heligible : ineligible? settings p = none) : w.absolute p ∈ sources w settings paths := by
  have hcandidate : p ∈ candidates w p := by
    rw [candidates_of_isFile hfile]
    exact List.mem_singleton_self p
  exact mem_sources_iff.mpr ⟨p, hp, p, hcandidate, hfile, heligible, rfl⟩

/-- A file at or below a path is a candidate for it. -/
theorem mem_candidates_of_isFile {p : Path} {names : List String} (hplain : ".." ∉ names)
    (hfile : w.isFile (p.below names) = true) : p.below names ∈ candidates w p := by
  cases hnames : names with
  | nil =>
    have hp : p.below [] = p := by rw [Path.below, List.append_nil]
    rw [hnames, hp] at hfile
    rw [hp, candidates_of_isFile hfile]
    exact List.mem_singleton_self p
  | cons name more =>
    obtain ⟨content, hread⟩ := Disk.isFile_iff.mp hfile
    obtain ⟨hlocate, hat⟩ := Disk.read_eq_ok_iff.mp hread
    rw [absolute_below] at hlocate
    obtain ⟨start, hstart, hrest⟩ := locate_below_eq_ok_iff.mp hlocate
    rw [absolute_below, eq_append_of_foldlM hplain hrest] at hat
    have hdirectory : w.isDirectory p = true := by
      obtain ⟨next, hstep, -⟩ := Disk.foldlM_step_cons.mp (hnames ▸ hrest)
      have hfind : w.disk.find (w.absolute p) = .ok .directory := by
        rw [Disk.find_eq_ok_iff, ← Disk.placeOf_eq_of_locate hstart]
        exact ⟨hstart, (Disk.eq_of_step hstep).1⟩
      rw [Workspace.isDirectory, Disk.isDirectory, hfind]
    have hmem : (start ++ names, Item.file content) ∈ w.disk.below start := by
      rw [Disk.at?, if_neg (by simp [hnames])] at hat
      refine List.mem_filter.mpr ⟨Entries.mem_of_get? hat, ?_⟩
      simp [hnames]
    rw [candidates, hstart, hdirectory]
    refine List.mem_map.mpr ⟨_, hmem, ?_⟩
    rw [List.drop_left, ← hnames, Path.below]

/-! ## 3. Agreement -/

/-- The files that are listed are those that a scan admits: it admits all that are listed, and each file at or below one
of the paths that it admits is listed. -/
structure ListsWhatIsAdmitted (settings : Settings) (w : Workspace) (paths : List Path) : Prop where
  admitted : ∀ file ∈ sources w settings paths, Scan.Admits settings w file
  listed : ∀ p ∈ paths, ∀ names, ".." ∉ names → w.isFile (p.below names) = true →
    Scan.Admits settings w (p.below names) → w.absolute (p.below names) ∈ sources w settings paths

/-- A path from the working directory on has fewer parts than the one from the root on, so it is passed over less. -/
theorem ineligible?_absolute (habsolute : w.directory.isAbsolute = true) {c : Path} (hc : c.isAbsolute = false)
    (hnames : c.names ≠ []) :
    ineligible? settings (w.absolute c) = none ↔
      ineligible? settings c = none ∧ w.directory.parts.any settings.skipDirs.contains = false := by
  rw [ineligible?, ineligible?, Workspace.absolute, Path.lowerSuffix_join _ hnames, Path.parts_join _ habsolute hc,
    List.any_append]
  cases settings.extensions.contains c.lowerSuffix <;>
    cases c.parts.any settings.skipDirs.contains <;>
      cases w.directory.parts.any settings.skipDirs.contains <;> simp

/-- The working directory itself is no file. -/
theorem names_ne_nil (hdirectory : w.isDirectory ⟨"", []⟩ = true) {c : Path} (hc : c.isAbsolute = false)
    (hfile : w.isFile c = true) : c.names ≠ [] := by
  intro hnil
  have hroot : c.root = "" := by simpa [Path.isAbsolute] using hc
  have hpath : c = ⟨"", []⟩ := by
    obtain ⟨root, names⟩ := c
    rw [show root = "" from hroot, show names = [] from hnil]
  rw [hpath, Workspace.isFile, Disk.isFile] at hfile
  rw [Workspace.isDirectory, Disk.isDirectory] at hdirectory
  split at hfile
  · rename_i hfind
    rw [hfind] at hdirectory
    exact absurd hdirectory (by simp)
  · exact absurd hfile (by simp)

/-- What a scan admits is listed. -/
theorem mem_sources_of_admits (habsolute : w.directory.isAbsolute = true)
    (hdirectory : w.isDirectory ⟨"", []⟩ = true) {p : Path} (hp : p ∈ paths) {names : List String}
    (hplain : ".." ∉ names) (hfile : w.isFile (p.below names) = true)
    (hadmits : Scan.Admits settings w (p.below names)) :
    w.absolute (p.below names) ∈ sources w settings paths := by
  rw [Scan.admits_iff] at hadmits
  refine mem_sources_iff.mpr ⟨p, hp, _, mem_candidates_of_isFile hplain hfile, hfile, ?_, rfl⟩
  cases hroot : (p.below names).isAbsolute with
  | true => rwa [w.absolute_of_isAbsolute hroot] at hadmits
  | false => exact ((ineligible?_absolute habsolute hroot (names_ne_nil hdirectory hroot hfile)).mp hadmits).1

/-- On a disk without links, listing and scanning agree just if no part of the working directory is one that is never
scanned, or no relative path is given that lists a file. -/
theorem listsWhatIsAdmitted_iff (settings : Settings) {w : Workspace} (paths : List Path)
    (habsolute : w.directory.isAbsolute = true) (hdirectory : w.isDirectory ⟨"", []⟩ = true) :
    ListsWhatIsAdmitted settings w paths ↔
      w.directory.parts.any settings.skipDirs.contains = false ∨
        ∀ p ∈ paths, ∀ c ∈ candidates w p, c.isAbsolute = false → w.isFile c = true →
          ineligible? settings c ≠ none := by
  constructor
  · intro h
    by_cases hparts : w.directory.parts.any settings.skipDirs.contains = false
    · exact .inl hparts
    · refine .inr fun p hp c hc hrelative hfile heligible => ?_
      have hadmitted := h.admitted _ (mem_sources_iff.mpr ⟨p, hp, c, hc, hfile, heligible, rfl⟩)
      rw [Scan.admits_iff, Workspace.absolute_absolute habsolute,
        ineligible?_absolute habsolute hrelative (names_ne_nil hdirectory hrelative hfile)] at hadmitted
      exact hparts hadmitted.2
  · intro h
    refine ⟨fun file hmem => ?_, fun p hp names hplain hfile hadmits =>
      mem_sources_of_admits habsolute hdirectory hp hplain hfile hadmits⟩
    obtain ⟨p, hp, c, hc, hfile, heligible, rfl⟩ := mem_sources_iff.mp hmem
    rw [Scan.admits_iff, Workspace.absolute_absolute habsolute]
    cases hroot : c.isAbsolute with
    | true => rwa [w.absolute_of_isAbsolute hroot]
    | false =>
      rw [ineligible?_absolute habsolute hroot (names_ne_nil hdirectory hroot hfile)]
      rcases h with hparts | hnone
      · exact ⟨heligible, hparts⟩
      · exact absurd heligible (hnone p hp c hc hroot hfile)

namespace Sample

/-- A workspace with a source in a package that others depend on. -/
def package : Workspace where
  disk := [(["node_modules"], .directory), (["node_modules", "pkg"], .directory),
    (["node_modules", "pkg", "a.jsx"], .file [])]
  directory := ⟨"/", ["node_modules", "pkg"]⟩
  events := []

end Sample

open Sample in
/-- In such a package the file is listed, and a scan passes over it. -/
theorem not_listsWhatIsAdmitted_of_package :
    sources package .standard [Path.ofString "."] = [⟨"/", ["node_modules", "pkg", "a.jsx"]⟩] ∧
      ¬ ListsWhatIsAdmitted .standard package [Path.ofString "."] := by
  have hagree := listsWhatIsAdmitted_iff Settings.standard (w := package) [Path.ofString "."] rfl (by decide)
  refine ⟨by decide +kernel, fun h => ?_⟩
  rcases hagree.mp h with hparts | hnone
  · exact absurd hparts (by decide)
  · exact hnone _ List.mem_cons_self ⟨"", ["a.jsx"]⟩ (by decide) rfl (by decide) (by decide +kernel)

end Project
end Phrasebook
