import Phrasebook.Proofs.Ascents
import Phrasebook.Proofs.Replacements

/-!
# Paths with detours

A file has many paths: a name followed by two points leads down and up again. What a scan makes of a file is to depend on
the file and not on the path that it is given by. It does as long as the detours of the path are above the root of the
workspace: the name of the file is then the same, and so is the sink. A detour below the root stays in the name of the
file, and with it in the keys of its texts; and the listing of sources does not know two paths to one file for one.

Results:
1. `Path.mem_names_iff_mem_pieces`: the text of a path tells its detours.
2. `Sink.append_join_congr`: the sink of a project is the same for two paths to its root.
3. `Rewrite.file_of_mem_records`: the records of a source tell the name that it is rewritten under.
4. `Scan.fromRoot_straight`: detours above the root do not matter.
5. `Scan.hasOneOutcome_of_hasHarmlessDetours`: then the outcome of a scan does not depend on the path.
6. `Project.hasOneOutcome_and_listsOnce_iff`: when it does not, and when the listing does not.
-/

namespace Phrasebook

namespace Path

/-! ## 1. The text of a path -/

theorem pieces_ne_nil (cs : List Char) : pieces cs ≠ [] := by
  cases cs with
  | nil => exact List.cons_ne_nil _ _
  | cons c cs =>
    rw [pieces, List.foldr_cons]
    split <;> split <;> exact List.cons_ne_nil _ _

theorem pieces_slash (cs : List Char) : pieces ('/' :: cs) = [] :: pieces cs := by
  obtain ⟨piece, more, h⟩ := List.exists_cons_of_ne_nil (pieces_ne_nil cs)
  rw [pieces] at h
  rw [pieces, pieces, List.foldr_cons, h]
  rfl

theorem pieces_cons {c : Char} (hc : c ≠ '/') {cs piece : List Char} {more : List (List Char)}
    (h : pieces cs = piece :: more) : pieces (c :: cs) = (c :: piece) :: more := by
  rw [pieces] at h
  rw [pieces, List.foldr_cons, h]
  exact if_neg (by simpa using hc)

/-- A text without slashes is a piece. -/
theorem pieces_append_slash {word : List Char} (h : '/' ∉ word) (cs : List Char) :
    pieces (word ++ '/' :: cs) = word :: pieces cs := by
  induction word with
  | nil => exact pieces_slash cs
  | cons c word ih =>
    rw [List.mem_cons, not_or] at h
    exact pieces_cons (Ne.symm h.1) (ih h.2)

theorem pieces_of_not_mem {word : List Char} (h : '/' ∉ word) : pieces word = [word] := by
  induction word with
  | nil => rfl
  | cons c word ih =>
    rw [List.mem_cons, not_or] at h
    exact pieces_cons (Ne.symm h.1) (ih h.2)

theorem not_mem_of_mem_pieces {cs piece : List Char} (h : piece ∈ pieces cs) : '/' ∉ piece := by
  induction cs generalizing piece with
  | nil =>
    rw [List.mem_singleton.mp h]
    exact List.not_mem_nil
  | cons c cs ih =>
    obtain ⟨first, more, hcs⟩ := List.exists_cons_of_ne_nil (pieces_ne_nil cs)
    by_cases hc : c = '/'
    · rw [hc, pieces_slash, List.mem_cons] at h
      rcases h with rfl | h
      · exact List.not_mem_nil
      · exact ih h
    · rw [pieces_cons hc hcs, List.mem_cons] at h
      rcases h with rfl | h
      · rw [List.mem_cons, not_or]
        exact ⟨Ne.symm hc, ih (hcs ▸ List.mem_cons_self)⟩
      · exact ih (hcs ▸ List.mem_cons_of_mem _ h)

/-- No name of a path that a text writes has a slash in it. -/
theorem not_mem_of_mem_ofString {text name : String} (h : name ∈ (ofString text).names) : '/' ∉ name.toList := by
  obtain ⟨piece, hpiece, rfl⟩ := List.mem_map.mp (List.mem_filter.mp h).1
  rw [String.toList_ofList]
  exact not_mem_of_mem_pieces hpiece

theorem pieces_intercalate {name : String} {names : List String} (h : ∀ n ∈ name :: names, '/' ∉ n.toList) :
    pieces ("/".intercalate (name :: names)).toList = (name :: names).map String.toList := by
  induction names generalizing name with
  | nil => exact pieces_of_not_mem (h name List.mem_cons_self)
  | cons next names ih =>
    rw [String.intercalate_cons_cons, String.toList_append, String.toList_append, List.append_assoc]
    exact (pieces_append_slash (h name List.mem_cons_self) _).trans
      (congrArg _ (ih fun n hn => h n (List.mem_cons_of_mem _ hn)))

/-- The text of a path tells its detours. -/
theorem mem_names_iff_mem_pieces {p : Path} (hroot : p.root = "") (h : ∀ name ∈ p.names, '/' ∉ name.toList) :
    ".." ∈ p.names ↔ "..".toList ∈ pieces p.toString.toList := by
  obtain ⟨root, names⟩ := p
  obtain rfl : root = "" := hroot
  cases names with
  | nil => decide
  | cons name names =>
    have hinjective : Function.Injective String.toList := fun _ _ => String.toList_injective
    rw [toString, if_neg (by simp), String.empty_append, pieces_intercalate h, List.mem_map_of_injective hinjective]

/-! ### Paths from a root on -/

/-- A path is below a root if it goes on from it. -/
theorem relativeTo_eq_some_iff {p root rel : Path} :
    p.relativeTo root = some rel ↔ rel.root = "" ∧ p = root.below rel.names := by
  rw [relativeTo]
  constructor
  · intro h
    split at h
    · rename_i hprefix
      rw [Bool.and_eq_true, beq_iff_eq, List.isPrefixOf_iff_prefix] at hprefix
      obtain ⟨hroot, names, hnames⟩ := hprefix
      rw [Option.some.injEq] at h
      rw [← h, ← hnames, List.drop_left, below, hnames, ← hroot]
      exact ⟨rfl, rfl⟩
    · exact absurd h (by simp)
  · rintro ⟨hroot, rfl⟩
    have hprefix : (root.root == root.root && root.names.isPrefixOf (root.names ++ rel.names)) = true := by simp
    obtain ⟨_, names⟩ := rel
    obtain rfl : _ = "" := hroot
    rw [below, if_pos hprefix, List.drop_left]

theorem join_of_isAbsolute (base : Path) {p : Path} (h : p.isAbsolute = true) : base.join p = p := by rw [join, if_pos h]

theorem join_eq_below (base : Path) {p : Path} (h : p.isAbsolute = false) : base.join p = base.below p.names := by
  rw [join, if_neg (by rw [h]; decide), below]

end Path

/-! ## 2. The sink of a project -/

namespace Workspace.LeadAlike

variable {w : Workspace} {d e : Path}

theorem disk_append (h : w.LeadAlike d e) (more : Bytes) : w.disk.append d more = w.disk.append e more := by
  have hread : w.disk.read d = w.disk.read e := by rw [Disk.read, Disk.read, h.find]
  have hput (content : Bytes) : w.disk.putFile d content = w.disk.putFile e content := by
    rw [Disk.putFile, Disk.putFile, h.locate]
  simp only [Disk.append, hread, hput]

end Workspace.LeadAlike

namespace Workspace.LeadsToDirectory

variable {w : Workspace} {d e : Path}

/-- Below two paths to one directory the same directories are made. -/
theorem ensureDirectories_below (hd : w.LeadsToDirectory d) (halike : w.LeadAlike d e) (names : List String) :
    w.disk.ensureDirectories (d.below names) = w.disk.ensureDirectories (e.below names) := by
  obtain ⟨-, place, hlocate, hreached⟩ := hd
  rw [Disk.ensureDirectories, Disk.ensureDirectories, Path.below, Path.below,
    Disk.ensureFrom_append names hlocate hreached.here,
    Disk.ensureFrom_append names (halike.locate.symm.trans hlocate) hreached.here]

end Workspace.LeadsToDirectory

theorem Sink.append_below_congr {w : Workspace} {d e : Path} (hd : w.LeadsToDirectory d) (halike : w.LeadAlike d e)
    (names : List String) (records : List Record) :
    Sink.append w (d.below names) records = Sink.append w (e.below names) records := by
  obtain ⟨-, place, hlocate, -⟩ := id hd
  have hlocate' := halike.locate.symm.trans hlocate
  have hensure : w.disk.ensureDirectories (d.below names).parent = w.disk.ensureDirectories (e.below names).parent := by
    rcases List.eq_nil_or_concat names with rfl | ⟨more, last, rfl⟩
    · rw [Path.below_nil, Path.below_nil, Disk.ensureDirectories_of_locate hlocate,
        Disk.ensureDirectories_of_locate hlocate']
    · have hparent (p : Path) : (p.below (more.concat last)).parent = p.below more := by
        rw [List.concat_eq_append, Path.below, Path.parent, Path.below, ← List.append_assoc, List.dropLast_concat]
      rw [hparent, hparent]
      exact hd.ensureDirectories_below halike more
  have hbelow := halike.below names
  rw [Sink.append, Sink.append, addBytes, addBytes, w.absolute_of_isAbsolute hbelow.absolute,
    w.absolute_of_isAbsolute hbelow.absolute', Workspace.onDisk, Workspace.onDisk, hensure]
  cases hdisk : w.disk.ensureDirectories (e.below names).parent with
  | error error => rfl
  | ok disk =>
    -- the root is found in what was made, too
    have hchanges := Disk.changesOnly_ensureDirectories hdisk
    have hafter : Workspace.LeadAlike { w with disk } d e :=
      ⟨halike.absolute, halike.absolute', (hchanges.locate hlocate).trans (hchanges.locate hlocate').symm⟩
    dsimp only
    rw [(hafter.below names).disk_append]

/-- What is appended to the sink of a project does not depend on the path to its root. -/
theorem Sink.append_join_congr {w : Workspace} {d e : Path} (hd : w.LeadsToDirectory d) (halike : w.LeadAlike d e)
    (below : Path) (records : List Record) :
    Sink.append w (d.join below) records = Sink.append w (e.join below) records := by
  cases hroot : below.isAbsolute with
  | true => rw [Path.join_of_isAbsolute d hroot, Path.join_of_isAbsolute e hroot]
  | false =>
    rw [Path.join_eq_below d hroot, Path.join_eq_below e hroot]
    exact append_below_congr hd halike below.names records

/-! ## 3. The name of a file -/

namespace Rewrite

/-- The records of a rewrite tell the name of the file. -/
theorem file_of_mem_records {settings : Settings} {file source : String} {r : Rewritten}
    (h : rewrite settings file source = .ok r) : ∀ record ∈ r.records, record.context.file = file := by
  intro record hrecord
  rw [records_of_rewrite h] at hrecord
  obtain ⟨i, hi, rfl⟩ := List.mem_map.mp hrecord
  obtain ⟨o, shown, -, -, -, -, hextracted, -⟩ := insertion_spec hi
  rw [hextracted]
  rfl

namespace Sample

def line : String := "<p>Hi</p>"

end Sample

/-- In both dialects a text is taken out of the source. -/
theorem any_takenTexts_line (dialect : Source.Dialect) :
    (Source.Document.ofChars? dialect Sample.line.toList).any (fun d => !(takenTexts (.ofDocument d)).isEmpty) = true := by
  cases dialect <;> decide +kernel

/-- So there is a source whose records tell the name of the file, whatever it is. -/
theorem exists_records (settings : Settings) (file : String) :
    ∃ r, rewrite settings file Sample.line = .ok r ∧ r.records ≠ [] := by
  obtain ⟨d, hd, htaken⟩ := (Option.any_eq_true _ _).mp (any_takenTexts_line (dialectOf file))
  have houtline := outline_of_ofChars? hd
  obtain ⟨r, hr⟩ := exists_rewrite settings houtline
  refine ⟨r, hr, fun hnil => ?_⟩
  rw [records_of_rewrite hr, insertions, houtline, List.map_eq_nil_iff] at hnil
  dsimp only at hnil
  rw [← map_text_insertionsOf settings file, hnil] at htaken
  exact absurd htaken (by decide)

end Rewrite

/-! ## 4. Detours above the root -/

namespace Workspace

/-- The working directory is there, and its path leads from the root on without detours, as the system gives it. -/
structure IsPlaced (w : Workspace) : Prop where
  absolute : w.directory.isAbsolute = true
  straight : ".." ∉ w.directory.names
  written : ∃ text, w.directory = Path.ofString text
  directory : w.isDirectory ⟨"", []⟩ = true

def straight (w : Workspace) (p : Path) : Path := (w.absolute p).straight

theorem IsPlaced.isAbsolute {w : Workspace} (h : w.IsPlaced) (p : Path) : (w.absolute p).isAbsolute = true := by
  cases hp : p.isAbsolute with
  | true => rw [w.absolute_of_isAbsolute hp, hp]
  | false =>
    rw [Workspace.absolute, Path.join_eq_below _ hp]
    exact h.absolute

theorem IsPlaced.absolute_straight {w : Workspace} (h : w.IsPlaced) (p : Path) :
    w.absolute (w.straight p) = w.straight p := w.absolute_of_isAbsolute (h.isAbsolute p)

/-- No name on the way from the root to what a text writes has a slash in it. -/
theorem IsPlaced.not_mem_of_mem_absolute {w : Workspace} (h : w.IsPlaced) (text : String) {name : String}
    (hname : name ∈ (w.absolute (Path.ofString text)).names) : '/' ∉ name.toList := by
  obtain ⟨directory, hdirectory⟩ := h.written
  cases hp : (Path.ofString text).isAbsolute with
  | true =>
    rw [w.absolute_of_isAbsolute hp] at hname
    exact Path.not_mem_of_mem_ofString hname
  | false =>
    rw [Workspace.absolute, Path.join_eq_below _ hp, Path.below, List.mem_append] at hname
    rcases hname with hname | hname
    · rw [hdirectory] at hname
      exact Path.not_mem_of_mem_ofString hname
    · exact Path.not_mem_of_mem_ofString hname

end Workspace

namespace Scan

variable {settings : Settings} {w : Workspace} {path rel : Path}

/-- The root of the workspace that a file belongs to. -/
def sourceRoot (settings : Settings) (w : Workspace) (path : Path) : Path :=
  Project.findWorkspaceRoot w (projectRoot w settings path)

/-- The path of a file from the root of its workspace on, if it is below it. -/
def fromRoot (settings : Settings) (w : Workspace) (path : Path) : Option Path :=
  path.relativeTo (sourceRoot settings w path)

theorem nameBelow_sourceRoot (settings : Settings) (w : Workspace) (path : Path) :
    Project.nameBelow path (Project.findWorkspaceRoot w (projectRoot w settings path)) =
      (fromRoot settings w path).map Path.toString := rfl

/-- From a root without detours on, a path without detours is straight. -/
theorem straight_of_fromRoot (h : fromRoot settings w path = some rel) (hplain : ".." ∉ rel.names)
    (hroot : ".." ∉ (sourceRoot settings w path).names) : path.straight = path := by
  refine Path.straight_of_not_mem ?_
  rw [(Path.relativeTo_eq_some_iff.mp h).2, Path.below, List.mem_append, not_or]
  exact ⟨hroot, hplain⟩

/-- A root that is found above a path is found above the straight one too, if the detours are above the root of the
workspace around it. -/
theorem fromRoot_straight_of_found {root : Path} (hsettings : settings.projectRoot = none)
    (habsolute : path.isAbsolute = true) (hfound : path.ancestors.find? (Project.holdsConfig w) = some root)
    (h : fromRoot settings w path = some rel) (hplain : ".." ∉ rel.names) :
    fromRoot settings w path.straight = some rel ∧ w.LeadsToDirectory (projectRoot w settings path) ∧
      w.LeadAlike (projectRoot w settings path) (projectRoot w settings path.straight) := by
  have hproject (p : Path) : projectRoot w settings p = Project.findRoot w p := by rw [projectRoot, hsettings]
  have hroot : Project.findRoot w path = root := by rw [Project.findRoot_eq, hfound, Option.getD_some]
  obtain ⟨hrel, hpath⟩ := Path.relativeTo_eq_some_iff.mp h
  rw [sourceRoot, hproject, hroot] at hpath
  -- the root is below the root of the workspace, and the file is below both
  generalize hd : Project.findWorkspaceRoot w root = d at hpath
  obtain ⟨below, hbelow⟩ : ∃ below, root = d.below below :=
    Path.exists_below_of_mem_upwards (hd ▸ Project.findWorkspaceRoot_mem w root)
  obtain ⟨n, hn, hancestor⟩ := Path.mem_ancestors.mp (List.mem_of_find?_eq_some hfound)
  have hrootAbsolute : root.isAbsolute = true := by
    rw [hancestor]
    exact habsolute
  have hleads : w.LeadsToDirectory root :=
    Project.leadsToDirectory_of_holdsConfig hrootAbsolute (List.find?_some hfound)
  have hleads' : w.LeadsToDirectory d := (hbelow ▸ hleads).above
  have halike := hleads'.leadAlike_straight
  have hnames : rel.names ≠ [] := by
    intro hnil
    rw [hnil, Path.below_nil] at hpath
    have hlength := congrArg (fun p : Path => p.names.length) (hancestor.symm.trans hbelow)
    simp only [← hpath, Path.below, List.length_take, List.length_append] at hlength
    omega
  have hstraight : path.straight = d.straight.below rel.names := by rw [hpath, Path.straight_below d hplain]
  have hroot' : Project.findRoot w path.straight = d.straight.below below := by
    rw [hstraight]
    exact Project.findRoot_straight halike hnames (by rw [← hpath, ← hbelow, hfound])
  have hd' : Project.findWorkspaceRoot w (d.straight.below below) = d.straight :=
    Project.findWorkspaceRoot_straight hleads' (hbelow ▸ hd)
  rw [fromRoot, sourceRoot, hproject, hproject, hroot, hroot', hd', Path.relativeTo_eq_some_iff, hbelow]
  exact ⟨⟨hrel, hstraight⟩, hbelow ▸ hleads, halike.below below⟩

/-- Detours above the root do not matter: there are none, or the root is found above them alike. -/
theorem fromRoot_straight (hplaced : w.IsPlaced) (habsolute : path.isAbsolute = true)
    (h : fromRoot settings w path = some rel) (hplain : ".." ∉ rel.names)
    (hstraight : fromRoot settings w path.straight ≠ none) :
    path.straight = path ∨ fromRoot settings w path.straight = some rel ∧
      w.LeadsToDirectory (projectRoot w settings path) ∧
        w.LeadAlike (projectRoot w settings path) (projectRoot w settings path.straight) := by
  cases hsettings : settings.projectRoot with
  | some root =>
    -- both are looked for below the same root
    refine .inl (straight_of_fromRoot h hplain fun hmem => ?_)
    obtain ⟨rel', hrel'⟩ := Option.ne_none_iff_exists'.mp hstraight
    have hpath' := (Path.relativeTo_eq_some_iff.mp hrel').2
    have hroot : sourceRoot settings w path.straight = sourceRoot settings w path := by
      rw [sourceRoot, sourceRoot, projectRoot, projectRoot, hsettings]
    rw [hroot] at hpath'
    exact path.not_mem_straight (hpath' ▸ List.mem_append_left _ hmem)
  | none =>
    cases hfound : path.ancestors.find? (Project.holdsConfig w) with
    | some root => exact .inr (fromRoot_straight_of_found hsettings habsolute hfound h hplain)
    | none =>
      -- the root is at or above the working directory
      have hproject : projectRoot w settings path = w.directory := by
        rw [projectRoot, hsettings, Project.findRoot_eq, hfound, Option.getD_none]
      refine .inl (straight_of_fromRoot h hplain fun hmem => hplaced.straight ?_)
      obtain ⟨n, hroot⟩ := Path.mem_upwards.mp (Project.findWorkspaceRoot_mem w w.directory)
      rw [sourceRoot, hproject, hroot] at hmem
      exact List.mem_of_mem_take hmem

/-! ## 5. One outcome -/

variable {p : Path} {sink : Option Path} {source : String}

/-- The scan of a file that is not below the root of its workspace. -/
theorem run_of_outside (hpath : w.absolute p = path) (h : Project.ineligible? settings path = none)
    (hrel : fromRoot settings w path = none) :
    run w settings sink p source =
      (skip source .outside, w.log (.debug "Skipping file outside source tree" [("file", .string path.toString)])) := by
  rw [run, runWith]
  simp only [hpath, h, nameBelow_sourceRoot, hrel, Option.map_none]

/-- The scan of a file that is below it. -/
theorem run_of_fromRoot (hpath : w.absolute p = path) (h : Project.ineligible? settings path = none)
    (hrel : fromRoot settings w path = some rel) :
    run w settings sink p source =
      store Sink.appendWhole w settings (sink.getD (settings.sinkPath (projectRoot w settings path))) path rel.toString
        source := by
  rw [run, runWith]
  simp only [hpath, h, nameBelow_sourceRoot, hrel, Option.map_some]

theorem skipped_outside_iff (hpath : w.absolute p = path) (h : Project.ineligible? settings path = none) :
    (run w settings sink p source).1.skipped = some .outside ↔ fromRoot settings w path = none := by
  cases hrel : fromRoot settings w path with
  | none =>
    rw [run_of_outside hpath h hrel]
    exact ⟨fun _ => rfl, fun _ => rfl⟩
  | some rel =>
    rw [run_of_fromRoot hpath h hrel]
    exact ⟨fun hskip => absurd (eq_of_skipped_store hskip) (by simp), fun hnone => absurd hnone (by simp)⟩

/-- What is stored depends on what a sink becomes, and not on the paths. -/
theorem store_congr {sink sink' path path' : Path} {name : String}
    (h : ∀ event records, Sink.append (w.log event) sink records = Sink.append (w.log event) sink' records) :
    (store Sink.appendWhole w settings sink path name source).1 =
        (store Sink.appendWhole w settings sink' path' name source).1 ∧
      (store Sink.appendWhole w settings sink path name source).2.disk =
        (store Sink.appendWhole w settings sink' path' name source).2.disk := by
  rw [store, store]
  cases Rewrite.rewrite settings name source with
  | error refusal => cases refusal <;> exact ⟨rfl, rfl⟩
  | ok r =>
    dsimp only
    cases r.records.isEmpty with
    | true => exact ⟨rfl, rfl⟩
    | false =>
      rw [Sink.appendWhole, Sink.appendWhole, h]
      cases Sink.append (w.log (extracted name r)) sink' r.records <;> exact ⟨rfl, rfl⟩

/-- What a scan makes of a file does not depend on the path that it is given by. -/
structure HasOneOutcome (settings : Settings) (w : Workspace) (p : Path) : Prop where
  /-- The code, the records and the reason to pass over the file are those of the straight path. -/
  result : ∀ sink source,
    (run w settings sink p source).1 = (run w settings sink (w.straight p) source).1
  /-- So is all that is on the disk, and with it the sink. -/
  disk : ∀ sink source,
    (run w settings sink p source).2.disk = (run w settings sink (w.straight p) source).2.disk
  /-- A file that is to be scanned and is not below the root of its workspace is reported so. -/
  outside : Admits settings w (w.straight p) →
    ¬ Disk.placeOf (sourceRoot settings w (w.straight p)) <+: (w.straight p).names →
      ∀ sink source, (run w settings sink p source).1.skipped = some .outside

/-- The detours of a path from the root on do not matter: it leads through no directory that is never scanned, none of
its detours is below the root of the workspace, and it is below this root just if the straight path is. -/
structure HasHarmlessDetours (settings : Settings) (w : Workspace) (path : Path) : Prop where
  eligible : Project.ineligible? settings path = none
  above : ∀ rel, fromRoot settings w path = some rel → ".." ∉ rel.names
  alike : fromRoot settings w path = none ↔ fromRoot settings w path.straight = none

theorem mem_parts_of_straight {part : String} (h : part ∈ path.straight.parts) : part ∈ path.parts := by
  rw [Path.parts, Path.straight] at h
  rw [Path.parts]
  split at h
  · rename_i hroot
    rw [if_pos hroot]
    exact (Path.mem_of_mem_collapsed h).1
  · rename_i hroot
    rw [if_neg hroot, List.mem_cons]
    exact (List.mem_cons.mp h).imp_right fun hmem => (Path.mem_of_mem_collapsed hmem).1

theorem lowerSuffix_straight (hnames : path.names ≠ []) (hname : path.name ≠ "..") :
    path.straight.lowerSuffix = path.lowerSuffix := by
  have hparent := Disk.child_parent_name hnames
  rw [← hparent, Path.straight_child _ hname]
  simp [Path.lowerSuffix, Path.suffix, Path.name, Path.child]

/-- A straight path is passed over less. -/
theorem ineligible?_straight {reason : Project.Ineligible} (hnames : path.names ≠ []) (hname : path.name ≠ "..")
    (h : Project.ineligible? settings path.straight = some reason) :
    Project.ineligible? settings path = some reason := by
  rw [Project.ineligible?, lowerSuffix_straight hnames hname] at h
  rw [Project.ineligible?]
  split at h
  · rename_i hsuffix
    rwa [if_pos hsuffix]
  · rename_i hsuffix
    split at h
    · rename_i hskip
      obtain ⟨part, hpart, hcontains⟩ := List.any_eq_true.mp hskip
      have hparts : path.parts.any settings.skipDirs.contains = true :=
        List.any_eq_true.mpr ⟨part, mem_parts_of_straight hpart, hcontains⟩
      rwa [if_neg hsuffix, if_pos hparts]
    · exact absurd h (by simp)

/-- A path to a file ends in a name. -/
theorem name_of_read {content : Bytes} (hplaced : w.IsPlaced) (h : w.read p = .ok content) :
    (w.absolute p).names ≠ [] ∧ (w.absolute p).name ≠ ".." := by
  obtain ⟨hlocate, hat⟩ := Disk.read_eq_ok_iff.mp h
  have hnames : (w.absolute p).names ≠ [] := by
    intro hnil
    rw [Disk.placeOf, hnil] at hat
    exact Disk.ne_nil_of_file hat rfl
  refine ⟨hnames, fun hname => ?_⟩
  -- two points lead to a directory
  have hchild := Disk.child_parent_name hnames
  rw [hname] at hchild
  have hup : w.disk.locate ((w.absolute p).parent.below [".."]) = .ok (Disk.placeOf (w.absolute p)) := by
    rw [← hlocate]
    exact congrArg w.disk.locate hchild
  have hleads : w.LeadsToDirectory (w.absolute p).parent :=
    Workspace.leadsToDirectory_of_locate (hplaced.isAbsolute p) (List.cons_ne_nil _ []) hup
  obtain ⟨-, place, hparent, hreached⟩ := hleads
  have hplace : Disk.placeOf (w.absolute p) = place.dropLast := by
    rw [Disk.placeOf_eq_of_locate hparent, Disk.placeOf, Disk.placeOf, ← Path.collapsed_concat_up]
    exact congrArg (fun path : Path => Path.collapsed path.names) hchild.symm
  rw [hplace, hreached.dropLast.here] at hat
  exact absurd hat (by simp)

/-- The straight path leads to the same file. -/
theorem read_straight {content : Bytes} (hplaced : w.IsPlaced) (h : w.read p = .ok content) :
    w.read (w.straight p) = .ok content := by
  obtain ⟨hlocate, hat⟩ := Disk.read_eq_ok_iff.mp h
  have hplace : Disk.placeOf (w.straight p) = (w.straight p).names :=
    Disk.collapsed_of_not_mem (Path.not_mem_straight _)
  rw [Workspace.read, hplaced.absolute_straight, Disk.read_eq_ok_iff, hplace]
  exact ⟨Disk.locate_of_isReached (Path.not_mem_straight _) (Disk.isReached_of_locate hlocate), hat⟩

/-- The records of a scan tell the path from the root on. -/
theorem file_of_mem_run (hpath : w.absolute p = path) (hrel : fromRoot settings w path = some rel) :
    ∀ record ∈ (run w settings sink p source).1.records, record.context.file = rel.toString := by
  intro record hrecord
  rcases run_cases settings w sink p source with ⟨name, r, hr, hrun⟩ | ⟨reason, hrun⟩
  · have hname := hr.name_eq
    rw [nameOf, hpath, nameBelow_sourceRoot, hrel, Option.map_some, Option.some.injEq] at hname
    rw [hrun] at hrecord
    rw [hname]
    exact Rewrite.file_of_mem_records hr.rewrite_eq record hrecord
  · rw [hrun] at hrecord
    exact absurd hrecord List.not_mem_nil

/-- And there is a source with records. -/
theorem records_run_ne_nil {log : Path} {content : Bytes} (hpath : w.absolute p = path)
    (h : Project.ineligible? settings path = none) (hrel : fromRoot settings w path = some rel)
    (hread : w.read log = .ok content) : (run w settings (some log) p Rewrite.Sample.line).1.records ≠ [] := by
  obtain ⟨r, hr, hne⟩ := Rewrite.exists_records settings rel.toString
  obtain ⟨w', happend, -⟩ := Sink.append_of_read (w := w.log (extracted rel.toString r)) hread r.records
  rw [run_of_fromRoot hpath h hrel, store, hr, Option.getD_some]
  dsimp only
  rw [if_neg (by simpa using hne), Sink.appendWhole, happend]
  exact hne

/-- Where the detours do not matter, both paths have the same outcome. -/
theorem run_straight (hplaced : w.IsPlaced) (hstraight : Project.ineligible? settings (w.straight p) = none)
    (h : HasHarmlessDetours settings w (w.absolute p)) :
    (run w settings sink p source).1 = (run w settings sink (w.straight p) source).1 ∧
      (run w settings sink p source).2.disk = (run w settings sink (w.straight p) source).2.disk := by
  have habsolute := hplaced.absolute_straight p
  cases hrel : fromRoot settings w (w.absolute p) with
  | none =>
    rw [run_of_outside rfl h.eligible hrel, run_of_outside habsolute hstraight (h.alike.mp hrel)]
    exact ⟨rfl, rfl⟩
  | some rel =>
    have hsome : fromRoot settings w (w.absolute p).straight ≠ none := by
      rw [ne_eq, ← h.alike, hrel]
      exact Option.some_ne_none rel
    rcases fromRoot_straight hplaced (hplaced.isAbsolute p) hrel (h.above rel hrel) hsome with
      hsame | ⟨hrel', hleads, halike⟩
    · have hpath : w.absolute (w.straight p) = w.absolute p := habsolute.trans hsame
      rw [run, run, runWith, runWith, hpath]
      exact ⟨rfl, rfl⟩
    · rw [run_of_fromRoot rfl h.eligible hrel, run_of_fromRoot habsolute hstraight hrel']
      refine store_congr fun event records => ?_
      have hleads' : (w.log event).LeadsToDirectory (projectRoot w settings (w.absolute p)) := hleads
      have halike' : (w.log event).LeadAlike (projectRoot w settings (w.absolute p))
          (projectRoot w settings (w.absolute p).straight) := ⟨halike.absolute, halike.absolute', halike.locate⟩
      cases sink with
      | some sink => rfl
      | none => exact Sink.append_join_congr hleads' halike' _ records

/-- If the straight path is passed over, so is the path. -/
theorem run_of_ineligible_straight (hplaced : w.IsPlaced) {content : Bytes} (hread : w.read p = .ok content)
    {reason : Project.Ineligible} (h : Project.ineligible? settings (w.straight p) = some reason) :
    run w settings sink p source = run w settings sink (w.straight p) source := by
  obtain ⟨hnames, hname⟩ := name_of_read hplaced hread
  rw [run, run, runWith, runWith, hplaced.absolute_straight]
  simp only [h, ineligible?_straight hnames hname h]

/-- A file that is below its root is not outside. -/
theorem fromRoot_eq_none (path : Path)
    (h : ¬ Disk.placeOf (sourceRoot settings w path.straight) <+: path.straight.names) :
    fromRoot settings w path.straight = none := by
  cases hrel : fromRoot settings w path.straight with
  | none => rfl
  | some rel =>
    have hpath := (Path.relativeTo_eq_some_iff.mp hrel).2
    have hplain : ".." ∉ (sourceRoot settings w path.straight).names := fun hmem =>
      path.not_mem_straight (hpath ▸ List.mem_append_left _ hmem)
    refine absurd ?_ h
    rw [Disk.placeOf, Disk.collapsed_of_not_mem hplain]
    exact ⟨rel.names, (congrArg Path.names hpath).symm⟩

/-- Two paths below their roots under one name have detours there alike. -/
theorem not_mem_of_toString_eq {rel' : Path} (hplaced : w.IsPlaced) (text : String)
    (h : fromRoot settings w (w.absolute (Path.ofString text)) = some rel)
    (h' : fromRoot settings w (w.straight (Path.ofString text)) = some rel') (hname : rel.toString = rel'.toString) :
    ".." ∉ rel.names := by
  obtain ⟨hroot, hpath⟩ := Path.relativeTo_eq_some_iff.mp h
  obtain ⟨hroot', hpath'⟩ := Path.relativeTo_eq_some_iff.mp h'
  have hmem {name : String} (hname : name ∈ rel.names) : name ∈ (w.absolute (Path.ofString text)).names :=
    hpath ▸ List.mem_append_right _ hname
  have hmem' {name : String} (hname : name ∈ rel'.names) : name ∈ (w.straight (Path.ofString text)).names :=
    hpath' ▸ List.mem_append_right _ hname
  rw [Path.mem_names_iff_mem_pieces hroot fun name hname => hplaced.not_mem_of_mem_absolute text (hmem hname), hname,
    ← Path.mem_names_iff_mem_pieces hroot' fun name hname =>
      hplaced.not_mem_of_mem_absolute text (Path.mem_of_mem_collapsed (hmem' hname)).1]
  exact fun hup => Path.not_mem_straight _ (hmem' hup)

/-- Where the outcome is one, the detours do not matter. -/
theorem HasOneOutcome.hasHarmlessDetours {text : String} (h : HasOneOutcome settings w (Path.ofString text))
    (hplaced : w.IsPlaced) {content : Bytes} (hread : w.read (Path.ofString text) = .ok content)
    (hstraight : Project.ineligible? settings (w.straight (Path.ofString text)) = none) :
    HasHarmlessDetours settings w (w.absolute (Path.ofString text)) := by
  generalize hp : Path.ofString text = p at h hread hstraight ⊢
  have habsolute := hplaced.absolute_straight p
  have heligible : Project.ineligible? settings (w.absolute p) = none := by
    refine admits_iff.mp fun sink source reason => ?_
    rw [h.result]
    exact admits_iff.mpr (habsolute.symm ▸ hstraight) sink source reason
  have halike : fromRoot settings w (w.absolute p) = none ↔ fromRoot settings w (w.straight p) = none := by
    rw [← @skipped_outside_iff settings w _ p none "" rfl heligible, h.result, skipped_outside_iff habsolute hstraight]
  refine ⟨heligible, fun rel hrel => ?_, halike⟩
  obtain ⟨rel', hrel'⟩ : ∃ rel', fromRoot settings w (w.straight p) = some rel' := by
    rw [← Option.ne_none_iff_exists', ne_eq, ← halike, hrel]
    exact Option.some_ne_none rel
  -- a record of both scans tells both names
  obtain ⟨record, hrecord⟩ := List.exists_mem_of_ne_nil _ (records_run_ne_nil rfl heligible hrel hread)
  have hfile := file_of_mem_run rfl hrel record hrecord
  rw [h.result] at hrecord
  have hfile' := file_of_mem_run habsolute hrel' record hrecord
  subst hp
  exact not_mem_of_toString_eq hplaced text hrel hrel' (hfile.symm.trans hfile')

/-- Where the detours do not matter, or the file is not to be scanned, the outcome is one. -/
theorem hasOneOutcome_of_hasHarmlessDetours (hplaced : w.IsPlaced) {content : Bytes} (hread : w.read p = .ok content)
    (h : Project.ineligible? settings (w.straight p) = none → HasHarmlessDetours settings w (w.absolute p)) :
    HasOneOutcome settings w p := by
  have hrun (sink : Option Path) (source : String) :
      (run w settings sink p source).1 = (run w settings sink (w.straight p) source).1 ∧
        (run w settings sink p source).2.disk = (run w settings sink (w.straight p) source).2.disk := by
    cases hstraight : Project.ineligible? settings (w.straight p) with
    | some reason =>
      rw [run_of_ineligible_straight hplaced hread hstraight]
      exact ⟨rfl, rfl⟩
    | none => exact run_straight hplaced hstraight (h hstraight)
  refine ⟨fun sink source => (hrun sink source).1, fun sink source => (hrun sink source).2,
    fun hadmits houtside sink source => ?_⟩
  have hstraight := admits_iff.mp hadmits
  rw [hplaced.absolute_straight] at hstraight
  rw [(hrun sink source).1, skipped_outside_iff (hplaced.absolute_straight p) hstraight]
  exact fromRoot_eq_none _ houtside

end Scan

namespace Project

variable {settings : Settings} {w : Workspace} {paths : List Path} {p : Path}

/-! ## 6. One entry in the listing -/

/-- A file that is to be scanned is listed once, as often as it is given by a path and by the straight one. -/
def ListsOnce (settings : Settings) (w : Workspace) (p : Path) : Prop :=
  ineligible? settings (w.straight p) = none →
    ∀ paths, paths ≠ [] → (∀ q ∈ paths, q = p ∨ q = w.straight p) → ∃ file, sources w settings paths = [file]

theorem eraseDups_eq_singleton {α : Type} [BEq α] [LawfulBEq α] {xs : List α} {x : α} (hne : xs ≠ [])
    (h : ∀ y ∈ xs, y = x) : xs.eraseDups = [x] := by
  obtain ⟨y, ys, rfl⟩ := List.exists_cons_of_ne_nil hne
  have hrest : ys.filter (fun z => !z == y) = [] := by
    refine List.filter_eq_nil_iff.mpr fun z hz => ?_
    rw [h z (List.mem_cons_of_mem _ hz), h y List.mem_cons_self]
    simp
  rw [List.eraseDups_cons, hrest, List.eraseDups_nil, h y List.mem_cons_self]

/-- Files that are one from the root on are listed once. -/
theorem sources_eq_singleton {file : Path} (hne : paths ≠ [])
    (h : ∀ q ∈ paths, w.isFile q = true ∧ ineligible? settings q = none ∧ w.absolute q = file) :
    sources w settings paths = [file] := by
  have hcandidates : paths.flatMap (candidates w) = paths :=
    (List.flatMap_congr fun q hq => candidates_of_isFile (h q hq).1).trans (List.flatMap_singleton' paths)
  have hall : paths.filter (fun q => w.isFile q && (ineligible? settings q).isNone) = paths := by
    refine List.filter_eq_self.mpr fun q hq => ?_
    obtain ⟨hfile, heligible, -⟩ := h q hq
    rw [hfile, heligible]
    rfl
  have habsolute : ∀ q ∈ paths.map w.absolute, q = file := by
    intro q hq
    obtain ⟨p, hp, rfl⟩ := List.mem_map.mp hq
    exact (h p hp).2.2
  rw [sources, hcandidates, hall, eraseDups_eq_singleton (by simpa using hne) habsolute, List.mergeSort_singleton]

/-- A path is its own straight path just if it has no detours. -/
theorem listsOnce_iff (hplaced : w.IsPlaced) {content : Bytes} (hread : w.read p = .ok content) :
    ListsOnce settings w p ↔ (ineligible? settings (w.straight p) = none → ".." ∉ (w.absolute p).names) := by
  refine forall_congr' fun hstraight => ?_
  have habsolute := hplaced.absolute_straight p
  have hfile := Workspace.isFile_of_read hread
  have hfile' := Workspace.isFile_of_read (Scan.read_straight hplaced hread)
  constructor
  · intro h
    obtain ⟨file, hsources⟩ := h [p] (List.cons_ne_nil _ _) fun q hq => .inl (List.mem_singleton.mp hq)
    obtain ⟨both, hboth⟩ := h [p, w.straight p] (List.cons_ne_nil _ _) (by simp)
    -- the path is listed by itself, so it is listed with the straight one
    have hlisted : file ∈ sources w settings [p] := by rw [hsources]; exact List.mem_singleton_self _
    obtain ⟨q, hq, c, hc, -, heligible, rfl⟩ := mem_sources_iff.mp hlisted
    rw [List.mem_singleton.mp hq, candidates_of_isFile hfile, List.mem_singleton] at hc
    subst hc
    have hmem := mem_sources_of_isFile (List.mem_cons_self : c ∈ [c, w.straight c]) hfile heligible
    have hmem' := mem_sources_of_isFile (List.mem_cons_of_mem c (List.mem_singleton_self (w.straight c))) hfile' hstraight
    rw [habsolute] at hmem'
    rw [hboth, List.mem_singleton] at hmem hmem'
    rw [hmem.trans hmem'.symm]
    exact Path.not_mem_straight _
  · intro hplain paths hne hpaths
    have hsame : w.straight p = w.absolute p := Path.straight_of_not_mem hplain
    rw [hsame] at hstraight
    have heligible : ineligible? settings p = none := by
      cases hroot : p.isAbsolute with
      | true => rwa [w.absolute_of_isAbsolute hroot] at hstraight
      | false =>
        exact ((ineligible?_absolute hplaced.absolute hroot (names_ne_nil hplaced.directory hroot hfile)).mp hstraight).1
    refine ⟨w.absolute p, sources_eq_singleton hne fun q hq => ?_⟩
    rcases hpaths q hq with rfl | rfl
    · exact ⟨hfile, heligible, rfl⟩
    · exact ⟨hfile', hsame.symm ▸ hstraight, habsolute.trans hsame⟩

/-- When neither what a scan makes of a file nor its listing depends on the path that it is given by. -/
theorem hasOneOutcome_and_listsOnce_iff (settings : Settings) {w : Workspace} (hplaced : w.IsPlaced) (text : String)
    {content : Bytes} (hread : w.read (Path.ofString text) = .ok content) :
    (Scan.HasOneOutcome settings w (Path.ofString text) ↔
        (ineligible? settings (w.straight (Path.ofString text)) = none →
          Scan.HasHarmlessDetours settings w (w.absolute (Path.ofString text)))) ∧
      (ListsOnce settings w (Path.ofString text) ↔
        (ineligible? settings (w.straight (Path.ofString text)) = none →
          ".." ∉ (w.absolute (Path.ofString text)).names)) :=
  ⟨⟨fun h => h.hasHarmlessDetours hplaced hread, Scan.hasOneOutcome_of_hasHarmlessDetours hplaced hread⟩,
    listsOnce_iff hplaced hread⟩

namespace Sample

/-- The working directory is a project with a source, and beside it is another directory with a source. -/
def beside : Workspace where
  disk := [(["app"], .directory), (["app", "next.config.js"], .file []), (["app", "a.jsx"], .file []),
    (["other"], .directory), (["other", "a.jsx"], .file [])]
  directory := ⟨"/", ["app"]⟩
  events := []

theorem isPlaced_beside : beside.IsPlaced := ⟨rfl, by decide, ⟨"/app", by decide⟩, by decide⟩

end Sample

open Sample in
/-- A way out of the project and back leads to its root, so it does not matter to its source. The source beside the
project is not below the root, but by the path through the project it is scanned as if it were, and by both paths it is
listed twice. -/
theorem not_hasOneOutcome_of_beside :
    Scan.HasOneOutcome .standard beside (Path.ofString "../other/../app/a.jsx") ∧
      ¬ Scan.HasOneOutcome .standard beside (Path.ofString "../other/a.jsx") ∧
        ¬ ListsOnce .standard beside (Path.ofString "../other/a.jsx") ∧
          ∀ file ∈ [Path.ofString "/other/a.jsx", Path.ofString "/app/../other/a.jsx"],
            file ∈ sources beside .standard [Path.ofString "../other/a.jsx", Path.ofString "/other/a.jsx"] := by
  have hread : beside.read (Path.ofString "../other/../app/a.jsx") = .ok [] := by decide
  have hread' : beside.read (Path.ofString "../other/a.jsx") = .ok [] := by decide
  have houtcome :=
    (hasOneOutcome_and_listsOnce_iff .standard isPlaced_beside "../other/../app/a.jsx" hread).1
  obtain ⟨houtcome', hlists'⟩ :=
    hasOneOutcome_and_listsOnce_iff .standard isPlaced_beside "../other/a.jsx" hread'
  have heligible' : ineligible? .standard (beside.straight (Path.ofString "../other/a.jsx")) = none := by
    decide +kernel
  refine ⟨houtcome.mpr fun _ => ⟨by decide +kernel, fun rel hrel => ?_, ?_⟩, fun h => ?_, fun h => ?_, ?_⟩
  · have hbelow : Scan.fromRoot .standard beside (beside.absolute (Path.ofString "../other/../app/a.jsx")) =
        some ⟨"", ["a.jsx"]⟩ := by decide +kernel
    rw [← Option.some.inj (hbelow.symm.trans hrel)]
    decide
  · decide +kernel
  · have hbelow : Scan.fromRoot .standard beside (beside.absolute (Path.ofString "../other/a.jsx")) =
        some ⟨"", ["..", "other", "a.jsx"]⟩ := by decide +kernel
    exact (houtcome'.mp h heligible').above _ hbelow (by decide)
  · exact hlists'.mp h heligible' (by decide)
  · simp only [sources, List.mem_mergeSort]
    decide +kernel

end Project

end Phrasebook
