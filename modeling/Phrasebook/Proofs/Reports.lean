import Phrasebook.Proofs.Commands
import Phrasebook.Proofs.Printings

/-!
# What scans print

A scan of many files warns of each that it cannot read, shows the others in a table with the numbers of their texts, and
counts. If something of this cannot be printed, the scan fails there.

Results:
1. `says_mapM`: what comes of files one after the other.
2. `prints_scan`: what a scan prints, and how it ends.
3. `showsAll_iff`: it shows all paths and messages as they are just if they are plain; `not_showsAll_of_brackets`: the
   name of a directory is lost if it stands in brackets.
-/

namespace Phrasebook

namespace Command

open Console (Printing)

variable {terminal : Terminal}

/-! ## 1. Files -/

/-- What a scan of many files has to say of one of them. -/
inductive FileReport where
  | unread (reason : String)
  | unchanged
  | found (count : Nat)
  /-- The source could not be written back, which ends the scan. -/
  | unwritten
  deriving DecidableEq

/-- What comes of a file in a scan. -/
def fileReport (settings : Settings) (write : Bool) (w : Workspace) (path : Path) : FileReport :=
  match sourceText w path with
  | .error reason => .unread reason
  | .ok source =>
    let s : Scanned := ⟨w, path, source⟩
    let kept := (s.after settings).onDisk fun disk =>
      disk.putFile ((s.after settings).absolute path) (CatalogStore.bytesOf (s.result settings).code)
    if (s.result settings).changed then
      if write && !kept.isOk then .unwritten else .found (s.result settings).records.length
    else .unchanged

theorem afterFile_of_unread {settings : Settings} {write : Bool} {w : Workspace} {path : Path} {reason : String}
    (h : fileReport settings write w path = .unread reason) : afterFile settings write w path = w := by
  rw [afterFile]
  rw [fileReport] at h
  cases hsource : sourceText w path with
  | error reason => rfl
  | ok source =>
    rw [hsource] at h
    dsimp only at h
    split at h
    · split at h <;> cases h
    · cases h

/-- What comes of files, one after the other. -/
def reports (settings : Settings) (write : Bool) : Workspace → List Path → List (Path × FileReport)
  | _, [] => []
  | w, path :: rest =>
    match fileReport settings write w path with
    | .unwritten => [(path, .unwritten)]
    | report => (path, report) :: reports settings write (afterFile settings write w path) rest

/-- What is said of a file that cannot be read. -/
def warningOf (report : Path × FileReport) : Option Printing :=
  match report with
  | (path, .unread reason) => some (.message .warning s!"Cannot read {path.toString}: {reason}")
  | _ => none

/-- The row of a file in the table. -/
def rowOf (report : Path × FileReport) : Option (String × Nat) :=
  match report with
  | (path, .found count) => some (path.toString, count)
  | _ => none

theorem outcome_say_eq (terminal : Terminal) (kind : Console.MessageKind) (message : String) (p : Progress) :
    (say terminal kind message).outcome p =
      match (Printing.message kind message).printed terminal with
      | .ok text => (.ok (), { p with printed := p.printed ++ text })
      | .error _ => (.error failureCode, p) := by
  rw [say, Printing.printed]
  cases Console.messageText terminal kind message with
  | ok text => rfl
  | error e => rfl

theorem outcome_writeBack (path : Path) (code : String) (p : Progress) :
    (writeBack path code).outcome p =
      match p.workspace.onDisk fun disk => disk.putFile (p.workspace.absolute path) (CatalogStore.bytesOf code) with
      | .ok w => (.ok (), { p with workspace := w })
      | .error _ => (.error failureCode, p) := by
  rw [writeBack, Step.outcome_bind, outcome_workspace]
  dsimp only
  cases p.workspace.onDisk fun disk => disk.putFile (p.workspace.absolute path) (CatalogStore.bytesOf code) with
  | ok w => rfl
  | error e => rfl

theorem outcome_scanFile (terminal : Terminal) (settings : Settings) (write : Bool) (path : Path) (p : Progress) :
    (scanFile terminal settings write path).outcome p =
      match fileReport settings write p.workspace path with
      | .unread reason =>
        match (Printing.message .warning s!"Cannot read {path.toString}: {reason}").printed terminal with
        | .ok text => (.ok none, { p with printed := p.printed ++ text })
        | .error _ => (.error failureCode, p)
      | .unchanged => (.ok none, { p with workspace := afterFile settings write p.workspace path })
      | .found count =>
        (.ok (some (path.toString, count)), { p with workspace := afterFile settings write p.workspace path })
      | .unwritten => (.error failureCode, { p with workspace := afterFile settings write p.workspace path }) := by
  rw [scanFile, Step.outcome_bind, outcome_workspace, fileReport, afterFile]
  dsimp only
  cases sourceText p.workspace path with
  | error reason =>
    dsimp only
    rw [Step.outcome_bind, outcome_say_eq]
    cases (Printing.message .warning s!"Cannot read {path.toString}: {reason}").printed terminal with
    | ok text => rfl
    | error e => rfl
  | ok source =>
    dsimp only
    rw [Step.outcome_bind, outcome_setWorkspace]
    simp only [Scanned.result, Scanned.after]
    by_cases hchanged : (Scan.run p.workspace settings none path source).1.changed = true
    · cases write with
      | false =>
        simp only [hchanged, Bool.false_eq_true, if_true, if_false, Bool.false_and, Bool.and_false]
        rfl
      | true =>
        simp only [hchanged, if_true, Bool.true_and, Bool.and_true]
        rw [Step.outcome_bind, outcome_writeBack, writtenBack]
        dsimp only
        cases (Scan.run p.workspace settings none path source).2.onDisk fun disk =>
          disk.putFile ((Scan.run p.workspace settings none path source).2.absolute path)
            (CatalogStore.bytesOf (Scan.run p.workspace settings none path source).1.code) with
        | ok w => rfl
        | error e => rfl
    · simp only [hchanged, Bool.false_eq_true, if_false, Bool.false_and]
      rfl

/-- Whether a scan ends with the last of some files, because it could not be written back. -/
def isStopped (rs : List (Path × FileReport)) : Bool := rs.any fun report => report.2 == .unwritten

/-- Scans of files say what their reports say: all warnings are printed if they can be, and the rows are given. -/
def Says (terminal : Terminal) (rs : List (Path × FileReport)) (before : String)
    (outcome : Except Nat (List (Option (String × Nat))) × Progress) : Prop :=
  match (rs.filterMap warningOf).mapM (Printing.printed terminal) with
  | .error _ => outcome.1 = .error failureCode
  | .ok texts => outcome.2.printed = before ++ String.join texts ∧
    if isStopped rs then outcome.1 = .error failureCode
    else ∃ rows, outcome.1 = .ok rows ∧ rows.filterMap id = rs.filterMap rowOf

/-- What comes of the rows of files, after the row of one before them. -/
def withRow (row : Option (String × Nat)) (outcome : Except Nat (List (Option (String × Nat))) × Progress) :
    Except Nat (List (Option (String × Nat))) × Progress :=
  (outcome.1.map (row :: ·), outcome.2)

/-- A report has no warning, with nothing to print, or one that is printed as some text. -/
def Warns (terminal : Terminal) (report : Path × FileReport) (text : String) : Prop :=
  (warningOf report = none ∧ text = "") ∨ ∃ printing, warningOf report = some printing ∧ printing.printed terminal = .ok text

/-- What is printed of the warnings in all begins with what is printed of the first one. -/
theorem Warns.join_cons {report : Path × FileReport} {text : String} (h : Warns terminal report text)
    (rs : List (Path × FileReport)) :
    (((report :: rs).filterMap warningOf).mapM (Printing.printed terminal)).map String.join =
      ((rs.filterMap warningOf).mapM (Printing.printed terminal)).map fun texts => text ++ String.join texts := by
  rcases h with ⟨hnone, rfl⟩ | ⟨printing, hsome, hprinted⟩
  · rw [List.filterMap_cons_none hnone]
    simp only [String.empty_append]
  · rw [List.filterMap_cons_some hsome, List.mapM_cons, hprinted]
    cases (rs.filterMap warningOf).mapM (Printing.printed terminal) with
    | error e => rfl
    | ok texts =>
      show Except.ok (String.join (text :: texts)) = .ok (text ++ String.join texts)
      rw [String.join_cons]

theorem Says.cons {report : Path × FileReport} {rs : List (Path × FileReport)} {before text : String}
    {row : Option (String × Nat)} {outcome : Except Nat (List (Option (String × Nat))) × Progress}
    (hreport : report.2 ≠ .unwritten) (hrow : rowOf report = row) (hwarns : Warns terminal report text)
    (h : Says terminal rs (before ++ text) outcome) : Says terminal (report :: rs) before (withRow row outcome) := by
  have hstopped : isStopped (report :: rs) = isStopped rs := by
    rw [isStopped, List.any_cons, beq_false_of_ne hreport, Bool.false_or, isStopped]
  have htexts := hwarns.join_cons rs
  rw [Says] at h ⊢
  rw [hstopped]
  generalize ((report :: rs).filterMap warningOf).mapM (Printing.printed terminal) = all at htexts ⊢
  cases hrest : (rs.filterMap warningOf).mapM (Printing.printed terminal) with
  | error e =>
    rw [hrest] at h htexts
    cases all with
    | error e' => exact congrArg (Except.map (row :: ·)) h
    | ok texts => cases htexts
  | ok texts =>
    rw [hrest] at h htexts
    cases all with
    | error e' => cases htexts
    | ok all =>
      have hjoin : String.join all = text ++ String.join texts := Except.ok.inj htexts
      obtain ⟨hprinted, hrows⟩ := h
      refine ⟨by rw [withRow, hprinted, String.append_assoc, hjoin], ?_⟩
      split
      · rename_i hstop
        rw [if_pos hstop] at hrows
        exact congrArg (Except.map (row :: ·)) hrows
      · rename_i hstop
        rw [if_neg hstop] at hrows
        obtain ⟨rows, hrows, hgiven⟩ := hrows
        refine ⟨row :: rows, congrArg (Except.map (row :: ·)) hrows, ?_⟩
        rw [List.filterMap_cons, List.filterMap_cons, hrow, hgiven]
        cases row <;> rfl

/-- A warning that cannot be printed ends the scan. -/
theorem Says.of_error {report : Path × FileReport} {rs : List (Path × FileReport)} {before : String} {printing : Printing}
    {e : Console.Unmatched} {outcome : Except Nat (List (Option (String × Nat))) × Progress}
    (hwarning : warningOf report = some printing) (hprinted : printing.printed terminal = .error e)
    (houtcome : outcome.1 = .error failureCode) : Says terminal (report :: rs) before outcome := by
  rw [Says, List.filterMap_cons_some hwarning, List.mapM_cons, hprinted]
  exact houtcome

theorem says_mapM (terminal : Terminal) (settings : Settings) (write : Bool) (files : List Path) (p : Progress) :
    Says terminal (reports settings write p.workspace files) p.printed ((files.mapM (scanFile terminal settings write)).outcome p) := by
  induction files generalizing p with
  | nil => exact ⟨(String.append_empty).symm, [], rfl, rfl⟩
  | cons path rest ih =>
    have hrest : ∀ row p', Step.outcome (rest.mapM (scanFile terminal settings write) >>= fun rows => pure (row :: rows)) p' =
        withRow row ((rest.mapM (scanFile terminal settings write)).outcome p') := fun row p' => by
      rw [Step.outcome_bind]
      rcases (rest.mapM (scanFile terminal settings write)).outcome p' with ⟨_ | rows, p''⟩
      · rfl
      · rfl
    rw [List.mapM_cons, Step.outcome_bind, outcome_scanFile, reports]
    cases hreport : fileReport settings write p.workspace path with
    | unread reason =>
      have hsame := afterFile_of_unread hreport
      dsimp only
      cases hprinted : (Printing.message .warning s!"Cannot read {path.toString}: {reason}").printed terminal with
      | error e =>
        exact .of_error rfl hprinted rfl
      | ok text =>
        dsimp only
        rw [hrest, hsame]
        exact .cons nofun rfl (.inr ⟨_, rfl, hprinted⟩) (ih { p with printed := p.printed ++ text })
    | unchanged =>
      dsimp only
      rw [hrest]
      refine .cons nofun rfl (.inl ⟨rfl, rfl⟩) ?_
      rw [String.append_empty]
      exact ih { p with workspace := afterFile settings write p.workspace path }
    | found count =>
      dsimp only
      rw [hrest]
      refine .cons nofun rfl (.inl ⟨rfl, rfl⟩) ?_
      rw [String.append_empty]
      exact ih { p with workspace := afterFile settings write p.workspace path }
    | unwritten => exact ⟨(String.append_empty).symm, rfl⟩

/-! ## 2. Scans -/

def filesOf (settings : Settings) (paths : List String) (w : Workspace) : List Path :=
  Project.sources w settings (paths.map Path.ofString)

/-- The end of what a scan prints: the table of the files in which something was found, and their number. -/
def closing (write : Bool) (files : Nat) (rows : List (String × Nat)) : List Printing :=
  let total := (rows.map Prod.snd).foldl (· + ·) 0
  let verb := if write then "Rewrote" else "Scanned"
  (if total != 0 then [.table (scanTable rows)] else []) ++
    [.message .success s!"{verb} {files} files, extracted {total} strings"]

def printings (settings : Settings) (paths : List String) (write : Bool) (w : Workspace) : List Printing :=
  let files := filesOf settings paths w
  let rs := reports settings write w files
  if files.isEmpty then [.message .warning "No JSX/TSX sources found"]
  else rs.filterMap warningOf ++ if isStopped rs then [] else closing write files.length (rs.filterMap rowOf)

/-- How a scan ends that can print all it has to: well, unless a source could not be written back. -/
def ending (settings : Settings) (paths : List String) (write : Bool) (w : Workspace) : Except Nat Unit :=
  if isStopped (reports settings write w (filesOf settings paths w)) then .error failureCode else .ok ()

/-- A step prints what it has to, and then it ends so; if something cannot be printed, it fails. -/
def Prints (terminal : Terminal) (ps : List Printing) (before : String) (ending : Except Nat Unit)
    (outcome : Except Nat Unit × Progress) : Prop :=
  match ps.mapM (Printing.printed terminal) with
  | .error _ => outcome.1 = .error failureCode
  | .ok texts => outcome.1 = ending ∧ outcome.2.printed = before ++ String.join texts

theorem prints_append {ps qs : List Printing} {texts : List String} {before : String} {ending : Except Nat Unit}
    {outcome : Except Nat Unit × Progress} (hps : ps.mapM (Printing.printed terminal) = .ok texts)
    (h : Prints terminal qs (before ++ String.join texts) ending outcome) :
    Prints terminal (ps ++ qs) before ending outcome := by
  rw [Prints] at h ⊢
  rw [List.mapM_append, hps]
  cases hqs : qs.mapM (Printing.printed terminal) with
  | error e =>
    rw [hqs] at h
    exact h
  | ok more =>
    rw [hqs] at h
    refine ⟨h.1, ?_⟩
    rw [h.2, String.append_assoc, ← String.join_append]

theorem prints_display_bind {printing : Printing} {ps : List Printing} {ending : Except Nat Unit} {f : Unit → Step Unit}
    (h : ∀ p, Prints terminal ps p.printed ending ((f ()).outcome p)) (p : Progress) :
    Prints terminal (printing :: ps) p.printed ending ((display (printing.printed terminal) >>= f).outcome p) := by
  rw [Step.outcome_bind]
  cases hprinted : printing.printed terminal with
  | error e =>
    rw [Prints, List.mapM_cons, hprinted]
    rfl
  | ok text =>
    refine @prints_append terminal [printing] ps [text] _ _ _ ?_ ?_
    · rw [List.mapM_cons, hprinted]
      rfl
    · rw [String.join_cons, String.join_nil, String.append_empty]
      exact h { p with printed := p.printed ++ text }

theorem prints_display (terminal : Terminal) (printing : Printing) (p : Progress) :
    Prints terminal [printing] p.printed (.ok ()) ((display (printing.printed terminal)).outcome p) := by
  have h := @prints_display_bind terminal printing [] (.ok ()) (fun _ => pure ())
    (fun p => ⟨rfl, (String.append_empty).symm⟩) p
  rwa [bind_pure] at h

/-- What a scan does: it prints all that it has to, unless something cannot be printed. -/
theorem prints_scan (terminal : Terminal) (settings : Settings) (paths : List String) (write : Bool) (p : Progress) :
    Prints terminal (printings settings paths write p.workspace) p.printed (ending settings paths write p.workspace)
      ((scan terminal settings paths write).outcome p) := by
  rw [scan, Step.outcome_bind, outcome_workspace, printings, ending]
  dsimp only
  rw [← filesOf]
  cases hfiles : filesOf settings paths p.workspace with
  | nil => exact prints_display terminal (.message .warning "No JSX/TSX sources found") p
  | cons path rest =>
    have hsays := says_mapM terminal settings write (path :: rest) p
    rw [List.isEmpty_cons, if_neg Bool.false_ne_true, if_neg Bool.false_ne_true, Step.outcome_bind]
    rw [Says] at hsays
    generalize (List.mapM (scanFile terminal settings write) (path :: rest)).outcome p = outcome at hsays ⊢
    obtain ⟨result, p'⟩ := outcome
    cases hwarnings : ((reports settings write p.workspace (path :: rest)).filterMap warningOf).mapM (Printing.printed terminal) with
    | error e =>
      rw [hwarnings] at hsays
      obtain rfl : result = .error failureCode := hsays
      rw [Prints, List.mapM_append, hwarnings]
      rfl
    | ok texts =>
      rw [hwarnings] at hsays
      obtain ⟨hprinted, hresult⟩ := hsays
      refine prints_append hwarnings ?_
      rw [← hprinted]
      split at hresult
      · rename_i hstopped
        rw [if_pos hstopped, if_pos hstopped]
        obtain rfl : result = .error failureCode := hresult
        exact ⟨rfl, (String.append_empty).symm⟩
      · rename_i hstopped
        rw [if_neg hstopped, if_neg hstopped]
        obtain ⟨rows, rfl, hrows⟩ : ∃ rows, result = .ok rows ∧ _ := hresult
        dsimp only
        rw [closing, hrows]
        split
        · exact prints_display_bind (fun p => prints_display terminal (.message .success _) p) p'
        · exact prints_display terminal (.message .success _) p'

/-! ## 3. What is shown as it is -/

/-- A scan finishes its output, and prints every path and every message as it is. -/
structure ShowsAll (terminal : Terminal) (settings : Settings) (paths : List String) (write : Bool) (p : Progress) :
    Prop where
  finishes : ((scan terminal settings paths write).outcome p).1 = ending settings paths write p.workspace
  prints : ∃ texts, (printings settings paths write p.workspace).mapM (Printing.printed terminal) = .ok texts ∧
    ((scan terminal settings paths write).outcome p).2.printed = p.printed ++ String.join texts
  verbatim : ∀ printing ∈ printings settings paths write p.workspace, printing.IsVerbatim terminal

/-- All that a scan prints are messages, and the table of scanned files. -/
theorem printing_cases {settings : Settings} {paths : List String} {write : Bool} {w : Workspace} {printing : Printing}
    (h : printing ∈ printings settings paths write w) :
    (∃ kind text, printing = .message kind text) ∨ ∃ rows, printing = .table (scanTable rows) := by
  rw [printings] at h
  split at h
  · exact .inl ⟨_, _, List.mem_singleton.mp h⟩
  · rcases List.mem_append.mp h with h | h
    · obtain ⟨⟨path, report⟩, -, hwarning⟩ := List.mem_filterMap.mp h
      cases report with
      | unread reason => exact .inl ⟨_, _, (Option.some.inj hwarning).symm⟩
      | _ => cases hwarning
    · split at h
      · cases h
      · rw [closing] at h
        rcases List.mem_append.mp h with h | h
        · split at h
          · exact .inr ⟨_, List.mem_singleton.mp h⟩
          · cases h
        · exact .inl ⟨_, _, List.mem_singleton.mp h⟩

theorem exists_mapM_eq_ok {α β ε : Type} {f : α → Except ε β} {xs : List α} (h : ∀ x ∈ xs, ∃ y, f x = .ok y) :
    ∃ ys, xs.mapM f = .ok ys := by
  induction xs with
  | nil => exact ⟨[], rfl⟩
  | cons x xs ih =>
    obtain ⟨⟨y, hy⟩, hxs⟩ := List.forall_mem_cons.mp h
    obtain ⟨ys, hys⟩ := ih hxs
    exact ⟨y :: ys, by rw [List.mapM_cons, hy, hys]; rfl⟩

theorem isVerbatim_scanTable_iff (hterminal : terminal.AddsNothing) (rows : List (String × Nat)) :
    (Printing.table (scanTable rows)).IsVerbatim terminal ↔
      (∀ text ∈ (Printing.table (scanTable rows)).given, Console.Markup.IsPlain text.toList) ∧
        (Printing.table (scanTable rows)).FitsOn terminal := by
  have hplain : ∀ text ∈ ["File", "Strings", "Scanned sources"], Console.Markup.IsPlain text.toList := fun text htext =>
    Console.Markup.isPlain_of_specials_eq_zero (by revert text; decide)
  have hheadings : ∀ heading ∈ (scanTable rows).headings, Console.Markup.IsPlain heading.toList := fun heading h =>
    hplain heading (List.mem_append_left ["Scanned sources"] h)
  rw [Printing.isVerbatim_table_iff hterminal hheadings, Printing.given, List.forall_mem_flatten]
  rintro _ ⟨⟩
  exact ⟨_, (Console.Markup.shown_eq_ok_iff _).mpr (hplain _ (by decide))⟩

/-- What a scan prints is printed as it was given just if it is plain and fits. -/
theorem isVerbatim_iff (hterminal : terminal.AddsNothing) {settings : Settings} {paths : List String} {write : Bool}
    {w : Workspace} {printing : Printing} (h : printing ∈ printings settings paths write w) :
    printing.IsVerbatim terminal ↔
      (∀ text ∈ printing.given, Console.Markup.IsPlain text.toList) ∧ printing.FitsOn terminal := by
  rcases printing_cases h with ⟨kind, text, rfl⟩ | ⟨rows, rfl⟩
  · rw [Printing.isVerbatim_message_iff, Printing.given, List.forall_mem_singleton]
  · exact isVerbatim_scanTable_iff hterminal rows

/-- A message of any kind is printed as it is just if it is plain and fits; and a scan finishes and prints all paths and
messages as they are just if all of them are plain and fit. Whether a text is plain does not depend on the terminal. -/
theorem showsAll_iff (hterminal : terminal.AddsNothing) (kind : Console.MessageKind) (text : String)
    (settings : Settings) (paths : List String) (write : Bool) (p : Progress) :
    ((Printing.message kind text).IsVerbatim terminal ↔
      Console.Markup.IsPlain text.toList ∧ (Printing.message kind text).FitsOn terminal) ∧
    (ShowsAll terminal settings paths write p ↔
      ∀ printing ∈ printings settings paths write p.workspace,
        (∀ text ∈ printing.given, Console.Markup.IsPlain text.toList) ∧ printing.FitsOn terminal) := by
  refine ⟨Printing.isVerbatim_message_iff terminal kind text, ?_⟩
  constructor
  · exact fun h printing hprinting => (isVerbatim_iff hterminal hprinting).mp (h.verbatim printing hprinting)
  · intro h
    have hverbatim := fun printing hprinting => (isVerbatim_iff hterminal hprinting).mpr (h printing hprinting)
    obtain ⟨texts, htexts⟩ := exists_mapM_eq_ok fun printing hprinting =>
      Printing.exists_printed (hverbatim printing hprinting)
    have hprints := prints_scan terminal settings paths write p
    rw [Prints, htexts] at hprints
    exact ⟨hprints.1, ⟨texts, htexts, hprints.2⟩, hverbatim⟩

/-! A source in a directory whose name stands in brackets, scanned on a terminal of eighty cells. -/

namespace Bracketed

def directory : Workspace where
  disk :=
    [(["app"], .directory), (["app", "[id]"], .directory),
      (["app", "[id]", "a.jsx"], .file (CatalogStore.bytesOf "import \x7b t \x7d from 'x';\n<p>Hi</p>"))]
  directory := ⟨"/", ["app"]⟩
  events := []

def screen : Terminal := .ofWidth false 80

theorem printings_eq : printings Settings.standard ["."] false directory =
    [.table (scanTable [("/app/[id]/a.jsx", 1)]), .message .success "Scanned 1 files, extracted 1 strings"] := by
  decide +kernel

/-- All that the scan prints would fit. -/
theorem fitsOn_screen : ∀ printing ∈ printings Settings.standard ["."] false directory, printing.FitsOn screen := by
  rw [printings_eq]
  intro printing hprinting
  rcases List.mem_pair.mp hprinting with rfl | rfl
  · exact Printing.fitsOn_table (by decide +kernel) (by decide +kernel)
  · exact Printing.fitsOn_message (by decide +kernel) (by decide)

end Bracketed

open Bracketed in
/-- Everything fits, but the name of the directory is taken for a tag. -/
theorem not_showsAll_of_brackets :
    (∀ printing ∈ printings Settings.standard ["."] false directory, printing.FitsOn screen) ∧
      ¬ ShowsAll screen Settings.standard ["."] false ⟨"", directory⟩ := by
  refine ⟨fitsOn_screen, fun h => ?_⟩
  have hterminal : screen.AddsNothing := Terminal.addsNothing_ofWidth false 80
  have hplain := (showsAll_iff hterminal .success "" Settings.standard ["."] false ⟨"", directory⟩).2.mp h
    (.table (scanTable [("/app/[id]/a.jsx", 1)])) (by rw [printings_eq]; exact List.mem_cons_self)
  have htag : Console.Markup.tagAt? "[id]/a.jsx".toList ≠ none := by decide
  exact htag ((hplain.1 "/app/[id]/a.jsx" (by decide)).tagless _ (by decide))

end Command
end Phrasebook
