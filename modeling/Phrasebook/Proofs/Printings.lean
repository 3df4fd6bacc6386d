import Phrasebook.Console.Message
import Phrasebook.Proofs.Layouts

/-!
# What is printed of messages and tables

Messages and cells of tables are given as texts, which are taken for markup, and what is shown of them is laid out on lines
of the terminal. So a text may be lost in two ways: it is not plain, or it does not fit on a line. A text that is plain and
fits is printed as it was given.

Results:
1. `Printing.isVerbatim_message_iff` and `Printing.isVerbatim_table_iff`: which texts are printed as they were given.
2. `Printing.fitsOn_message` and `Printing.fitsOn_table`: which texts fit.
-/

namespace Phrasebook.Console

theorem isSpecial_sign (kind : MessageKind) : Markup.isSpecial kind.sign = false := by cases kind <;> decide

theorem isPlain_message_iff (kind : MessageKind) (cs : List Char) :
    Markup.IsPlain (kind.sign :: ' ' :: cs) ↔ Markup.IsPlain cs := by
  rw [Markup.isPlain_cons_iff (isSpecial_sign kind), Markup.isPlain_cons_iff (by decide)]

/-- Something that is printed. -/
inductive Printing where
  | message (kind : MessageKind) (text : String)
  | table (t : Table)
  deriving DecidableEq

namespace Printing

def printed (terminal : Terminal) : Printing → Except Unmatched String
  | message kind text => messageText terminal kind text
  | table t => t.text terminal

/-- The texts that are given to be printed: a message, or the cells of a table. -/
def given : Printing → List String
  | message _ text => [text]
  | table t => t.rows.flatten

/-- What is printed contains every text as it was given: a message anywhere, the text of a cell on a line of this cell. -/
def IsVerbatim (terminal : Terminal) : Printing → Prop
  | message kind text => ∃ out, messageText terminal kind text = .ok out ∧ text.toList <:+: out.toList
  | table t =>
    ∃ columns out, t.columns = .ok columns ∧ t.text terminal = .ok out ∧
      ∀ (k n : Nat) (row : List String) (cell : String), t.rows[k]? = some row → row[n]? = some cell →
        ∃ (column : Column) (shown line : List Char), (Table.fitted terminal columns)[n]? = some column ∧
          column.cells[k]? = some shown ∧ line ∈ column.lines terminal shown ∧ line <:+: out.toList ∧
            cell.toList <:+: line

/-- A column of a table, if its texts were shown as they are given. -/
def givenColumn (t : Table) (n : Nat) : Column :=
  .ofCells (t.headings[n]?.getD "").toList (t.rows.map fun row => (row[n]?.getD "").toList)
    (Table.alignmentOf (t.headings[n]?.getD ""))

def givenColumns (t : Table) : List Column := (List.range t.columnCount).map (givenColumn t)

/-- If every text was shown as it is given, the terminal would leave it in one piece. -/
def FitsOn (terminal : Terminal) : Printing → Prop
  | message kind text => text.toList <:+: laidOut terminal (kind.sign :: ' ' :: text.toList)
  | table t =>
    ∀ (n : Nat) (column : Column), (Table.fitted terminal (givenColumns t))[n]? = some column →
      ∀ row ∈ t.rows, ∀ cell : String, row[n]? = some cell →
        ∃ line ∈ column.lines terminal cell.toList, cell.toList <:+: line

/-! ## 1. Messages -/

theorem specials_laidOut_le (terminal : Terminal) (shown : List Char) :
    Markup.specials (laidOut terminal shown) ≤ Markup.specials shown := by
  refine Nat.le_trans ?_ (specials_wrap_le terminal.width .none shown)
  rw [laidOut]
  generalize wrap terminal.width .none shown = lines
  induction lines with
  | nil => exact Nat.le_refl 0
  | cons line lines ih =>
    have hend : Markup.specials ['\n'] = 0 := by decide
    rw [List.flatMap_cons, List.flatten_cons, Markup.specials_append, Markup.specials_append, Markup.specials_append, hend]
    omega

/-- A message is printed as it was given just if it is plain and fits. -/
theorem isVerbatim_message_iff (terminal : Terminal) (kind : MessageKind) (text : String) :
    (message kind text).IsVerbatim terminal ↔ Markup.IsPlain text.toList ∧ (message kind text).FitsOn terminal := by
  have hsign : Markup.specials [kind.sign, ' '] = 0 := by cases kind <;> decide
  constructor
  · rintro ⟨out, hout, hinfix⟩
    rw [messageText] at hout
    cases hshown : Markup.shown (kind.sign :: ' ' :: text.toList) with
    | error e =>
      rw [hshown] at hout
      cases hout
    | ok shown =>
      rw [hshown] at hout
      obtain rfl := Except.ok.inj hout
      rw [String.toList_ofList] at hinfix
      obtain ⟨rfl, hplain⟩ := Markup.isPlain_of_infix hsign hshown (specials_laidOut_le terminal shown) hinfix
      exact ⟨(isPlain_message_iff kind _).mp hplain, hinfix⟩
  · rintro ⟨hplain, hfits⟩
    refine ⟨String.ofList (laidOut terminal (kind.sign :: ' ' :: text.toList)), ?_, ?_⟩
    · rw [messageText, (Markup.shown_eq_ok_iff _).mpr ((isPlain_message_iff kind _).mpr hplain)]
      rfl
    · rw [String.toList_ofList]
      exact hfits

/-- A message of characters that take one cell each fits if it is not longer than a line. -/
theorem fitsOn_message {terminal : Terminal} {kind : MessageKind} {text : String} (hnarrow : IsNarrow text.toList)
    (hfits : text.toList.length + 2 ≤ terminal.width) : (message kind text).FitsOn terminal := by
  have hsign : IsNarrow [kind.sign, ' '] := by cases kind <;> decide +kernel
  have hline : IsNarrow (kind.sign :: ' ' :: text.toList) := hsign.append hnarrow
  have hlength : (kind.sign :: ' ' :: text.toList).length ≤ terminal.width := hfits
  have hcells := cells_of_narrow hline
  rw [FitsOn, laidOut, wrap_of_narrow hline hlength, aligned, truncated, if_neg (by omega), List.flatMap_singleton]
  exact List.infix_append [kind.sign, ' '] text.toList ['\n']

/-! ## 2. Tables -/

theorem map_eq_of_mapM_eq_ok {α β ε : Type} {f : α → Except ε β} {xs : List α} {ys : List β}
    (h : xs.mapM f = .ok ys) : xs.map f = ys.map .ok := by
  induction xs generalizing ys with
  | nil =>
    obtain rfl := Except.ok.inj h
    rfl
  | cons x xs ih =>
    rw [List.mapM_cons] at h
    cases hx : f x with
    | error e =>
      rw [hx] at h
      cases h
    | ok y =>
      cases hxs : xs.mapM f with
      | error e =>
        rw [hx, hxs] at h
        cases h
      | ok zs =>
        rw [hx, hxs] at h
        obtain rfl := Except.ok.inj h
        rw [List.map_cons, List.map_cons, hx, ih hxs]

theorem mapM_eq_ok {α β ε : Type} {f : α → Except ε β} {g : α → β} {xs : List α} (h : ∀ x ∈ xs, f x = .ok (g x)) :
    xs.mapM f = .ok (xs.map g) := by
  induction xs with
  | nil => rfl
  | cons x xs ih =>
    obtain ⟨hx, hxs⟩ := List.forall_mem_cons.mp h
    rw [List.mapM_cons, hx, ih hxs]
    rfl

theorem le_foldl_max (start n : Nat) (ns : List Nat) (h : n ≤ start ∨ n ∈ ns) : n ≤ ns.foldl max start := by
  induction ns generalizing start with
  | nil => exact h.resolve_right List.not_mem_nil
  | cons m ns ih =>
    refine ih _ ?_
    rcases h with h | h
    · exact .inl (by omega)
    · rcases List.mem_cons.mp h with rfl | h
      · exact .inl (by omega)
      · exact .inr h

variable {t : Table} {terminal : Terminal}

theorem shownText_of_isPlain {text : Option String} (h : ∀ given, text = some given → Markup.IsPlain given.toList) :
    Table.shownText text = .ok (text.getD "").toList := by
  rw [Table.shownText, Markup.shown_eq_ok_iff]
  cases text with
  | none => exact Markup.isPlain_nil
  | some given => exact h given rfl

/-- The columns of a plain table are those of its texts. -/
theorem columns_of_isPlain (hheadings : ∀ heading ∈ t.headings, Markup.IsPlain heading.toList)
    (hcells : ∀ row ∈ t.rows, ∀ cell ∈ row, Markup.IsPlain cell.toList) : t.columns = .ok (givenColumns t) := by
  refine mapM_eq_ok fun n _ => ?_
  have hheading : Table.shownText t.headings[n]? = .ok (t.headings[n]?.getD "").toList :=
    shownText_of_isPlain fun heading h => hheadings heading (List.mem_of_getElem? h)
  have hmap : (t.rows.mapM fun row => Table.shownText row[n]?) =
      .ok (t.rows.map fun row => (row[n]?.getD "").toList) :=
    mapM_eq_ok fun row hrow => shownText_of_isPlain fun cell h => hcells row hrow cell (List.mem_of_getElem? h)
  rw [hheading, hmap]
  rfl

/-- What a column shows of the cells of a table. -/
theorem shownText_of_getElem? {columns : List Column} (h : t.columns = .ok columns) {n : Nat} {column : Column}
    (hcolumn : columns[n]? = some column) :
    (t.rows.map fun row => Table.shownText row[n]?) = column.cells.map .ok := by
  have hmap := congrArg (·[n]?) (map_eq_of_mapM_eq_ok h)
  simp only [List.getElem?_map, hcolumn, Option.map_some, Option.map_eq_some_iff] at hmap
  obtain ⟨m, hm, hok⟩ := hmap
  obtain ⟨hlt, rfl⟩ := List.getElem?_eq_some_iff.mp hm
  rw [List.getElem_range] at hok
  cases hheading : Table.shownText t.headings[n]? with
  | error e =>
    rw [hheading] at hok
    cases hok
  | ok heading =>
    cases hcells : t.rows.mapM fun row => Table.shownText row[n]? with
    | error e =>
      rw [hheading, hcells] at hok
      cases hok
    | ok cells =>
      rw [hheading, hcells] at hok
      obtain rfl := Except.ok.inj hok
      exact map_eq_of_mapM_eq_ok hcells

/-- A table whose columns and title can be shown can be printed. -/
theorem exists_printed_table {columns : List Column} (h : t.columns = .ok columns)
    (htitle : ∀ title, t.title = some title → ∃ out, Markup.shown title.toList = .ok out) (terminal : Terminal) :
    ∃ text, t.text terminal = .ok text := by
  have hlines : ∃ lines, t.titleLines (Table.fitted terminal columns) = .ok lines := by
    rw [Table.titleLines]
    cases hsome : t.title with
    | none => exact ⟨_, rfl⟩
    | some title =>
      obtain ⟨out, hout⟩ := htitle title hsome
      dsimp only
      split
      · exact ⟨_, rfl⟩
      · rw [hout]
        exact ⟨_, rfl⟩
  obtain ⟨lines, hlines⟩ := hlines
  rw [Table.text, h]
  show ∃ text, (if (Table.fitted terminal columns).isEmpty then _ else _) = _
  split
  · exact ⟨_, rfl⟩
  · rw [hlines]
    exact ⟨_, rfl⟩

/-- The columns of a table show the same on every terminal. -/
theorem getElem?_fitted (terminal : Terminal) (columns : List Column) (n : Nat) :
    ((Table.fitted terminal columns)[n]?).map Column.cells = (columns[n]?).map Column.cells := by
  rw [Table.fitted]
  split
  · rfl
  · rw [List.getElem?_mapIdx, Option.map_map]
    rfl

theorem infix_intercalate {x separator : List Char} {xs : List (List Char)} (h : x ∈ xs) :
    x <:+: separator.intercalate xs := by
  induction xs with
  | nil => cases h
  | cons y ys ih =>
    cases ys with
    | nil =>
      obtain rfl := List.mem_singleton.mp h
      simp
    | cons z zs =>
      have hcons : separator.intercalate (y :: z :: zs) = y ++ separator ++ separator.intercalate (z :: zs) := by
        simp [List.intercalate]
      rw [hcons]
      rcases List.mem_cons.mp h with rfl | h
      · exact ⟨[], separator ++ separator.intercalate (z :: zs), by simp⟩
      · exact (ih h).trans (List.suffix_append _ _).isInfix

/-- The lines of a cell are on the lines of its row. -/
theorem exists_mem_rowLines (terminal : Terminal) (bar : Char) {row : List (Column × List Char)} {cell : Column × List Char}
    (hcell : cell ∈ row) {line : List Char} (hline : line ∈ cell.1.lines terminal cell.2) :
    ∃ l ∈ Table.rowLines terminal bar row, line <:+: l := by
  obtain ⟨i, hi, rfl⟩ := List.getElem_of_mem hline
  have hheight : i < (row.map fun p => (p.1.lines terminal p.2).length).foldl max 1 :=
    Nat.lt_of_lt_of_le hi (le_foldl_max 1 _ _ (.inr (List.mem_map.mpr ⟨cell, hcell, rfl⟩)))
  rw [Table.rowLines]
  refine ⟨_, List.mem_map.mpr ⟨i, List.mem_range.mpr hheight, rfl⟩, ?_⟩
  generalize (row.map fun p => (p.1.lines terminal p.2).length).foldl max 1 = height
  have hblock : (cell.1.block terminal height cell.2)[i]?.getD [] = ' ' :: (cell.1.lines terminal cell.2)[i] ++ [' '] := by
    rw [Column.block, List.getElem?_map, List.getElem?_append_left hi, List.getElem?_eq_getElem hi]
    rfl
  have hmem : ' ' :: (cell.1.lines terminal cell.2)[i] ++ [' '] ∈
      (row.map fun p => p.1.block terminal height p.2).map fun b => b[i]?.getD [] := by
    rw [← hblock]
    exact List.mem_map_of_mem (List.mem_map.mpr ⟨cell, hcell, rfl⟩)
  have hinner : (cell.1.lines terminal cell.2)[i] <:+: ' ' :: (cell.1.lines terminal cell.2)[i] ++ [' '] :=
    List.infix_append [' '] _ [' ']
  exact hinner.trans ((infix_intercalate hmem).trans (List.infix_append [bar] _ [bar]))

/-- So they are in what is printed of the table. -/
theorem infix_text {columns : List Column} {out : String} (hcolumns : t.columns = .ok columns)
    (hout : t.text terminal = .ok out) {k n : Nat} {column : Column} {shown line : List Char}
    (hcolumn : (Table.fitted terminal columns)[n]? = some column) (hk : k < t.rows.length)
    (hshown : column.cells[k]? = some shown) (hline : line ∈ column.lines terminal shown) : line <:+: out.toList := by
  have hmem := List.mem_of_getElem? hcolumn
  have hcell : (column, shown) ∈ Table.rowOf (Table.fitted terminal columns) k :=
    List.mem_map.mpr ⟨column, hmem, by rw [hshown]; rfl⟩
  obtain ⟨l, hl, hinfix⟩ := exists_mem_rowLines terminal '│' hcell hline
  have hbody : l ∈ Table.bodyLines terminal (Table.fitted terminal columns) t.rows.length := by
    rw [Table.bodyLines]
    refine List.mem_append_left _ (List.mem_append_right _ (List.mem_cons_of_mem _ ?_))
    exact List.mem_flatMap.mpr ⟨k, List.mem_range.mpr hk, hl⟩
  rw [Table.text, hcolumns] at hout
  dsimp only [bind, Except.bind] at hout
  rw [if_neg (by simpa using List.ne_nil_of_mem hmem)] at hout
  cases htitle : t.titleLines (Table.fitted terminal columns) with
  | error e =>
    rw [htitle] at hout
    cases hout
  | ok title =>
    rw [htitle] at hout
    obtain rfl := Except.ok.inj hout
    rw [String.toList_ofList, List.flatMap_def]
    refine hinfix.trans ((List.prefix_append l ['\n']).isInfix.trans (List.infix_of_mem_flatten ?_))
    exact List.mem_map_of_mem (List.mem_append_right _ hbody)

/-- A cell whose text is on one of its lines is plain, and is shown as it was given. -/
theorem isPlain_of_infix_line (hterminal : terminal.AddsNothing) {columns : List Column} (hcolumns : t.columns = .ok columns)
    {k n : Nat} {row : List String} {cell : String} {column : Column} {shown line : List Char} (hk : t.rows[k]? = some row)
    (hn : row[n]? = some cell) (hcolumn : (Table.fitted terminal columns)[n]? = some column)
    (hshown : column.cells[k]? = some shown) (hline : line ∈ column.lines terminal shown) (hinner : cell.toList <:+: line) :
    shown = cell.toList ∧ Markup.IsPlain cell.toList := by
  have hfitted := getElem?_fitted terminal columns n
  rw [hcolumn, Option.map_some, eq_comm, Option.map_eq_some_iff] at hfitted
  obtain ⟨column₀, hcolumn₀, hsame⟩ := hfitted
  have hmap := congrArg (·[k]?) (shownText_of_getElem? hcolumns hcolumn₀)
  simp only [List.getElem?_map, hk, hsame, hshown, Option.map_some, Option.some.injEq, hn, Table.shownText,
    Option.getD_some] at hmap
  exact @Markup.isPlain_of_infix [] _ _ line rfl hmap (specials_lines_le hterminal column shown line hline) hinner

/-- If every text was shown as it is given, a cell would be in the column of its place. -/
theorem exists_givenColumn (terminal : Terminal) {k n : Nat} {row : List String} {cell : String} (hk : t.rows[k]? = some row)
    (hn : row[n]? = some cell) :
    ∃ column, (Table.fitted terminal (givenColumns t))[n]? = some column ∧ column.cells[k]? = some cell.toList := by
  have hlt : n < t.columnCount := by
    refine Nat.lt_of_lt_of_le (List.getElem?_eq_some_iff.mp hn).1 (le_foldl_max 0 row.length _ (.inr ?_))
    exact List.mem_cons_of_mem _ (List.mem_map_of_mem (List.mem_of_getElem? hk))
  have hcolumn : (givenColumns t)[n]? = some (givenColumn t n) := by
    rw [givenColumns, List.getElem?_map, List.getElem?_range hlt, Option.map_some]
  have hfitted := getElem?_fitted terminal (givenColumns t) n
  rw [hcolumn, Option.map_some, Option.map_eq_some_iff] at hfitted
  obtain ⟨column, hcolumn, hsame⟩ := hfitted
  refine ⟨column, hcolumn, ?_⟩
  rw [hsame, givenColumn, Column.ofCells, List.getElem?_map, hk, Option.map_some, hn, Option.getD_some]

/-- The cells of a table are printed as they were given just if all are plain and fit. -/
theorem isVerbatim_table_iff (hterminal : terminal.AddsNothing)
    (hheadings : ∀ heading ∈ t.headings, Markup.IsPlain heading.toList)
    (htitle : ∀ title, t.title = some title → ∃ out, Markup.shown title.toList = .ok out) :
    (table t).IsVerbatim terminal ↔
      (∀ row ∈ t.rows, ∀ cell ∈ row, Markup.IsPlain cell.toList) ∧ (table t).FitsOn terminal := by
  constructor
  · rintro ⟨columns, out, hcolumns, -, hcells⟩
    -- what is shown of a cell is the cell
    have hsame (k n : Nat) (row : List String) (cell : String) (hk : t.rows[k]? = some row) (hn : row[n]? = some cell) :
        Markup.IsPlain cell.toList ∧ ∃ column line, (Table.fitted terminal columns)[n]? = some column ∧
          line ∈ column.lines terminal cell.toList ∧ cell.toList <:+: line := by
      obtain ⟨column, shown, line, hcolumn, hshown, hline, -, hinfix⟩ := hcells k n row cell hk hn
      obtain ⟨rfl, hplain⟩ := isPlain_of_infix_line hterminal hcolumns hk hn hcolumn hshown hline hinfix
      exact ⟨hplain, column, line, hcolumn, hline, hinfix⟩
    have hplain : ∀ row ∈ t.rows, ∀ cell ∈ row, Markup.IsPlain cell.toList := by
      intro row hrow cell hcell
      obtain ⟨k, hk⟩ := List.mem_iff_getElem?.mp hrow
      obtain ⟨n, hn⟩ := List.mem_iff_getElem?.mp hcell
      exact (hsame k n row cell hk hn).1
    obtain rfl := Except.ok.inj (hcolumns.symm.trans (columns_of_isPlain hheadings hplain))
    refine ⟨hplain, fun n column hcolumn row hrow cell hn => ?_⟩
    obtain ⟨k, hk⟩ := List.mem_iff_getElem?.mp hrow
    obtain ⟨-, column', line, hcolumn', hline, hinfix⟩ := hsame k n row cell hk hn
    obtain rfl := Option.some.inj (hcolumn.symm.trans hcolumn')
    exact ⟨line, hline, hinfix⟩
  · rintro ⟨hplain, hfits⟩
    have hcolumns := columns_of_isPlain hheadings hplain
    obtain ⟨out, hout⟩ := exists_printed_table hcolumns htitle terminal
    refine ⟨_, out, hcolumns, hout, fun k n row cell hk hn => ?_⟩
    obtain ⟨column, hcolumn, hcell⟩ := exists_givenColumn terminal hk hn
    obtain ⟨line, hline, hinfix⟩ := hfits n column hcolumn row (List.mem_of_getElem? hk) cell hn
    have hk' := (List.getElem?_eq_some_iff.mp hk).1
    exact ⟨column, _, line, hcolumn, hcell, hline, infix_text hcolumns hout hcolumn hk' hcell hline, hinfix⟩

/-- A table fits whose columns do, if its characters take one cell each and no cell ends in a blank. -/
theorem fitsOn_table (hcells : ∀ row ∈ t.rows, ∀ cell ∈ row, IsNarrow cell.toList ∧ Text.trimEnd cell.toList = cell.toList)
    (hwidth : Table.width (givenColumns t) ≤ terminal.width) : (table t).FitsOn terminal := by
  intro n column hcolumn row hrow cell hn
  rw [Table.fitted, if_pos hwidth, givenColumns, List.getElem?_map, Option.map_eq_some_iff] at hcolumn
  obtain ⟨m, hm, rfl⟩ := hcolumn
  obtain ⟨hlt, rfl⟩ := List.getElem?_eq_some_iff.mp hm
  rw [List.getElem_range]
  obtain ⟨hnarrow, hend⟩ := hcells row hrow cell (List.mem_of_getElem? hn)
  refine exists_line_of_narrow terminal hnarrow ?_ (.inr hend)
  rw [← widest_of_narrow hnarrow]
  refine le_foldl_max 0 _ _ (.inr (List.mem_map_of_mem (List.mem_cons_of_mem _ ?_)))
  exact List.mem_map.mpr ⟨row, hrow, by rw [hn, Option.getD_some]⟩

theorem exists_printed {terminal : Terminal} {printing : Printing} (h : printing.IsVerbatim terminal) :
    ∃ out, printing.printed terminal = .ok out := by
  cases printing with
  | message kind text =>
    obtain ⟨out, hout, -⟩ := h
    exact ⟨out, hout⟩
  | table t =>
    obtain ⟨-, out, -, hout, -⟩ := h
    exact ⟨out, hout⟩

end Printing
end Phrasebook.Console
