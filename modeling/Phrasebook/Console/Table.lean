import Phrasebook.Console.Markup
import Phrasebook.Console.Terminal

/-!
# Tables

A table has a title, a heading for each column and rows of cells. Columns are as wide as their widest cell if the terminal
is wide enough; those of numbers stand to the right.
-/

namespace Phrasebook.Console

/-- A table: headings and cells may hold markup. -/
structure Table where
  title : Option String
  headings : List String
  rows : List (List String)
  deriving DecidableEq, Repr

/-- A column as it is shown. -/
structure Column where
  heading : List Char
  cells : List (List Char)
  alignment : Alignment
  /-- The cells within its lines. -/
  width : Nat
  deriving Repr

namespace Column

/-- A column that is as wide as its widest cell. -/
def ofCells (heading : List Char) (cells : List (List Char)) (alignment : Alignment) : Column :=
  ⟨heading, cells, alignment, ((heading :: cells).map widest).foldl max 0⟩

def lines (terminal : Terminal) (c : Column) (cell : List Char) : List (List Char) :=
  (if widest cell ≤ c.width then wrap c.width c.alignment cell
    else terminal.shortened c.width c.alignment cell).map (aligned c.width .left)

/-- A cell with a blank on both sides, on as many lines as asked for. -/
def block (terminal : Terminal) (c : Column) (height : Nat) (cell : List Char) : List (List Char) :=
  let lines := c.lines terminal cell
  (lines ++ List.replicate (height - lines.length) (blanks c.width)).map fun l => ' ' :: l ++ [' ']

end Column

namespace Table

def numberHeadings : List String := ["strings", "total", "translated", "pending", "coverage"]

def alignmentOf (heading : String) : Alignment :=
  if numberHeadings.contains (Text.lowerString heading) then .right else .left

/-- The number of columns: a row may have more cells than there are headings. -/
def columnCount (t : Table) : Nat := (t.headings.length :: t.rows.map List.length).foldl max 0

/-- What is shown of a text that may be missing. -/
def shownText (text : Option String) : Except Unmatched (List Char) := Markup.shown (text.getD "").toList

/-- The columns of a table; there must be no closing tag that fits none. -/
def columns (t : Table) : Except Unmatched (List Column) :=
  (List.range t.columnCount).mapM fun n => do
    let heading ← shownText t.headings[n]?
    let cells ← t.rows.mapM fun row => shownText row[n]?
    return .ofCells heading cells (alignmentOf (t.headings[n]?.getD ""))

def width (columns : List Column) : Nat := (columns.map fun c => c.width + 3).foldl (· + ·) 1

/-- The columns of a table on a terminal. -/
def fitted (terminal : Terminal) (columns : List Column) : List Column :=
  if width columns ≤ terminal.width then columns
  else columns.mapIdx fun n c => { c with width := terminal.narrowed (columns.map (·.width)) n }

/-- A rule across a table: its left end, its line, its crossings and its right end. -/
def rule (left line crossing right : Char) (columns : List Column) : List Char :=
  left :: [crossing].intercalate (columns.map fun c => List.replicate (c.width + 2) line) ++ [right]

/-- The lines of a row, with bars between the cells. -/
def rowLines (terminal : Terminal) (bar : Char) (row : List (Column × List Char)) : List (List Char) :=
  let height := (row.map fun p => (p.1.lines terminal p.2).length).foldl max 1
  let blocks := row.map fun p => p.1.block terminal height p.2
  (List.range height).map fun n =>
    bar :: [bar].intercalate (blocks.map fun b => b[n]?.getD []) ++ [bar]

def rowOf (columns : List Column) (n : Nat) : List (Column × List Char) :=
  columns.map fun c => (c, c.cells[n]?.getD [])

/-- The lines of a table under its title. -/
def bodyLines (terminal : Terminal) (columns : List Column) (rowCount : Nat) : List (List Char) :=
  rule '┏' '━' '┳' '┓' columns ::
    rowLines terminal '┃' (columns.map fun c => (c, c.heading)) ++
    rule '┡' '━' '╇' '┩' columns ::
    (List.range rowCount).flatMap (fun n => rowLines terminal '│' (rowOf columns n)) ++
    [rule '└' '─' '┴' '┘' columns]

/-- The lines of the title, in the middle above the table. -/
def titleLines (t : Table) (columns : List Column) : Except Unmatched (List (List Char)) :=
  match t.title with
  | none => .ok []
  | some title =>
    if title.isEmpty then .ok []
    else (Markup.shown title.toList).map (wrap (width columns) .center)

/-- A table as it is printed; one without columns is a blank line. -/
def text (terminal : Terminal) (t : Table) : Except Unmatched String := do
  let columns := fitted terminal (← t.columns)
  if columns.isEmpty then return "\n"
  let lines := (← t.titleLines columns) ++ bodyLines terminal columns t.rows.length
  return String.ofList (lines.flatMap fun line => line ++ ['\n'])

end Table
end Phrasebook.Console
