import Phrasebook.Console.Wrap

/-!
# Terminals

What is printed on. A message that is wider than a terminal goes on on the next line. A table that is wider gets narrower
columns, and its cells are shortened; how this is done is left to the terminal.
-/

namespace Phrasebook

structure Terminal where
  colored : Bool
  /-- The cells of a line. -/
  width : Nat
  /-- The width of a column, by its number, in a table that is too wide. The widths that the columns need are given. -/
  narrowed : List Nat → Nat → Nat
  /-- The lines of a cell that is wider than its column. -/
  shortened : Nat → Console.Alignment → List Char → List (List Char)

namespace Terminal

/-- What is too much for some width goes, and a mark comes in its place. -/
def shortenedLine (width : Nat) (line : List Char) : List Char :=
  if Text.cells line ≤ width then line else Console.cut (width - 1) line ++ ['…']

/-- A terminal where the widest column of a table gives way to the others. -/
def ofWidth (colored : Bool) (width : Nat) : Terminal where
  colored
  width
  narrowed needed n :=
    let total := (needed.map (· + 3)).foldl (· + ·) 1
    let own := needed[n]?.getD 0
    if needed.findIdx (needed.all fun other => other ≤ ·) == n then own - (total - width) else own
  shortened width _ cell := (Text.splitOn '\n' cell).map (shortenedLine width)

end Terminal
end Phrasebook
