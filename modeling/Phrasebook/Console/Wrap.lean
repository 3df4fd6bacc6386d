import Phrasebook.Text.Blank
import Phrasebook.Text.Cells
import Phrasebook.Text.Lines

/-!
# Lines that fit

A text is laid out on lines of a given width in cells. A line that is too long is broken before a word; a word that is
wider than a line is broken itself. Tabs become blanks.
-/

namespace Phrasebook.Console

open Text (cells cellsOf isBlank)

/-- Where the text of a line stands. -/
inductive Alignment where
  /-- As it is, without blanks after it. -/
  | none
  | left
  | center
  | right
  deriving DecidableEq, Repr, Inhabited

def blanks (n : Nat) : List Char := List.replicate n ' '

def tabSize : Nat := 8

/-- Parts of a line that end at tabs, put together with blanks up to the next tab stop; some cells come before. -/
def joinTabs (position : Nat) : List (List Char) → List Char
  | [] => []
  | [last] => last
  | part :: rest =>
    let size := position + cells part + 1
    let fill := (tabSize - size % tabSize) % tabSize
    part ++ ' ' :: blanks fill ++ joinTabs (size + fill) rest

def expandTabs (line : List Char) : List Char := joinTabs 0 (Text.splitOn '\t' line)

/-- The words of a line, each with the blanks after it, the first one also with those before it. -/
def wordsFrom : List Char → Nat → List Char → List (List Char)
  | word, _, [] => if word.all isBlank then [] else [word.reverse]
  | word, 0, c :: r =>
    wordsFrom (c :: word) (if isBlank c then 0 else 1) r
  | word, 1, c :: r => wordsFrom (c :: word) (if isBlank c then 2 else 1) r
  | word, n, c :: r => if isBlank c then wordsFrom (c :: word) n r else word.reverse :: wordsFrom [c] 1 r

/-- The words of a line; a line of blanks has none. -/
def wordsOf (line : List Char) : List (List Char) := wordsFrom [] 0 line

/-- The parts of a word that is cut where a line is full; the part so far is given, last character first. -/
def chopFrom (width : Nat) : List Char → Nat → List Char → List (List Char)
  | part, _, [] => [part.reverse]
  | part, size, c :: r =>
    if width < size + cellsOf c then part.reverse :: chopFrom width [c] (cellsOf c) r
    else chopFrom width (c :: part) (size + cellsOf c) r

/-- A word cut into parts that fit on a line. -/
def chop (width : Nat) (word : List Char) : List (List Char) := chopFrom width [] 0 word

/-- Breaks words into lines. The line so far is given with its cells, counted without those before its first break. -/
def fill (width : Nat) : List Char → Nat → List (List Char) → List (List Char)
  | line, _, [] => [line]
  | line, size, word :: rest =>
    let needed := cells (Text.trimEnd word)
    if size + needed ≤ width then fill width (line ++ word) (size + cells word) rest
    else if width < needed then
      let parts := chop width word
      let last := parts.getLast?.getD []
      let before := (if line.isEmpty then [] else [line]) ++ parts.dropLast
      before ++ fill width last (cells last) rest
    else line :: fill width word (cells word) rest

/-- Takes blanks off the end of a line as far as it is too long. -/
def trimExcess (width : Nat) (line : List Char) : List Char :=
  let excess := line.length - width
  line.take (line.length - min excess (Text.trailing line).length)

/-- The first characters of a line that take at most so many cells, filled up with blanks. -/
def cut (width : Nat) (line : List Char) : List Char :=
  let kept := ((List.range (line.length + 1)).reverse.find? fun n => cells (line.take n) ≤ width).getD 0
  line.take kept ++ blanks (width - cells (line.take kept))

/-- A line that is at most so wide. -/
def truncated (width : Nat) (line : List Char) : List Char := if width < cells line then cut width line else line

def aligned (width : Nat) (alignment : Alignment) (line : List Char) : List Char :=
  match alignment with
  | .none => truncated width line
  | .left =>
    let line := truncated width line
    line ++ blanks (width - cells line)
  | .center =>
    let line := truncated width (Text.trimEnd line)
    let line := blanks ((width - cells line) / 2) ++ line
    line ++ blanks (width - cells line)
  | .right =>
    let line := truncated width (Text.trimEnd line)
    blanks (width - cells line) ++ line

/-- The lines on which a line is laid out. -/
def wrapLine (width : Nat) (alignment : Alignment) (line : List Char) : List (List Char) :=
  let line := expandTabs line
  let words := wordsOf line
  let broken := if words.isEmpty then [line] else fill width [] 0 words
  broken.map fun l => aligned width alignment (trimExcess width l)

/-- The lines on which a text is laid out. -/
def wrap (width : Nat) (alignment : Alignment) (text : List Char) : List (List Char) :=
  (Text.splitOn '\n' text).flatMap (wrapLine width alignment)

/-- The cells of the widest line of a text. -/
def widest (text : List Char) : Nat := ((Text.splitOn '\n' text).map cells).foldl max 0

end Phrasebook.Console
