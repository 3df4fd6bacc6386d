import Phrasebook.Text.WidthTable

/-!
# Cells of a terminal

How many cells of a terminal a text takes. Most characters take one cell; marks and control characters take none, wide
characters two. A joiner hides the character after it, and a presentation mark makes some characters wide.
-/

namespace Phrasebook.Text

/-- Whether a character is in one of some ranges. -/
def inRanges (ranges : List (Nat × Nat)) (c : Char) : Bool :=
  ranges.any fun r => r.1 ≤ c.toNat && c.toNat ≤ r.2

def isControl (c : Char) : Bool := c.toNat < 0x20 || (0x7f ≤ c.toNat && c.toNat < 0xa0)

/-- The cells of a character on its own. -/
def cellsOf (c : Char) : Nat :=
  if c.toNat < 0x7f then if isControl c then 0 else 1
  else if isControl c || inRanges narrowRanges c then 0
  else if inRanges wideRanges c then 2
  else 1

/-- Joins the characters on both sides of it. -/
def joiner : Char := '\u200d'

/-- Asks for the character before it to be shown as a picture. -/
def presentationMark : Char := '\ufe0f'

/-- Cells of the rest of a text; the last character that takes cells is known, unless a mark already belongs to it. -/
def cellsFrom (last : Option Char) : List Char → Nat
  | [] => 0
  | c :: r =>
    if c == joiner then
      match r with
      | [] => 0
      | _ :: r' => cellsFrom last r'
    else if c == presentationMark then
      (if last.any (inRanges pictureRanges) then 1 else 0) + cellsFrom none r
    else
      let n := cellsOf c
      n + cellsFrom (if n == 0 then last else some c) r

def cells (cs : List Char) : Nat := cellsFrom none cs

end Phrasebook.Text
