/-!
# Blanks at the ends of a text

The class of blank characters, and texts without the blanks at their ends. `trim_eq` says what is cut off: a text is its
leading blanks, its trimmed characters and its trailing blanks, in this order.
-/

namespace Phrasebook.Text

/-- Blank characters: the Unicode white space and the four separators of ASCII. -/
def isBlank (c : Char) : Bool :=
  let n := c.toNat
  (0x09 ≤ n && n ≤ 0x0d) || (0x1c ≤ n && n ≤ 0x20) || n == 0x85 || n == 0xa0 || n == 0x1680 ||
    (0x2000 ≤ n && n ≤ 0x200a) || n == 0x2028 || n == 0x2029 || n == 0x202f || n == 0x205f || n == 0x3000

def leading (cs : List Char) : List Char := cs.takeWhile isBlank

/-- The text from its first character that is not blank. -/
def trimStart (cs : List Char) : List Char := cs.dropWhile isBlank

def trailing (cs : List Char) : List Char := (cs.reverse.takeWhile isBlank).reverse

/-- The text up to its last character that is not blank. -/
def trimEnd (cs : List Char) : List Char := (cs.reverse.dropWhile isBlank).reverse

/-- The text without the blanks at both ends. -/
def trim (cs : List Char) : List Char := trimEnd (trimStart cs)

theorem leading_append_trimStart (cs : List Char) : leading cs ++ trimStart cs = cs :=
  List.takeWhile_append_dropWhile

theorem trimEnd_append_trailing (cs : List Char) : trimEnd cs ++ trailing cs = cs := by
  rw [trimEnd, trailing, ← List.reverse_append, List.takeWhile_append_dropWhile, List.reverse_reverse]

/-- What trimming cuts off stands at the two ends. -/
theorem trim_eq (cs : List Char) :
    leading cs ++ trim cs ++ trailing (trimStart cs) = cs := by
  rw [List.append_assoc, trim, trimEnd_append_trailing, leading_append_trimStart]

end Phrasebook.Text
