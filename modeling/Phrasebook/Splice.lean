import Phrasebook.Text.Utf8

/-!
# Splicing

Edits replace ranges of the bytes of a text. They are applied from the back to the front, so that no edit moves the
range of another; edits of one range are applied in the order in which they are given.
-/

namespace Phrasebook.Splice

/-- The replacement of a range of bytes. -/
structure Edit where
  start : Nat
  stop : Nat
  replacement : List Char
  deriving DecidableEq, Repr, Inhabited

namespace Edit

/-- Whether an edit is applied before another: its range starts later, or it starts there and ends no earlier. -/
def isBehind (a b : Edit) : Bool := b.start < a.start || (a.start == b.start && b.stop ≤ a.stop)

/-- Bytes with the range of an edit replaced; a range that ends before it starts is empty. -/
def apply (bytes : List UInt8) (e : Edit) : List UInt8 :=
  bytes.take e.start ++ Text.Utf8.encode e.replacement ++ bytes.drop (max e.start e.stop)

end Edit

/-- Edits in the order in which they are applied. -/
def ordered (edits : List Edit) : List Edit := edits.mergeSort Edit.isBehind

def applyBytes (bytes : List UInt8) (edits : List Edit) : List UInt8 := (ordered edits).foldl Edit.apply bytes

/-- The text after all edits; nothing if they cut a character. -/
def apply (source : List Char) (edits : List Edit) : Except Text.Utf8.Fault (List Char) :=
  Text.Utf8.decode (applyBytes (Text.Utf8.encode source) edits)

end Phrasebook.Splice
