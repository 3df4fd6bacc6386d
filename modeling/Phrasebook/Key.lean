import Phrasebook.Digest
import Phrasebook.Text.Utf8

/-!
# Keys of texts

A key is the start of the digest of a text with the place where it was found: 16 hexadecimal digits. Two texts share a
key only if both text and place are the same, as far as digests tell.
-/

namespace Phrasebook

/-- Where a text was found. -/
structure Context where
  /-- The source file, relative to the workspace. -/
  file : String
  /-- The component around the text. -/
  component : String
  /-- The elements around the text. -/
  path : String
  deriving DecidableEq, Repr, Inhabited

namespace Context

/-- The parts of a context in one text, separated by colons. -/
def text (c : Context) : String := c.file ++ ":" ++ c.component ++ ":" ++ c.path

end Context

namespace Key

def length : Nat := 16

/-- What a key is the digest of: the text, a bar, and the place. -/
def material (text place : String) : String := text ++ "|" ++ place

/-- The key of a text at a place. -/
def of (text place : String) : String :=
  String.ofList ((Digest.hex (Text.Utf8.encode (material text place).toList)).take length)

/-- The key of a text in a context. -/
def within (text : String) (context : Context) : String := of text context.text

/-- The number of characters that are shown of a key that no catalog knows. -/
def placeholderLength : Nat := 8

/-- What is shown for a key that no catalog knows: its first characters in brackets. -/
def placeholder (key : String) : String := String.ofList ('[' :: key.toList.take placeholderLength ++ [']'])

theorem length_of (text place : String) : (of text place).length = length := by
  simp [of, length, Digest.length_hex]

theorem mem_of {text place : String} {c : Char} (h : c ∈ (of text place).toList) : ∃ n < 16, c = Text.hexDigit n := by
  rw [of, String.toList_ofList] at h
  exact Digest.mem_hex (List.mem_of_mem_take h)

end Key
end Phrasebook
