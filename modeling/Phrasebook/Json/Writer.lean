import Phrasebook.Text.Hex
import Phrasebook.Json.Value
import Phrasebook.Decimal.Text

/-!
# Writing JSON

The text of a value in a layout: on one line with or without blanks after the signs, or with every member on a line of
its own. Quotes, backslashes and control characters are escaped; a layout may also escape everything but ASCII.
-/

namespace Phrasebook.Json

open Decimal

/-- How a value is laid out. -/
structure Layout where
  /-- What stands between a name and its value. -/
  afterName : String
  /-- What stands between two items on one line. -/
  betweenItems : String
  /-- How many blanks each level is set in by, if items stand on lines of their own. -/
  indent : Option Nat
  /-- Whether all characters but those of ASCII are escaped. -/
  ascii : Bool

def Layout.compact : Layout := ⟨":", ",", none, false⟩

def Layout.spaced : Layout := ⟨": ", ", ", none, false⟩

/-- On one line with blanks, in ASCII alone. -/
def Layout.spacedAscii : Layout := ⟨": ", ", ", none, true⟩

/-- On lines of their own, set in by two blanks a level. -/
def Layout.indented : Layout := ⟨": ", ",", some 2, false⟩

def spelling : Spelling := ⟨"Infinity", "NaN"⟩

def unicodeEscape (n : Nat) : List Char :=
  '\\' :: 'u' :: Text.hexDigits 4 n

/-- A character as it is written in a string. -/
def charText (ascii : Bool) (c : Char) : List Char :=
  if c == '"' then ['\\', '"']
  else if c == '\\' then ['\\', '\\']
  else if c == '\n' then ['\\', 'n']
  else if c == '\r' then ['\\', 'r']
  else if c == '\t' then ['\\', 't']
  else if c == '\x08' then ['\\', 'b']
  else if c == '\x0c' then ['\\', 'f']
  else if c.toNat < 0x20 then unicodeEscape c.toNat
  else if ascii && 0x7e < c.toNat then
    if c.toNat < 0x10000 then unicodeEscape c.toNat
    else
      let n := c.toNat - 0x10000
      unicodeEscape (0xd800 + n / 0x400) ++ unicodeEscape (0xdc00 + n % 0x400)
  else [c]

def stringText (ascii : Bool) (s : String) : List Char := '"' :: s.toList.flatMap (charText ascii) ++ ['"']

/-- The break before an item at a level. -/
def lineBreak (layout : Layout) (level : Nat) : List Char :=
  match layout.indent with
  | some n => '\n' :: List.replicate (n * level) ' '
  | none => []

mutual
/-- The text of a value at a level. -/
def valueText (layout : Layout) (level : Nat) : Json → List Char
  | null => "null".toList
  | bool b => (if b then "true" else "false").toList
  | integer n => (toString n).toList
  | decimal x => (shortestText spelling x).toList
  | string s => stringText layout.ascii s
  | broken s => stringText layout.ascii s
  | array [] => ['[', ']']
  | array (j :: js) =>
    '[' :: lineBreak layout (level + 1) ++ valueText layout (level + 1) j ++ itemsText layout (level + 1) js ++
      lineBreak layout level ++ [']']
  | object [] => ['{', '}']
  | object (m :: ms) =>
    '{' :: lineBreak layout (level + 1) ++ stringText layout.ascii m.1 ++ layout.afterName.toList ++
      valueText layout (level + 1) m.2 ++ membersText layout (level + 1) ms ++ lineBreak layout level ++ ['}']
/-- The text of the items after the first. -/
def itemsText (layout : Layout) (level : Nat) : List Json → List Char
  | [] => []
  | j :: js =>
    layout.betweenItems.toList ++ lineBreak layout level ++ valueText layout level j ++ itemsText layout level js
/-- The text of the members after the first. -/
def membersText (layout : Layout) (level : Nat) : List (String × Json) → List Char
  | [] => []
  | (name, j) :: ms =>
    layout.betweenItems.toList ++ lineBreak layout level ++ stringText layout.ascii name ++
      layout.afterName.toList ++ valueText layout level j ++ membersText layout level ms
end

/-- The text of a value in a layout. -/
def write (layout : Layout) (j : Json) : String := String.ofList (valueText layout 0 j)

end Phrasebook.Json
