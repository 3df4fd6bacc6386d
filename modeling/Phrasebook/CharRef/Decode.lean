import Phrasebook.CharRef.UpperAtoL
import Phrasebook.CharRef.UpperMtoZ
import Phrasebook.CharRef.LowerAtoC
import Phrasebook.CharRef.LowerDtoG
import Phrasebook.CharRef.LowerHtoL
import Phrasebook.CharRef.LowerMtoO
import Phrasebook.CharRef.LowerPtoS
import Phrasebook.CharRef.LowerTtoZ

/-!
# Character references

Markup may write a character as a reference: `&amp;`, `&#38;` or `&#x26;`. `decode` replaces every reference in a
text by what it stands for, by the rules for documents that are not well formed: the semicolon may be missing, the
longest known name counts, and unknown names stay as they are.
-/

namespace Phrasebook.CharRef

/-- All names with the characters they stand for. -/
def names : List (String × List Nat) :=
  namesUpperAtoL ++ namesUpperMtoZ ++ namesLowerAtoC ++ namesLowerDtoG ++ namesLowerHtoL ++ namesLowerMtoO ++
    namesLowerPtoS ++ namesLowerTtoZ

def named? (name : List Char) : Option (List Char) :=
  let key := String.ofList name
  (names.find? fun entry => entry.1 == key).map fun entry => entry.2.map Char.ofNat

/-- The characters that the numbers of an older encoding stand for, from 0x80 on. -/
def legacy : List Nat :=
  [0x20ac, 0x81, 0x201a, 0x192, 0x201e, 0x2026, 0x2020, 0x2021, 0x2c6, 0x2030, 0x160, 0x2039, 0x152, 0x8d, 0x17d,
    0x8f, 0x90, 0x2018, 0x2019, 0x201c, 0x201d, 0x2022, 0x2013, 0x2014, 0x2dc, 0x2122, 0x161, 0x203a, 0x153, 0x9d,
    0x17e, 0x178]

/-- Numbers that stand for nothing: control characters and those that are no characters. -/
def isNothing (n : Nat) : Bool :=
  (0x1 ≤ n && n ≤ 0x8) || n == 0xb || (0xe ≤ n && n ≤ 0x1f) || n == 0x7f || (0xfdd0 ≤ n && n ≤ 0xfdef) ||
    n % 0x10000 == 0xfffe || n % 0x10000 == 0xffff

/-- The mark for a character that cannot be shown. -/
def unknown : Char := '\uFFFD'

def ofNumber (n : Nat) : List Char :=
  if n == 0 then [unknown]
  else if 0x80 ≤ n && n < 0xa0 then [Char.ofNat (legacy.getD (n - 0x80) n)]
  else if (0xd800 ≤ n && n ≤ 0xdfff) || 0x10ffff < n then [unknown]
  else if isNothing n then []
  else [Char.ofNat n]

def digitValue (c : Char) : Nat :=
  if c.isDigit then c.toNat - '0'.toNat
  else if 'a' ≤ c && c ≤ 'f' then c.toNat - 'a'.toNat + 10
  else c.toNat - 'A'.toNat + 10

def isHexDigit (c : Char) : Bool := c.isDigit || ('a' ≤ c && c ≤ 'f') || ('A' ≤ c && c ≤ 'F')

/-- The number that digits write in a base. -/
def value (base : Nat) (digits : List Char) : Nat := digits.foldl (fun n c => n * base + digitValue c) 0

/-- No decimal number with more digits than this is read. -/
def maxDigits : Nat := 4300

def maxName : Nat := 32

def endsName (c : Char) : Bool :=
  c == '\t' || c == '\n' || c == '\x0c' || c == ' ' || c == '<' || c == '&' || c == '#' || c == ';'

/-- The longest known name among the prefixes of a text that have at most some length but more than one character,
with the rest of the text. -/
def longestName (text : List Char) : Nat → Option (List Char)
  | 0 => none
  | 1 => none
  | n + 1 =>
    match named? (text.take (n + 1)) with
    | some cs => some (cs ++ text.drop (n + 1))
    | none => longestName text n

/-- What a name stands for; unknown names stand for themselves. -/
def ofName (name : List Char) : List Char :=
  match named? name with
  | some cs => cs
  | none => (longestName name (name.length - 1)).getD ('&' :: name)

/-- A run of characters with the semicolon after it, if there is one. -/
def closed (run rest : List Char) : List Char := if rest.head? == some ';' then run ++ [';'] else run

/-- A reference after its ampersand. -/
inductive Reference where
  /-- No reference. -/
  | none
  /-- A number that is too long to be read. -/
  | endless
  /-- A reference of some length that stands for some characters. -/
  | found (length : Nat) (replacement : List Char)

/-- The reference at the front of the text after an ampersand. -/
def reference (cs : List Char) : Reference :=
  match cs with
  | '#' :: r =>
    let digits := r.takeWhile Char.isDigit
    if !digits.isEmpty then
      if maxDigits < digits.length then .endless
      else .found (1 + (closed digits (r.dropWhile Char.isDigit)).length) (ofNumber (value 10 digits))
    else match r with
      | x :: r' =>
        let digits := r'.takeWhile isHexDigit
        if (x == 'x' || x == 'X') && !digits.isEmpty then
          .found (2 + (closed digits (r'.dropWhile isHexDigit)).length) (ofNumber (value 16 digits))
        else .none
      | [] => .none
  | _ =>
    let run := (cs.take maxName).takeWhile fun c => !endsName c
    if run.isEmpty then .none
    else
      let name := closed run (cs.drop run.length)
      .found name.length (ofName name)

/-- A text with its references replaced, after leaving out characters of a reference already replaced. -/
def decodeFrom : (skipped : Nat) → List Char → Option (List Char)
  | _, [] => some []
  | n + 1, _ :: r => decodeFrom n r
  | 0, c :: r =>
    if c == '&' then
      match reference r with
      | .none => (decodeFrom 0 r).map (c :: ·)
      | .endless => .none
      | .found length replacement => (decodeFrom length r).map (replacement ++ ·)
    else (decodeFrom 0 r).map (c :: ·)

/-- A text with its references replaced; nothing if one of its numbers is too long to be read. -/
def decode (cs : List Char) : Option (List Char) := decodeFrom 0 cs

end Phrasebook.CharRef
