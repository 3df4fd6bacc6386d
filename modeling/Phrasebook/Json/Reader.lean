import Phrasebook.Json.Value

/-!
# Reading JSON

A text is read as one value or refused with what was expected and where. Besides the standard it takes the three numbers
that are not finite and halves of surrogate pairs; `readStrict` refuses the latter and deep nesting.
-/

namespace Phrasebook.Json

open Decimal (Binary64)

/-- What is wrong with a text. -/
inductive Complaint where
  | value
  | memberName
  | colon
  | comma
  | extraData
  | escape
  | unicodeEscape
  | unterminated
  | controlCharacter
  | byteOrderMark
  deriving DecidableEq, Repr

def Complaint.message : Complaint → String
  | value => "Expecting value"
  | memberName => "Expecting property name enclosed in double quotes"
  | colon => "Expecting ':' delimiter"
  | comma => "Expecting ',' delimiter"
  | extraData => "Extra data"
  | escape => "Invalid \\escape"
  | unicodeEscape => "Invalid \\uXXXX escape"
  | unterminated => "Unterminated string starting at"
  | controlCharacter => "Invalid control character at"
  | byteOrderMark => "Unexpected UTF-8 BOM (decode using utf-8-sig)"

/-- A complaint with the characters that were left where it arose. -/
structure Refusal where
  complaint : Complaint
  left : List Char

/-- The result of a reader: what it read with the characters left, or a refusal. -/
abbrev Reading (α : Type) := Except Refusal (α × List Char)

def isBlank (c : Char) : Bool := c == ' ' || c == '\t' || c == '\n' || c == '\r'

def skip (cs : List Char) : List Char := cs.dropWhile isBlank

def refuse {α : Type} (complaint : Complaint) (left : List Char) : Reading α := .error ⟨complaint, left⟩

/-! ## Strings -/

def hexValue? (c : Char) : Option Nat :=
  if c.isDigit then some (c.toNat - '0'.toNat)
  else if 'a' ≤ c && c ≤ 'f' then some (c.toNat - 'a'.toNat + 10)
  else if 'A' ≤ c && c ≤ 'F' then some (c.toNat - 'A'.toNat + 10)
  else none

def fourDigits (a b c d : Char) : Option Nat := do
  let a ← hexValue? a
  let b ← hexValue? b
  let c ← hexValue? c
  let d ← hexValue? d
  return ((a * 16 + b) * 16 + c) * 16 + d

/-- The character that a letter after a backslash stands for. -/
def escaped? (c : Char) : Option Char :=
  if c == '"' || c == '\\' || c == '/' then some c
  else if c == 'b' then some '\x08'
  else if c == 'f' then some '\x0c'
  else if c == 'n' then some '\n'
  else if c == 'r' then some '\r'
  else if c == 't' then some '\t'
  else none

/-- The mark for half of a surrogate pair. -/
def halfMark : Char := '\uFFFD'

/-- Whether a number is the first half of a surrogate pair. -/
def isHighHalf (n : Nat) : Bool := 0xd800 ≤ n && n < 0xdc00

/-- Whether a number is the second half of a surrogate pair. -/
def isLowHalf (n : Nat) : Bool := 0xdc00 ≤ n && n < 0xe000

def ofHalves (high low : Nat) : Char := Char.ofNat (0x10000 + (high - 0xd800) * 0x400 + (low - 0xdc00))

/-- A character of a string and whether it is one, not half of a surrogate pair. -/
abbrev Piece := Char × Bool

/-- The escape after a backslash: what it stands for and how many characters it takes; `left` is the text from the
backslash on. -/
def escape (left : List Char) : List Char → Except Refusal (Piece × Nat)
  | [] => .error ⟨.unterminated, left⟩
  | 'u' :: a :: b :: c :: d :: rest =>
    if rest.isEmpty then .error ⟨.unicodeEscape, left.drop 1⟩
    else match fourDigits a b c d with
      | none => .error ⟨.unicodeEscape, left.drop 1⟩
      | some n =>
        if isHighHalf n then
          match rest with
          | '\\' :: 'u' :: a' :: b' :: c' :: d' :: _ :: _ =>
            match fourDigits a' b' c' d' with
            | none => .error ⟨.unicodeEscape, left.drop 7⟩
            | some m => if isLowHalf m then .ok ((ofHalves n m, true), 11) else .ok ((halfMark, false), 5)
          | _ => .ok ((halfMark, false), 5)
        else if isLowHalf n then .ok ((halfMark, false), 5)
        else .ok ((Char.ofNat n, true), 5)
  | 'u' :: _ => .error ⟨.unicodeEscape, left.drop 1⟩
  | c :: _ =>
    match escaped? c with
    | some e => .ok ((e, true), 1)
    | none => .error ⟨.escape, left⟩

/-- The characters of a string up to its closing quote, after leaving out characters of an escape already read; `start`
is the text from the opening quote on. -/
def characters (start : List Char) : (taken : Nat) → List Char → Reading (List Piece)
  | _, [] => refuse .unterminated start
  | n + 1, _ :: r => characters start n r
  | 0, c :: r =>
    if c == '"' then .ok ([], r)
    else if c == '\\' then
      match escape (c :: r) r with
      | .error e => .error (if e.complaint == .unterminated then ⟨.unterminated, start⟩ else e)
      | .ok (piece, n) => (characters start n r).map fun (ps, left) => (piece :: ps, left)
    else if c.toNat < 0x20 then refuse .controlCharacter (c :: r)
    else (characters start 0 r).map fun (ps, left) => ((c, true) :: ps, left)

/-- The text of the characters of a string. -/
def textOf (pieces : List Piece) : String := String.ofList (pieces.map Prod.fst)

/-- The value of the characters of a string. -/
def ofPieces (pieces : List Piece) : Json :=
  if pieces.all Prod.snd then .string (textOf pieces) else .broken (textOf pieces)

/-! ## Numbers -/

def decimalValue (digits : List Char) : Nat := digits.foldl (fun n c => n * 10 + (c.toNat - '0'.toNat)) 0

def fraction : List Char → Option (List Char × List Char)
  | '.' :: r =>
    let digits := r.takeWhile Char.isDigit
    if digits.isEmpty then none else some (digits, r.dropWhile Char.isDigit)
  | _ => none

def exponentPart : List Char → Option (Int × List Char)
  | e :: r =>
    if e == 'e' || e == 'E' then
      let (negative, r) := match r with
        | '-' :: r' => (true, r')
        | '+' :: r' => (false, r')
        | _ => (false, r)
      let digits := r.takeWhile Char.isDigit
      if digits.isEmpty then none
      else
        let n : Int := decimalValue digits
        some (if negative then -n else n, r.dropWhile Char.isDigit)
    else none
  | [] => none

/-- The whole part of a number: a zero, or digits that start with none. -/
def wholePart : List Char → Option (List Char × List Char)
  | [] => none
  | c :: r =>
    if c == '0' then some (['0'], r)
    else if c.isDigit then some ((c :: r).takeWhile Char.isDigit, (c :: r).dropWhile Char.isDigit)
    else none

def number? (cs : List Char) : Option (Json × List Char) :=
  let (negative, unsigned) := match cs with
    | '-' :: r => (true, r)
    | _ => (false, cs)
  (wholePart unsigned).map fun (whole, r) =>
    let (decimals, r₁) := (fraction r).getD ([], r)
    let (exponent, r₂) := match exponentPart r₁ with
      | some (e, r') => (some e, r')
      | none => (none, r₁)
    if decimals.isEmpty && exponent.isNone then
      let n : Int := decimalValue whole
      (.integer (if negative then -n else n), r)
    else
      (.decimal (Binary64.ofDecimal negative (decimalValue (whole ++ decimals))
        (exponent.getD 0 - decimals.length)), r₂)

/-! ## Values -/

/-- What follows a given text, if it is there. -/
def after? : List Char → List Char → Option (List Char)
  | [], cs => some cs
  | _ :: _, [] => none
  | x :: xs, c :: cs => if x == c then after? xs cs else none

def words : List (String × Json) :=
  [("null", .null), ("true", .bool true), ("false", .bool false), ("NaN", .decimal .nan),
    ("Infinity", .decimal (.infinite false)), ("-Infinity", .decimal (.infinite true))]

def word? (cs : List Char) : Option (Json × List Char) :=
  words.findSome? fun (w, value) => (after? w.toList cs).map (value, ·)

mutual
/-- A value; fuel bounds the nesting and the number of items. -/
def value : Nat → List Char → Reading Json
  | 0, cs => refuse .value cs
  | n + 1, cs =>
    match cs with
    | '"' :: r => (characters cs 0 r).map fun (ps, left) => (ofPieces ps, left)
    | '{' :: r =>
      match skip r with
      | '}' :: left => .ok (.object [], left)
      | r' => (members n r').map fun (ms, left) => (.object ms, left)
    | '[' :: r =>
      match skip r with
      | ']' :: left => .ok (.array [], left)
      | r' => (items n r').map fun (js, left) => (.array js, left)
    | _ =>
      match (word? cs).or (number? cs) with
      | some found => .ok found
      | none => refuse .value cs
/-- The items of an array with its closing bracket. -/
def items : Nat → List Char → Reading (List Json)
  | 0, cs => refuse .value cs
  | n + 1, cs =>
    match value n cs with
    | .error e => .error e
    | .ok (j, r) =>
      match skip r with
      | ']' :: left => .ok ([j], left)
      | ',' :: r' => (items n (skip r')).map fun (js, left) => (j :: js, left)
      | r' => refuse .comma r'
/-- The members of an object with its closing brace. -/
def members : Nat → List Char → Reading (List (String × Json))
  | 0, cs => refuse .memberName cs
  | n + 1, cs =>
    match cs with
    | '"' :: r =>
      match characters cs 0 r with
      | .error e => .error e
      | .ok (ps, r) =>
        match skip r with
        | ':' :: r' =>
          match value n (skip r') with
          | .error e => .error e
          | .ok (j, r) =>
            match skip r with
            | '}' :: left => .ok ([(textOf ps, j)], left)
            | ',' :: r' => (members n (skip r')).map fun (ms, left) => ((textOf ps, j) :: ms, left)
            | r' => refuse .comma r'
        | r' => refuse .colon r'
    | _ => refuse .memberName cs
end

/-- Enough fuel for any value in a text: every step takes a character. -/
def fuelFor (cs : List Char) : Nat := 2 * cs.length + 2

def readChars (cs : List Char) : Except Refusal Json :=
  if cs.head? == some '\uFEFF' then .error ⟨.byteOrderMark, cs⟩
  else
    match value (fuelFor cs) (skip cs) with
    | .error e => .error e
    | .ok (j, r) =>
      match skip r with
      | [] => .ok j
      | r' => .error ⟨.extraData, r'⟩

/-- A complaint with its place: the number of characters before it, and its line and column from one on. -/
structure Fault where
  complaint : Complaint
  place : Nat
  line : Nat
  column : Nat
  deriving DecidableEq, Repr

/-- The place of a refusal in a text. -/
def Refusal.locate (source : List Char) (r : Refusal) : Fault :=
  let place := source.length - r.left.length
  let before := source.take place
  ⟨r.complaint, place, before.count '\n' + 1, (before.reverse.takeWhile (· != '\n')).length + 1⟩

def Fault.message (f : Fault) : String :=
  f.complaint.message ++ s!": line {f.line} column {f.column} (char {f.place})"

/-- A text as one value, or what is wrong with it and where. -/
def read (source : String) : Except Fault Json :=
  match readChars source.toList with
  | .ok j => .ok j
  | .error r => .error (r.locate source.toList)

/-- Values nested deeper than this are refused by the strict reader. -/
def maxDepth : Nat := 200

/-- Whether all strings of a text, names among them, are texts without halves of surrogate pairs; fuel bounds the
characters outside of strings. -/
def stringsAreTexts : Nat → List Char → Bool
  | _, [] => true
  | 0, _ :: _ => false
  | n + 1, c :: r =>
    if c == '"' then
      match characters (c :: r) 0 r with
      | .ok (ps, left) => ps.all Prod.snd && stringsAreTexts n left
      | .error _ => false
    else stringsAreTexts n r

/-- A text as one value whose strings are all texts and which is not nested too deep. -/
def readStrict (cs : List Char) : Option Json :=
  match readChars cs with
  | .ok j => if stringsAreTexts cs.length cs && j.depth ≤ maxDepth then some j else none
  | .error _ => none

end Phrasebook.Json
