import Phrasebook.Console.ColorTable
import Phrasebook.Text.Blank
import Phrasebook.Text.Case
import Phrasebook.Text.Lines

/-!
# Styles

A style is written as words: attributes, each maybe with `not` before it, a color, a color after `on`, an address after
`link`. Two ways to write one style have the same normal form; a text that is no style is its own, in lower case.
-/

namespace Phrasebook.Console

/-- What a style can switch on or off, in the order in which it is written. -/
inductive Attribute where
  | bold
  | dim
  | italic
  | underline
  | blink
  | blink2
  | reverse
  | conceal
  | strike
  | underline2
  | frame
  | encircle
  | overline
  deriving DecidableEq, Repr

namespace Attribute

def all : List Attribute :=
  [bold, dim, italic, underline, blink, blink2, reverse, conceal, strike, underline2, frame, encircle, overline]

def name : Attribute → String
  | bold => "bold"
  | dim => "dim"
  | italic => "italic"
  | underline => "underline"
  | blink => "blink"
  | blink2 => "blink2"
  | reverse => "reverse"
  | conceal => "conceal"
  | strike => "strike"
  | underline2 => "underline2"
  | frame => "frame"
  | encircle => "encircle"
  | overline => "overline"

/-- The short name of an attribute that has one. -/
def shortName : Attribute → Option String
  | bold => some "b"
  | dim => some "d"
  | italic => some "i"
  | underline => some "u"
  | reverse => some "r"
  | conceal => some "c"
  | strike => some "s"
  | underline2 => some "uu"
  | overline => some "o"
  | _ => none

def ofWord? (word : String) : Option Attribute :=
  all.find? fun a => a.name == word || a.shortName == some word

end Attribute

/-- A style: attributes that are on or off, colors and an address. -/
structure Style where
  attributes : List (Attribute × Bool)
  color : Option String
  background : Option String
  address : Option String
  deriving DecidableEq, Repr

namespace Style

def plain : Style := ⟨[], none, none, none⟩

def words (cs : List Char) : List (List Char) :=
  (cs.foldr
    (fun c parts =>
      match parts with
      | [] => []
      | w :: ws => if Text.isBlank c then [] :: w :: ws else (c :: w) :: ws)
    [[]]).filter fun w => !w.isEmpty

/-- Whether a character is a digit of a color in lower case. -/
def isHexDigit (c : Char) : Bool := c.isDigit || ('a' ≤ c && c ≤ 'f')

/-- The number that decimal digits with blanks around them write, if it is at most 255. -/
def isChannel (cs : List Char) : Bool :=
  let digits := Text.trim cs
  !digits.isEmpty && digits.all Char.isDigit && decide ((String.ofList digits).toNat?.getD 256 ≤ 255)

/-- What stands between a start and a final parenthesis. -/
def inParentheses? (start : String) (cs : List Char) : Option (List Char) :=
  if start.toList.isPrefixOf cs && cs.getLast? == some ')' then some (cs.drop start.length).dropLast else none

/-- Whether a word in lower case is a color: a name, six hexadecimal digits, a number of the palette or three numbers.
-/
def isColor (word : String) : Bool :=
  let cs := word.toList
  word == "default" || colorNames.contains word ||
    (match cs with
      | '#' :: digits => digits.length == 6 && digits.all isHexDigit
      | _ => false) ||
    (match inParentheses? "color(" cs with
      | some digits => digits.length ≤ 3 && digits.all Char.isDigit && isChannel digits
      | none => false) ||
    match inParentheses? "rgb(" cs with
      | some inner => (Text.splitOn ',' inner).length == 3 && (Text.splitOn ',' inner).all isChannel
      | none => false

def switch (s : Style) (a : Attribute) (on : Bool) : Style :=
  { s with attributes := (s.attributes.filter fun other => other.1 != a) ++ [(a, on)] }

/-- A style with more words read into it. -/
def readWords (s : Style) : List String → Option Style
  | [] => some s
  | word :: rest =>
    let lower := Text.lowerString word
    if lower == "on" then
      match rest with
      | color :: rest =>
        let color := Text.lowerString color
        if isColor color then readWords { s with background := some color } rest else none
      | [] => none
    else if lower == "not" then
      match rest with
      | name :: rest => (Attribute.ofWord? name).bind fun a => readWords (s.switch a false) rest
      | [] => none
    else if lower == "link" then
      match rest with
      | address :: rest => readWords { s with address := some address } rest
      | [] => none
    else match Attribute.ofWord? lower with
      | some a => readWords (s.switch a true) rest
      | none => if isColor lower then readWords { s with color := some lower } rest else none

def ofText? (cs : List Char) : Option Style :=
  if Text.trim cs == "none".toList then some plain else readWords plain ((words cs).map String.ofList)

/-- The normal form of an attribute, if it is switched. -/
def attributeText? (s : Style) (a : Attribute) : Option String :=
  (s.attributes.find? fun other => other.1 == a).map fun found => if found.2 then a.name else "not " ++ a.name

def text (s : Style) : String :=
  let parts := Attribute.all.filterMap s.attributeText? ++ s.color.toList ++
    (s.background.map ("on " ++ ·)).toList ++ (s.address.map ("link " ++ ·)).toList
  if parts.isEmpty then "none" else " ".intercalate parts

def normalText (cs : List Char) : String :=
  match ofText? cs with
  | some s => s.text
  | none => Text.lowerString (String.ofList (Text.trim cs))

end Style
end Phrasebook.Console
