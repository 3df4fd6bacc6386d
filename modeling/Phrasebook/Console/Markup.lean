import Phrasebook.Console.Style
import Phrasebook.Emoji.Named

/-!
# Markup on the console

What is printed may hold tags in square brackets: a tag opens a style, one with a slash closes it. Tags are not shown. A
bracket is a tag only if a small letter or one of three signs follows it and a bracket closes it; a backslash before it
makes it text. A closing tag that no open tag fits is an error.
-/

namespace Phrasebook.Console

/-- A piece of markup. -/
inductive Piece where
  /-- A character of the text. -/
  | character (c : Char)
  /-- Characters that were protected by backslashes. -/
  | literal (cs : List Char)
  /-- A tag, without its brackets. -/
  | tag (content : List Char)
  deriving DecidableEq, Repr

/-- A closing tag that no open tag fits. -/
structure Unmatched where
  tag : String
  deriving DecidableEq, Repr

namespace Markup

/-- Whether a character can be the first of a tag. -/
def startsTag (c : Char) : Bool := ('a' ≤ c && c ≤ 'z') || c == '#' || c == '/' || c == '@'

/-- The content of a tag whose bracket has been opened. -/
def content? (cs : List Char) : Option (List Char) :=
  let inner := cs.takeWhile fun c => c != '[' && c != ']'
  match inner, cs.drop inner.length with
  | first :: _, ']' :: _ => if startsTag first then some inner else none
  | _, _ => none

/-- The pieces of a tag with backslashes before it: two backslashes stand for one, and one more makes the tag text. -/
def tagPieces (backslashes : Nat) (content : List Char) : List Piece :=
  .literal (List.replicate (backslashes / 2) '\\') ::
    [if backslashes % 2 == 1 then .literal ('[' :: content ++ [']']) else .tag content]

/-- A tag at the start of a text, with the backslashes before it, and how many characters it takes. -/
def tagAt? (cs : List Char) : Option (List Piece × Nat) :=
  let backslashes := (cs.takeWhile (· == '\\')).length
  match cs.drop backslashes with
  | '[' :: rest => (content? rest).map fun inner => (tagPieces backslashes inner, backslashes + inner.length + 2)
  | _ => none

/-- The pieces of a text, of which the first characters have already been read. -/
def piecesAfter : Nat → List Char → List Piece
  | _, [] => []
  | n + 1, _ :: r => piecesAfter n r
  | 0, c :: r =>
    match tagAt? (c :: r) with
    | some (pieces, size) => pieces ++ piecesAfter (size - 1) r
    | none => .character c :: piecesAfter 0 r

def pieces (cs : List Char) : List Piece := piecesAfter 0 cs

/-- Characters in which a bracket needs no backslash. -/
def unescape : List Char → List Char
  | [] => []
  | '\\' :: '[' :: r => '[' :: unescape r
  | c :: r => c :: unescape r

/-- Whether a character is one that moves the cursor; these are never shown. -/
def movesCursor (c : Char) : Bool := ['\x07', '\x08', '\x0b', '\x0c', '\r'].contains c

/-- The name of a tag: what stands before an equals sign. -/
def nameOf (content : List Char) : List Char := content.takeWhile (· != '=')

/-- The open tags after a tag, innermost first. -/
def step (opened : List String) (content : List Char) : Except Unmatched (List String) :=
  match nameOf content with
  | '/' :: name =>
    if (Text.trim name).isEmpty then
      match opened with
      | _ :: outer => .ok outer
      | [] => .error ⟨String.ofList content⟩
    else
      let style := Style.normalText (Text.trim name)
      if opened.contains style then .ok (opened.erase style) else .error ⟨String.ofList content⟩
  | name => .ok (Style.normalText name :: opened)

/-- What is shown of characters of a text: emoji in the place of their names, and nothing that moves the cursor. -/
def shownRun (run : List Char) : List Char := (Emoji.shown (unescape run)).filter fun c => !movesCursor c

/-- What is shown of pieces, after a run of characters, last first, with some tags open. -/
def shownPieces (opened : List String) (run : List Char) : List Piece → Except Unmatched (List Char)
  | [] => .ok (shownRun run.reverse)
  | .character c :: rest => shownPieces opened (c :: run) rest
  | .literal cs :: rest =>
    (shownPieces opened [] rest).map fun shown => shownRun run.reverse ++ shownRun cs ++ shown
  | .tag content :: rest =>
    match step opened content with
    | .error e => .error e
    | .ok opened => (shownPieces opened [] rest).map fun shown => shownRun run.reverse ++ shown

/-- What is shown of a text with markup. -/
def shown (cs : List Char) : Except Unmatched (List Char) := shownPieces [] [] (pieces cs)

end Markup
end Phrasebook.Console
