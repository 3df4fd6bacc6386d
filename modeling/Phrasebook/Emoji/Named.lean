import Phrasebook.Emoji.AtoB
import Phrasebook.Emoji.CtoE
import Phrasebook.Emoji.F
import Phrasebook.Emoji.GtoL
import Phrasebook.Emoji.M
import Phrasebook.Emoji.NtoP
import Phrasebook.Emoji.QtoS
import Phrasebook.Emoji.TtoV
import Phrasebook.Emoji.WtoZ
import Phrasebook.Text.Blank
import Phrasebook.Text.Case

/-!
# Emoji by name

A text may name an emoji between two colons, as in `:snail:`. `shown` puts the emoji in the place of the name. The
name may be written in letters of any case, and it may end with a hyphen and the word `emoji` or `text`, which asks
for a picture or for a plain sign. A name that is not known stays as it is, with both of its colons.
-/

namespace Phrasebook.Emoji

/-- All names with the characters they stand for. -/
def names : List (String × List Nat) :=
  namesAtoB ++ namesCtoE ++ namesF ++ namesGtoL ++ namesM ++ namesNtoP ++ namesQtoS ++ namesTtoV ++ namesWtoZ

def named? (name : List Char) : Option (List Char) :=
  let key := String.ofList (Text.lower name)
  (names.find? fun entry => entry.1 == key).map fun entry => entry.2.map Char.ofNat

/-- The endings of a name that ask for a picture or for a plain sign, with the mark that asks for it on a terminal. -/
def presentations : List (List Char × Char) := [("-emoji".toList, '\ufe0f'), ("-text".toList, '\ufe0e')]

/-- A name without the ending that asks for a presentation, and the mark for it. -/
def splitPresentation (name : List Char) : List Char × List Char :=
  match presentations.find? fun p => p.1.isSuffixOf name with
  | some (ending, mark) => (name.take (name.length - ending.length), [mark])
  | none => (name, [])

/-- What is shown for a name between colons. -/
def replacement (name : List Char) : List Char :=
  let (plain, mark) := splitPresentation name
  match named? plain with
  | some cs => cs ++ mark
  | none => ':' :: name ++ [':']

/-- The name after a colon, if a second colon comes before any blank. -/
def nameAt? (cs : List Char) : Option (List Char) :=
  let name := cs.takeWhile fun c => c != ':' && !Text.isBlank c
  if (cs.drop name.length).head? == some ':' then some name else none

/-- A text with its emoji, after leaving out characters of a name already replaced. -/
def shownFrom : (skipped : Nat) → List Char → List Char
  | _, [] => []
  | n + 1, _ :: r => shownFrom n r
  | 0, c :: r =>
    if c == ':' then
      match nameAt? r with
      | some name => replacement name ++ shownFrom (name.length + 1) r
      | none => c :: shownFrom 0 r
    else c :: shownFrom 0 r

def shown (cs : List Char) : List Char := shownFrom 0 cs

end Phrasebook.Emoji
