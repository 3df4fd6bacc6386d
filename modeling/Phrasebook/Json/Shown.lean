import Phrasebook.Json.Value
import Phrasebook.Text.Printable
import Phrasebook.Decimal.Text

/-!
# Values in messages

How a value is shown in a message for people: a string as it is, everything else in a notation in which strings within
lists are quoted.
-/

namespace Phrasebook.Json

open Decimal

def shownSpelling : Spelling := ⟨"inf", "nan"⟩

mutual
def innerText : Json → String
  | null => "None"
  | bool b => if b then "True" else "False"
  | integer n => toString n
  | decimal x => shortestText shownSpelling x
  | string s => Text.quoted s
  | broken s => Text.quoted s
  | array items => "[" ++ ", ".intercalate (innerTexts items) ++ "]"
  | object members => "\x7b" ++ ", ".intercalate (memberTexts members) ++ "\x7d"
def innerTexts : List Json → List String
  | [] => []
  | j :: js => innerText j :: innerTexts js
def memberTexts : List (String × Json) → List String
  | [] => []
  | (name, j) :: ms => (Text.quoted name ++ ": " ++ innerText j) :: memberTexts ms
end

/-- The text of a value that is a string. -/
def text? : Json → Option String
  | string s => some s
  | broken s => some s
  | _ => none

def shown (j : Json) : String := j.text?.getD (innerText j)

end Phrasebook.Json
