import Phrasebook.Console.Markup
import Phrasebook.Console.Terminal
import Phrasebook.Decimal.Text

/-!
# Messages

A message starts with a sign that says what kind of message it is. The texts of messages may hold markup.
-/

namespace Phrasebook.Console

open Decimal

/-- The kinds of messages. -/
inductive MessageKind where
  | success
  | error
  | warning
  | info
  deriving DecidableEq, Repr, Inhabited

/-- The sign at the start of a message. -/
def MessageKind.sign : MessageKind → Char
  | success => '✓'
  | error => '✗'
  | warning => '!'
  | info => '→'

/-- What is shown of a message, on lines of a terminal. -/
def laidOut (terminal : Terminal) (shown : List Char) : List Char :=
  (wrap terminal.width .none shown).flatMap fun line => line ++ ['\n']

def messageText (terminal : Terminal) (kind : MessageKind) (message : String) : Except Unmatched String :=
  (Markup.shown (kind.sign :: ' ' :: message.toList)).map fun shown => String.ofList (laidOut terminal shown)

def fullColor : String := "#a3e635"

def partialColor : String := "#fbbf24"

def emptyColor : String := "#fb7185"

/-- The spelling of numbers that are not finite. -/
def coverageSpelling : Spelling := ⟨"inf", "nan"⟩

/-- The color of a coverage, by how complete it is. -/
def coverageColor (percent : Binary64) : String :=
  if percent.isAtLeast 100 then fullColor else if percent.isPositive then partialColor else emptyColor

/-- A coverage with one place after the point, in its color. -/
def coverageText (percent : Binary64) : String :=
  let color := coverageColor percent
  s!"[{color}]" ++ fixedText coverageSpelling percent ++ s!"%[/{color}]"

end Phrasebook.Console
