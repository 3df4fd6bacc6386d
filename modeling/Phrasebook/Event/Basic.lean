import Phrasebook.Json.Value
import Phrasebook.Failure

/-!
# Events

What the library does is told by events: a level, a text and named values. Events of failures nobody foresaw carry a
trace of where they arose.
-/

namespace Phrasebook

/-- How much an event matters. -/
inductive Level where
  | debug
  | info
  | warning
  | error
  deriving DecidableEq, Repr, Inhabited

namespace Level

/-- The name of a level in an event. -/
def code : Level → String
  | debug => "debug"
  | info => "info"
  | warning => "warning"
  | error => "error"

/-- The rank of a level: higher ones matter more. -/
def rank : Level → Nat
  | debug => 10
  | info => 20
  | warning => 30
  | error => 40

end Level

/-- Something that happened. -/
structure Event where
  level : Level
  text : String
  fields : List (String × Json)
  /-- Whether the event carries a trace. -/
  traced : Bool
  deriving Repr, Inhabited

namespace Event

/-- An event that only matters when something is looked into. -/
def debug (text : String) (fields : List (String × Json)) : Event := ⟨.debug, text, fields, false⟩

def info (text : String) (fields : List (String × Json)) : Event := ⟨.info, text, fields, false⟩

/-- An event that tells of something left out or kept back. -/
def warning (text : String) (fields : List (String × Json)) : Event := ⟨.warning, text, fields, false⟩

/-- An event that tells of a failure nobody foresaw. -/
def unforeseen (text : String) (fields : List (String × Json)) : Event := ⟨.error, text, fields, true⟩

end Event
end Phrasebook
