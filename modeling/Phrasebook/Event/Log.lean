import Phrasebook.Entries
import Phrasebook.Event.Line
import Phrasebook.Json.Writer

/-!
# Logs

A log shows the events from a level on, each on a line for people or as a JSON object.
-/

namespace Phrasebook.Event

/-- How a log is set up. -/
structure LogSetup where
  /-- The least rank of events that are shown. -/
  threshold : Nat
  /-- Whether events are written as JSON. -/
  json : Bool
  style : LineStyle

/-- The ranks that levels have by name, in capital letters. -/
def thresholds : List (String × Nat) :=
  [("NOTSET", 0), ("DEBUG", 10), ("INFO", 20), ("WARN", 30), ("WARNING", 30), ("ERROR", 40), ("CRITICAL", 50),
    ("FATAL", 50)]

/-- The rank of a level named in any letter case; that of info for other names. -/
def thresholdOf (name : String) : Nat :=
  let upper := String.ofList (name.toList.map Char.toUpper)
  ((thresholds.find? (·.1 == upper)).map Prod.snd).getD Level.info.rank

/-- The name and the rank of the level of a way to log. -/
def levelOfMethod (method : String) : String × Nat :=
  match method with
  | "debug" => ("debug", 10)
  | "info" => ("info", 20)
  | "warn" => ("warning", 30)
  | "warning" => ("warning", 30)
  | "error" => ("error", 40)
  | "exception" => ("error", 40)
  | "critical" => ("critical", 50)
  | "fatal" => ("critical", 50)
  | other => (other, 20)

/-- An event as it is logged: with its wording, its level and its time after its fields. -/
def stamped (time level text : String) (fields : Entries String Json) : Entries String Json :=
  fields.putAll [("event", .string text), ("level", .string level), ("timestamp", .string time)]

def entryText (setup : LogSetup) (time level text : String) (fields : Entries String Json) : String :=
  if setup.json then Json.write .spacedAscii (.object (stamped time level text fields))
  else lineText setup.style time level text (fieldsOf fields) none

/-- An event in a log, if it is shown. -/
def logged (setup : LogSetup) (time method text : String) (fields : Entries String Json) :
    Option String :=
  let (level, rank) := levelOfMethod method
  if setup.threshold ≤ rank then some (entryText setup time level text fields) else none

end Phrasebook.Event
