/-!
# Commands

What can be asked for on the command line.
-/

namespace Phrasebook

/-- What a command does. The project is given by the path of its root, or looked for. -/
inductive Action where
  /-- Extracts the texts of files and of files in directories; the rewritten sources may be written back. -/
  | scan (paths : List String) (write : Bool)
  /-- Merges the sink into the catalog. -/
  | consolidate
  /-- Prints what is shown for a key. -/
  | resolve (key locale : String)
  /-- Prints a text in the pseudo locale. -/
  | pseudo (text : String)
  /-- Prints how far the catalog is translated. -/
  | stats
  deriving DecidableEq, Repr

/-- An action with the options that all actions have. -/
structure Command where
  /-- The least level of events that are logged, if it is named. -/
  logLevel : Option String
  /-- Whether the log is written as JSON. -/
  jsonLog : Bool
  action : Action
  /-- The root of the project, if it is named. -/
  projectRoot : Option String
  deriving DecidableEq, Repr

/-- What the command line asks for. -/
inductive Request where
  | version
  | help
  | run (command : Command)
  deriving DecidableEq, Repr

end Phrasebook
