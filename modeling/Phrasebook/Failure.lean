import Phrasebook.Json.Limits
import Phrasebook.Json.Shown

/-!
# What can go wrong

The causes of failure that the library tells apart, with the wording of each and the details that go into the log.
-/

namespace Phrasebook

/-- A cause of failure. -/
inductive Failure where
  /-- A failure with a wording of its own. -/
  | general (message : String) (details : List (String × Json))
  /-- A source that cannot be read. -/
  | source (file reason : String)
  /-- A file of records or a catalog that cannot be read or written. -/
  | storage (path reason : String)
  /-- A line that is no record. -/
  | line (number : Nat) (reason : String)
  /-- A key that is not in the catalog. -/
  | missingKey (key : String)
  /-- A locale that is not supported; those that are may be named. -/
  | unknownLocale (locale : Json) (allowed : List Json)
  /-- A file whose values are nested too deep. Unlike the others this is none of the failures that the library foresees:
  whoever catches those lets it pass. -/
  | nesting
  deriving Repr

namespace Failure

def message : Failure → String
  | general text _ => text
  | source file reason => s!"Cannot parse {file}: {reason}"
  | storage path reason => s!"Catalog I/O failed for {path}: {reason}"
  | line number reason => s!"Invalid sink record on line {number}: {reason}"
  | missingKey key => s!"String not found for key: {key}"
  | unknownLocale locale allowed =>
    s!"Unknown locale: {locale.shown}." ++ (if allowed.isEmpty then "" else " Allowed: " ++ (Json.array allowed).shown)
  | nesting => Json.Excess.nesting.message

def details : Failure → List (String × Json)
  | general _ details => details
  | source file reason => [("file", .string file), ("reason", .string reason)]
  | storage path reason => [("path", .string path), ("reason", .string reason)]
  | line number reason => [("line_number", .integer number), ("reason", .string reason)]
  | missingKey key => [("key", .string key)]
  | unknownLocale locale allowed => [("locale", locale), ("allowed_locales", .array allowed)]
  | nesting => []

end Failure
end Phrasebook
