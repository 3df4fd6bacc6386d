import Phrasebook.Path
import Phrasebook.Record.Json

/-!
# Settings

What a project can choose: where its files are, what rewritten sources call, which files are scanned and how catalogs
are published. Settings are read from loosely typed values; what cannot be read is counted.
-/

namespace Phrasebook

/-- The least level of events that are logged. -/
inductive LogLevel where
  | debug
  | info
  | warning
  | error
  deriving DecidableEq, Repr, Inhabited

namespace LogLevel

def code : LogLevel → String
  | debug => "DEBUG"
  | info => "INFO"
  | warning => "WARNING"
  | error => "ERROR"

def all : List LogLevel := [debug, info, warning, error]

def ofCode? (name : String) : Option LogLevel := all.find? (·.code == name)

end LogLevel

/-- The choices of a project. -/
structure Settings where
  logLevel : LogLevel
  /-- Where sink and catalog are; looked for if it is not given. -/
  projectRoot : Option Path
  /-- The log of extracted records. -/
  sinkFilename : String
  /-- The published catalog. -/
  catalogPath : String
  /-- The lookup module made from the catalog. -/
  lookupModulePath : String
  /-- The module that rewritten sources import from. -/
  runtimeModule : String
  /-- The function that rewritten sources call. -/
  lookupFunction : String
  /-- The call whose locale is handed on to lookups. -/
  localeHook : String
  /-- The suffixes of sources with markup. -/
  extensions : List String
  /-- The directories that are never scanned. -/
  skipDirs : List String
  /-- Whether catalogs are written with their keys in order. -/
  sortCatalogKeys : Bool
  /-- Whether keys that were not found again are dropped. -/
  pruneStale : Bool
  deriving DecidableEq, Repr, Inhabited

namespace Settings

/-- The settings of a project that chooses nothing. -/
def standard : Settings where
  logLevel := .info
  projectRoot := none
  sinkFilename := ".text-extraction.tmp"
  catalogPath := ".next/extracted-strings.json"
  lookupModulePath := ".next/extracted-strings.js"
  runtimeModule := "textmark/runtime"
  lookupFunction := "t"
  localeHook := "useLocale"
  extensions := [".jsx", ".tsx"]
  skipDirs := ["node_modules", ".next", "dist"]
  sortCatalogKeys := true
  pruneStale := true

/-- The log of extracted records of a project. -/
def sinkPath (s : Settings) (root : Path) : Path := root.join (Path.ofString s.sinkFilename)

def catalogFile (s : Settings) (root : Path) : Path := root.join (Path.ofString s.catalogPath)

def lookupModuleFile (s : Settings) (root : Path) : Path := root.join (Path.ofString s.lookupModulePath)

/-! ## Reading -/

open Record (Checked checkString checkFlag both)

/-- A suffix in lower case with its point. -/
def normalSuffix (s : String) : String :=
  let lower := Text.lowerString s
  if s.startsWith "." then lower else "." ++ lower

def checkStrings : List Json → Checked (List String)
  | [] => .ok []
  | j :: js =>
    match both (match j with | .string s => .ok s | _ => .error 1) (checkStrings js) with
    | .ok (s, ss) => .ok (s :: ss)
    | .error n => .error n

/-- A value that must be a list of strings. -/
def checkList : Json → Checked (List String)
  | .array items => checkStrings items
  | _ => .error 1

/-- A value that must be the name of a level. -/
def checkLevel : Json → Checked LogLevel
  | .string s =>
    match LogLevel.ofCode? s with
    | some l => .ok l
    | none => .error 1
  | _ => .error 1

/-- A value that is a path or nothing. -/
def checkPath : Json → Checked (Option Path)
  | .null => .ok none
  | .string s => .ok (some (Path.ofString s))
  | _ => .error 1

/-- The value of a field, or its default if it is not given. -/
def field {α : Type} (members : List (String × Json)) (name : String) (absent : α) (check : Json → Checked α) :
    Checked α :=
  match Json.member? name members with
  | some j => check j
  | none => .ok absent

/-- Applies a checked value to a checked function; the faults of both count. -/
def apply {α β : Type} (f : Checked (α → β)) (a : Checked α) : Checked β :=
  match both f a with
  | .ok (f, a) => .ok (f a)
  | .error n => .error n

/-- The settings that values give, or the number of faults in them. Unknown names do not matter. -/
def ofMembers (members : List (String × Json)) : Checked Settings :=
  let d := standard
  let text := fun name absent => field members name absent checkString
  let flag := fun name absent => field members name absent checkFlag
  let c : Checked _ := .ok Settings.mk
  let c := apply c (field members "log_level" d.logLevel checkLevel)
  let c := apply c (field members "project_root" d.projectRoot checkPath)
  let c := apply c (text "sink_filename" d.sinkFilename)
  let c := apply c (text "catalog_path" d.catalogPath)
  let c := apply c (text "lookup_module_path" d.lookupModulePath)
  let c := apply c (text "runtime_module" d.runtimeModule)
  let c := apply c (text "lookup_function" d.lookupFunction)
  let c := apply c (text "locale_hook" d.localeHook)
  let c := apply c ((field members "extensions" d.extensions checkList).map fun es => es.map normalSuffix)
  let c := apply c (field members "skip_dirs" d.skipDirs checkList)
  let c := apply c (flag "sort_catalog_keys" d.sortCatalogKeys)
  apply c (flag "prune_stale" d.pruneStale)

def fieldNames : List String :=
  ["log_level", "project_root", "sink_filename", "catalog_path", "lookup_module_path", "runtime_module",
    "lookup_function", "locale_hook", "extensions", "skip_dirs", "sort_catalog_keys", "prune_stale"]

/-- The names of the fields that hold lists. -/
def listFields : List String := ["extensions", "skip_dirs"]

def toMembers (s : Settings) : List (String × Json) :=
  [("log_level", .string s.logLevel.code),
    ("project_root", match s.projectRoot with | some p => .string p.toString | none => .null),
    ("sink_filename", .string s.sinkFilename), ("catalog_path", .string s.catalogPath),
    ("lookup_module_path", .string s.lookupModulePath), ("runtime_module", .string s.runtimeModule),
    ("lookup_function", .string s.lookupFunction), ("locale_hook", .string s.localeHook),
    ("extensions", .array (s.extensions.map .string)), ("skip_dirs", .array (s.skipDirs.map .string)),
    ("sort_catalog_keys", .bool s.sortCatalogKeys), ("prune_stale", .bool s.pruneStale)]

end Settings
end Phrasebook
