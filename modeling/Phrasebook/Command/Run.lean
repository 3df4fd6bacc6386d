import Phrasebook.Catalog.Coverage
import Phrasebook.Command.Arguments
import Phrasebook.Consolidation
import Phrasebook.Console.Message
import Phrasebook.Console.Table
import Phrasebook.Event.Log
import Phrasebook.Resolver
import Phrasebook.Scan

/-!
# Running commands

A command works on the workspace and prints what it did. It ends with an exit code: zero for success, one for failure,
two if the command line cannot be understood.
-/

namespace Phrasebook

/-- What a command has printed so far, and the workspace. -/
structure Progress where
  printed : String
  workspace : Workspace
  deriving Inhabited

/-- A part of a command: it can end the command with an exit code. -/
abbrev Step (α : Type) := ExceptT Nat (StateM Progress) α

namespace Command

def failureCode : Nat := 1

/-- The exit code of a command line that cannot be understood. -/
def usageCode : Nat := 2

def echo (line : String) : Step Unit := modify fun p => { p with printed := p.printed ++ line ++ "\n" }

/-- Prints what is shown of a text with markup; a tag that fits nowhere ends the command. -/
def display (text : Except Console.Unmatched String) : Step Unit :=
  match text with
  | .ok shown => modify fun p => { p with printed := p.printed ++ shown }
  | .error _ => throw failureCode

def say (terminal : Terminal) (kind : Console.MessageKind) (message : String) : Step Unit :=
  display (Console.messageText terminal kind message)

def setWorkspace (w : Workspace) : Step Unit := modify fun p => { p with workspace := w }

def workspace : Step Workspace := Progress.workspace <$> get

/-- The root of the project: the one named, else the working directory. -/
def rootOf (settings : Settings) (w : Workspace) : Path := settings.projectRoot.getD w.directory

/-! ## Scanning -/

/-- The text of a file, whose lines may end in any way, or why it cannot be read. -/
def sourceText (w : Workspace) (path : Path) : Except String String :=
  match w.read path with
  | .error e => .error e.message
  | .ok bytes =>
    match Text.Utf8.decode bytes with
    | .ok cs => .ok (String.ofList (Text.unifyLines cs))
    | .error fault => .error fault.message

def writeBack (path : Path) (code : String) : Step Unit := do
  let w ← workspace
  match w.onDisk fun disk => disk.putFile (w.absolute path) (CatalogStore.bytesOf code) with
  | .ok w' => setWorkspace w'
  | .error _ => throw failureCode

/-- Scans a file; the row that tells of it, with the number of its texts, unless it has none. -/
def scanFile (terminal : Terminal) (settings : Settings) (write : Bool) (path : Path) :
    Step (Option (String × Nat)) := do
  let w ← workspace
  match sourceText w path with
  | .error reason =>
    say terminal .warning s!"Cannot read {path.toString}: {reason}"
    return none
  | .ok source =>
    let (result, w') := Scan.run w settings none path source
    setWorkspace w'
    if result.changed then
      if write then writeBack path result.code
      return some (path.toString, result.records.length)
    else return none

def scanTable (rows : List (String × Nat)) : Console.Table :=
  ⟨some "Scanned sources", ["File", "Strings"], rows.map fun row => [row.1, toString row.2]⟩

def scan (terminal : Terminal) (settings : Settings) (paths : List String) (write : Bool) : Step Unit := do
  let files := Project.sources (← workspace) settings (paths.map Path.ofString)
  if files.isEmpty then say terminal .warning "No JSX/TSX sources found"
  else
    let rows := (← files.mapM (scanFile terminal settings write)).filterMap id
    let total := (rows.map Prod.snd).foldl (· + ·) 0
    if total != 0 then display ((scanTable rows).text terminal)
    let verb := if write then "Rewrote" else "Scanned"
    say terminal .success s!"{verb} {files.length} files, extracted {total} strings"

/-! ## The other actions -/

def consolidate (terminal : Terminal) (settings : Settings) : Step Unit := do
  let w ← workspace
  let (report, w') := (Consolidation.ofProject settings (rootOf settings w)).run w
  setWorkspace w'
  if report.ran then
    say terminal .success (s!"Catalog holds {report.strings} strings ({report.preserved} with translations kept, " ++
      s!"{report.dropped} dropped, {report.stale} stale)")
    if report.skippedLines != 0 then say terminal .warning s!"Skipped {report.skippedLines} corrupt sink lines"
  else
    say terminal .warning "Catalog left unchanged"
    throw failureCode

def resolve (settings : Settings) (current : Locale) (key locale : String) : Step Unit := do
  let w ← workspace
  let (shown, _, w') := (Resolver.ofProject settings w).resolve w current key (some locale)
  setWorkspace w'
  match shown with
  | .ok text => echo text
  | .error _ => throw failureCode

/-- The row that tells how far a catalog is translated into a locale. -/
def coverageRow (c : Catalog) (locale : Locale) : List String :=
  let coverage := Coverage.ofCatalog c locale
  [locale.code, toString coverage.total, toString coverage.translated, toString coverage.pending,
    Console.coverageText coverage.percent]

/-- The table that tells how far a catalog is translated. -/
def coverageTable (file : Path) (c : Catalog) : Console.Table :=
  ⟨some file.name, ["Locale", "Total", "Translated", "Pending", "Coverage"], Locale.all.map (coverageRow c)⟩

def stats (terminal : Terminal) (settings : Settings) : Step Unit := do
  let w ← workspace
  let store := CatalogStore.ofProject settings (rootOf settings w)
  if store.isThere w then
    match store.load w with
    | .ok loaded => display ((coverageTable store.file loaded.catalog).text terminal)
    | .error .nesting => throw failureCode
    | .error failure =>
      say terminal .error failure.message
      throw failureCode
  else say terminal .info s!"No catalog at {store.file.toString}"

/-! ## Commands -/

def perform (terminal : Terminal) (settings : Settings) (current : Locale) : Action → Step Unit
  | .scan paths write => scan terminal settings paths write
  | .consolidate => consolidate terminal settings
  | .resolve key locale => resolve settings current key locale
  | .pseudo text => echo (Pseudo.render text)
  | .stats => stats terminal settings

/-- The settings of a command: the root of the project may be named, unless a file is there. -/
def settingsFor (settings : Settings) (w : Workspace) (root : Option String) : Option Settings :=
  match root with
  | none => some settings
  | some text =>
    let path := (Path.ofString text).resolved w.directory
    if w.isFile path then none else some { settings with projectRoot := some path }

/-- Whether everything that an action works on is there. -/
def isPossible (w : Workspace) : Action → Bool
  | .scan paths _ => paths.all fun p => !p.isEmpty && w.holds (Path.ofString p)
  | _ => true

/-- What a command leaves: its exit code, what it printed, how its log is set up, and the workspace. -/
structure Outcome where
  code : Nat
  printed : String
  setup : Event.LogSetup
  workspace : Workspace

/-- How a log is set up; color is for terminals. -/
def logSetup (settings : Settings) (level : Option String) (json colored : Bool) : Event.LogSetup :=
  let named := (level.filter fun l => !l.isEmpty).getD settings.logLevel.code
  ⟨Event.thresholdOf named, json, { Event.LineStyle.standard with colored }⟩

def versionText : String := "textmark 0.0.0"

/-- Runs what a command line asks for, with some settings in some locale. -/
def run (settings : Settings) (terminal : Terminal) (current : Locale) (w : Workspace) (arguments : List String) :
    Outcome :=
  let plainSetup := logSetup settings none false terminal.colored
  match Arguments.request? arguments with
  | none => ⟨usageCode, "", plainSetup, w⟩
  | some .version => ⟨0, versionText ++ "\n", plainSetup, w⟩
  | some .help => ⟨0, "", plainSetup, w⟩
  | some (.run command) =>
    let setup := logSetup settings command.logLevel command.jsonLog terminal.colored
    match settingsFor settings w command.projectRoot with
    | none => ⟨usageCode, "", setup, w⟩
    | some settings =>
      if isPossible w command.action then
        let (result, p) := (perform terminal settings current command.action).run.run ⟨"", w⟩
        ⟨match result with | .ok _ => 0 | .error code => code, p.printed, setup, p.workspace⟩
      else ⟨usageCode, "", setup, w⟩

end Command
end Phrasebook
