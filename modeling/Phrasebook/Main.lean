import Phrasebook.Command.Reach
import Phrasebook.Command.Run
import Phrasebook.Disk.Changes
import Phrasebook.Settings.Sources
import Std.Time.Format

/-!
# The program

Reads what a command can reach, runs it, and writes what it changed. The files in directories that are scanned are
listed on the standard input, one on a line.
-/

namespace Phrasebook.Program

/-- The number of the system error for reading a directory. -/
def directoryError : UInt32 := 21

/-- The width of a terminal that does not tell it. -/
def usualWidth : Nat := 80

def itemAt (path : Path) : IO (Option Item) := do
  match ← (IO.FS.readBinFile path.toString).toBaseIO with
  | .ok content => return some (.file content.toList)
  | .error (.inappropriateType _ code _) => return if code == directoryError then some .directory else none
  | .error _ => return none

/-- A disk with what stands at a path, and with the directories above it. -/
def load (disk : Disk) (path : Path) : IO Disk := do
  match ← itemAt path with
  | none => return disk
  | some item =>
    match disk.ensureDirectories path.parent with
    | .error _ => return disk
    | .ok disk => return if path.names.isEmpty then disk else disk.put path.names item

def apply (change : Change) : IO Unit := do
  let text := fun (place : Place) => "/" ++ "/".intercalate place
  match change with
  | .make place => IO.FS.createDirAll (text place)
  | .write place content =>
    IO.FS.createDirAll (text place.dropLast)
    IO.FS.writeBinFile (text place) ⟨content.toArray⟩
  | .remove place => IO.FS.removeFile (text place)

def twoDigits (n : Nat) : String := if n < 10 then s!"0{n}" else toString n

def clock : IO String := do
  let now ← Std.Time.Timestamp.now
  let second := (now.toSecondsSinceUnixEpoch.val % 86400).toNat
  return s!"{twoDigits (second / 3600)}:{twoDigits (second / 60 % 60)}:{twoDigits (second % 60)}"

/-- The variables of the environment that settings are read from. -/
def environment : IO (List (String × String)) := do
  let names := Settings.fieldNames.map fun field =>
    String.ofList ((Settings.variableStart ++ field).toList.map Char.toUpper)
  names.filterMapM fun name => do return (← IO.getEnv name).map fun value => (name, value)

/-- The settings of a program in a directory. -/
def settingsIn (directory : Path) : IO (Except Settings.Refusal Settings) := do
  let file := match ← itemAt (directory.child ".env") with
    | some (.file content) =>
      match Text.Utf8.decode content with
      | .ok cs => some (String.ofList cs)
      | .error _ => none
    | _ => none
  return Settings.load [] (← environment) file

/-- The names that are listed on the standard input, if a directory is to be scanned. -/
def listing (directory : Path) (command : Command) : IO (List String) := do
  let items ← (Command.pathsOf command.action).mapM fun p => itemAt ((Path.ofString p).resolved directory)
  if items.contains (some .directory) then
    let text ← (← IO.getStdin).readToEnd
    return ((Text.splitOn '\n' text.toList).map String.ofList).filter fun line => !line.isEmpty
  else return []

/-- The workspace of what a command line asks for. -/
def workspaceFor (settings : Settings) (directory : Path) (arguments : List String) : IO Workspace := do
  match Arguments.request? arguments with
  | some (.run command) =>
    let paths := Command.reach settings directory command (← listing directory command)
    return { disk := ← (directory :: paths).foldlM load [], directory, events := [] }
  | _ => return { disk := [], directory, events := [] }

/-- Runs a command line and answers the exit code. -/
def run (arguments : List String) : IO UInt32 := do
  let directory := Path.ofString (toString (← IO.currentDir))
  match ← settingsIn directory with
  | .error _ =>
    IO.eprintln "invalid settings"
    return 1
  | .ok settings =>
    let before ← workspaceFor settings directory arguments
    let colored := Event.colorsEnabled (← IO.getEnv "FORCE_COLOR") (← (← IO.getStderr).isTty)
    let width := ((← IO.getEnv "COLUMNS").bind String.toNat?).getD usualWidth
    let outcome := Command.run settings (.ofWidth colored width) Locale.fallback before arguments
    for change in before.disk.changes outcome.workspace.disk do
      apply change
    let time ← clock
    for e in outcome.workspace.events do
      if let some line := Event.logged outcome.setup time e.level.code e.text e.fields then
        IO.eprintln line
    if outcome.code == Command.usageCode then
      IO.eprintln "usage: textmark [--log-level LEVEL] [--json-logs] scan|consolidate|resolve|pseudo|stats ..."
    IO.print outcome.printed
    return outcome.code.toUInt32

end Phrasebook.Program

def main (arguments : List String) : IO UInt32 := Phrasebook.Program.run arguments
