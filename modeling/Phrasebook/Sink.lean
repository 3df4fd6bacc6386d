import Phrasebook.Record.Line
import Phrasebook.Workspace

/-!
# The sink

The sink is a file that scans append their records to, one a line, and that a consolidation reads and removes.
-/

namespace Phrasebook.Sink

/-- Adds bytes to a sink; the directories above it are made. -/
def addBytes (w : Workspace) (sink : Path) (bytes : Bytes) : Except DiskError Workspace :=
  w.onDisk fun disk =>
    match disk.ensureDirectories (w.absolute sink).parent with
    | .ok disk' => disk'.append (w.absolute sink) bytes
    | .error e => .error e

def append (w : Workspace) (sink : Path) (records : List Record) : Except DiskError Workspace :=
  if records.isEmpty then .ok w else addBytes w sink (Record.linesBytes records)

/-- An append that breaks off after the first bytes, which stay in the sink. -/
def appendTorn (w : Workspace) (sink : Path) (records : List Record) (n : Nat) : Except DiskError Workspace :=
  if records.isEmpty then .ok w else addBytes w sink ((Record.linesBytes records).take n)

/-- How an append ends: with all records in the sink, or with a failure, which may come too late to leave the sink as it
was. -/
abbrev Ending := Workspace × Option DiskError

/-- An append where nothing but the disk itself can fail: one that fails changes nothing. -/
def appendWhole (w : Workspace) (sink : Path) (records : List Record) : Ending :=
  match append w sink records with
  | .ok w' => (w', none)
  | .error e => (w, some e)

/-- An append to a sink that the system lets be written up to so many bytes, if there is a limit, and that may be named
from a working directory that is gone. -/
def appendUpTo (limit : Option Nat) (w : Workspace) (sink : Path) (records : List Record) : Ending :=
  if records.isEmpty then (w, none)
  else
    match w.absolute? sink with
    | .error e => (w, some e)
    | .ok _ =>
      match limit.filter (· < (Record.linesBytes records).length) with
      | none => appendWhole w sink records
      | some n =>
        match appendTorn w sink records n with
        | .ok w' => (w', some .full)
        | .error e => (w, some e)

/-- The records in the sink, and the failures of the lines that hold none. -/
def read (w : Workspace) (sink : Path) : Except Failure Record.Log :=
  match w.read sink with
  | .ok bytes => .ok (Record.ofLog bytes)
  | .error e => .error (.storage sink.toString e.message)

def clear (w : Workspace) (sink : Path) : Except DiskError Workspace :=
  match w.onDisk fun disk => disk.removeFile (w.absolute sink) with
  | .error .missing => .ok w
  | other => other

end Phrasebook.Sink
