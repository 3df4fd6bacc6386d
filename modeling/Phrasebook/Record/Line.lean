import Phrasebook.Failure
import Phrasebook.Json.Reader
import Phrasebook.Json.Writer
import Phrasebook.Record.Json
import Phrasebook.Text.Lines
import Phrasebook.Text.Utf8

/-!
# Records on lines

The log of extracted records holds one record a line, as compact JSON. Lines that hold no record are set aside with
their numbers; blank lines do not count.
-/

namespace Phrasebook.Record

/-- A record on a line, without the line end. -/
def lineText (r : Record) : String := Json.write .compact r.toJson

/-- The bytes of a record with its line end. -/
def lineBytes (r : Record) : List UInt8 := Text.Utf8.encode (r.lineText.toList ++ ['\n'])

def linesBytes (records : List Record) : List UInt8 := records.flatMap lineBytes

/-- How the number of faults in a line is worded. -/
def faultsMessage (faults : Nat) : String := s!"{faults} validation error(s)"

/-- The record of a text, or the number of faults in it; a text that is no JSON has one. -/
def ofText (cs : List Char) : Checked Record :=
  match Json.readStrict cs with
  | some j => ofJson j
  | none => .error 1

/-- The record on a line with some number. -/
def ofLine (number : Nat) (bytes : List UInt8) : Except Failure Record :=
  match Text.Utf8.decode bytes with
  | .error fault => .error (.line number ("invalid UTF-8: " ++ fault.reason.message))
  | .ok cs =>
    match ofText cs with
    | .ok r => .ok r
    | .error faults => .error (.line number (faultsMessage faults))

def lineEnd : UInt8 := 0x0a

def isBlankByte (b : UInt8) : Bool := b == 0x20 || (0x09 ≤ b && b ≤ 0x0d)

/-- The records of lines and the failures of the others, in order. -/
structure Log where
  records : List Record
  failures : List Failure
  deriving Repr

/-- The records of lines that are numbered from some number on. -/
def ofLines (number : Nat) : List (List UInt8) → Log
  | [] => ⟨[], []⟩
  | line :: rest =>
    let log := ofLines (number + 1) rest
    if line.all isBlankByte then log
    else match ofLine number line with
      | .ok r => ⟨r :: log.records, log.failures⟩
      | .error f => ⟨log.records, f :: log.failures⟩

def ofLog (bytes : List UInt8) : Log := ofLines 1 (Text.splitOn lineEnd bytes)

end Phrasebook.Record
