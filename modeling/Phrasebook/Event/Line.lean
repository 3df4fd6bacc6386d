import Phrasebook.Entries
import Phrasebook.Event.Basic
import Phrasebook.Json.Shown
import Phrasebook.Text.Blank
import Phrasebook.Text.Lines
import Phrasebook.Text.Case

/-!
# Events on lines

An event is shown on one line: tool, time, level and text with bars between them, then the fields. The trace of a
failure follows on lines of its own, set in, with its last frames only.
-/

namespace Phrasebook.Event

/-! ## Colors -/

def colorStart (red green blue : Nat) : String := s!"\x1b[38;2;{red};{green};{blue}m"

def colorEnd : String := "\x1b[0m"

/-- The colors of lines. -/
inductive Color where
  | teal
  | amber
  | rose
  | violet
  | lime
  | slate
  deriving DecidableEq, Repr

def Color.start : Color → String
  | teal => colorStart 94 234 212
  | amber => colorStart 251 191 36
  | rose => colorStart 251 113 133
  | violet => colorStart 167 139 250
  | lime => colorStart 163 230 53
  | slate => colorStart 100 116 139

def Color.paint (c : Color) (text : String) : String := c.start ++ text ++ colorEnd

/-- A text in a color, if lines are colored. -/
def painted (colored : Bool) (c : Color) (text : String) : String := if colored then c.paint text else text

/-- The color of a level, by its name. -/
def levelColor : String → Color
  | "debug" => .slate
  | "info" => .teal
  | "warning" => .amber
  | "warn" => .amber
  | "error" => .rose
  | "exception" => .rose
  | "critical" => .violet
  | _ => .teal

/-- Whether lines are colored: what the environment asks for counts, else whether the stream is a terminal. -/
def colorsEnabled (forced : Option String) (terminal : Bool) : Bool :=
  match forced with
  | none => terminal
  | some f => if f.isEmpty then terminal else f != "0" && f != "false"

/-! ## Fields -/

/-- How lines are laid out. -/
structure LineStyle where
  tool : String
  colored : Bool
  maxFrames : Int
  showTool : Bool

/-- How lines are laid out unless something else is asked for. -/
def LineStyle.standard : LineStyle := ⟨"textmark", false, 5, true⟩

def fieldText (colored : Bool) (name : String) (value : Json) : String :=
  let plain := value.shown
  let painted :=
    if colored then
      match value with
      | .bool b => (if b then Color.lime else Color.rose).paint plain
      | .integer _ => Color.amber.paint plain
      | .decimal _ => Color.amber.paint plain
      | _ => plain
    else plain
  name ++ "=" ++ painted

/-- Whether a field is shown: its name is not private and its value is something. -/
def isShown (field : String × Json) : Bool :=
  !field.1.startsWith "_" && match field.2 with | .null => false | _ => true

def fieldsText (colored : Bool) (fields : List (String × Json)) : String :=
  let joined := " ".intercalate ((fields.filter isShown).map fun f => fieldText colored f.1 f.2)
  if colored && !joined.isEmpty then Color.slate.paint joined else joined

/-! ## Traces -/

/-- One call on the way to a failure. -/
structure Frame where
  file : String
  line : Int
  function : String
  deriving DecidableEq, Repr

/-- A kind of failure by the module that it comes from and its name there: those that are built in go by the name. -/
def qualified (origin : Option String) (name : String) : String :=
  match origin with
  | none => name
  | some origin => if origin == "builtins" then name else origin ++ "." ++ name

/-- The calls on the way to a failure, outermost first, with the kind of the failure and its wording. -/
structure Trace where
  kind : String
  message : String
  frames : List Frame
  deriving Repr

def frameText (f : Frame) : String := s!"  File \"{f.file}\", line {f.line}, in {f.function}\n"

/-- Of frames that repeat, this many are shown. -/
def repeatLimit : Nat := 3

/-- The line for frames that repeat more often than is shown. -/
def repeatText (count : Nat) : List String :=
  if repeatLimit < count then
    let more := count - repeatLimit
    [s!"  [Previous line repeated {more} more time" ++ (if 1 < more then "s" else "") ++ "]\n"]
  else []

/-- The lines of frames, after a frame that has come a number of times. -/
def frameLines (last : Option Frame) (count : Nat) : List Frame → List String
  | [] => repeatText count
  | f :: fs =>
    if last == some f then
      if count < repeatLimit then frameText f :: frameLines last (count + 1) fs
      else frameLines last (count + 1) fs
    else repeatText count ++ frameText f :: frameLines (some f) 1 fs

/-- The line in place of the frames that are left out. -/
def truncationMark : String := "  ... (truncated)\n"

/-- The last of some lines with a mark before them, if there are more than a number; a number that is not positive
leaves out as many lines from the front. -/
def lastLines (most : Int) (lines : List String) : List String :=
  if most < lines.length then
    truncationMark :: if 0 < most then lines.drop (lines.length - most.toNat) else lines.drop most.natAbs
  else lines

def inset : String := "         "

def insetText (cs : List Char) : String :=
  "\n".intercalate ((Text.splitOn '\n' cs).map fun l => inset ++ String.ofList l)

/-- A failure below a line: its kind and its wording, then the last lines of its trace. -/
def failureText (style : LineStyle) (kind message : String) (formatted : List String) : String :=
  let body := Text.trimEnd (String.join (lastLines style.maxFrames formatted)).toList
  inset ++ painted style.colored .rose (kind ++ ": " ++ message) ++ "\n" ++
    painted style.colored .slate (insetText body)

def traceText (style : LineStyle) (t : Trace) : String :=
  failureText style t.kind t.message (frameLines none 0 t.frames)

/-! ## Lines -/

def padded (width : Nat) (text : String) : String := text ++ "".pushn ' ' (width - text.length)

/-- The name under which a level is shown. -/
def levelText (level : String) : String :=
  let lower := Text.lowerString level
  if lower == "warning" then "warn" else lower

/-- The line of an event, with its trace below. -/
def lineText (style : LineStyle) (time level text : String) (fields : List (String × Json)) (trace : Option Trace) :
    String :=
  let level := levelText level
  let parts :=
    if style.colored then
      [Color.violet.paint style.tool, Color.slate.paint time, (levelColor level).paint (padded 5 level), text]
    else [style.tool, time, padded 5 level, text]
  let line := " | ".intercalate (if style.showTool then parts else parts.drop 1)
  let shown := fieldsText style.colored fields
  let line := if shown.isEmpty then line else line ++ " " ++ shown
  match trace with
  | some t => line ++ "\n" ++ traceText style t
  | none => line

/-! ## Events -/

/-- The names under which an event holds what is no field. -/
def partNames : List String := ["timestamp", "level", "event", "exc_info"]

/-- The time of an event: its own if there is something in it, else that of the clock. -/
def timeOf (clock : String) (event : Entries String Json) : Json :=
  match event.get? "timestamp" with
  | some time => if time.isTruthy then time else .string clock
  | none => .string clock

/-- The level of an event: its own, else the name of the way it was logged in. -/
def levelOf (method : String) (event : Entries String Json) : Json := (event.get? "level").getD (.string method)

def wordingOf (event : Entries String Json) : Json := (event.get? "event").getD (.string "")

def fieldsOf (event : Entries String Json) : List (String × Json) := event.filter fun m => !partNames.contains m.1

/-- Why an event has no line. -/
inductive Unshowable where
  /-- Its level is no text: there is no lower case of it. -/
  | level
  /-- Its time is no text: between bars there are texts, and without colors it is put there as it is. -/
  | time
  deriving DecidableEq, Repr

/-- The line of an event, with the trace of its failure below. -/
def render (style : LineStyle) (clock method : String) (event : Entries String Json) (trace : Option Trace) :
    Except Unshowable String :=
  let time := timeOf clock event
  match (levelOf method event).text? with
  | none => .error .level
  | some level =>
    if style.colored || time.text?.isSome then
      .ok (lineText style time.shown level (wordingOf event).shown (fieldsOf event) trace)
    else .error .time

end Phrasebook.Event
