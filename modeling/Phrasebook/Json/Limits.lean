import Phrasebook.Json.Reader

/-!
# Limits of reading

A list or an object within another takes one more call to read, and the calls that are possible at one time are limited;
so is the number of digits of a whole number. A text that goes beyond a limit is not read, whatever comes after that: the
reading breaks off there, before it can find a fault that stands further on.
-/

namespace Phrasebook.Json

/-- How deep values may be nested. It depends on the calls that are under way, but there is always enough of it for what
the library writes. -/
structure Room where
  depth : Nat
  ample : 3 ≤ depth
  deriving Repr

namespace Room

/-- The room of a program that does little else. -/
def usual : Room := ⟨990, by decide⟩

instance : Inhabited Room := ⟨usual⟩

end Room

/-- The digits that a whole number may have. -/
def maxDigits : Nat := 4300

/-- What goes beyond a limit. -/
inductive Excess where
  | nesting
  | digits (count : Nat)
  deriving DecidableEq, Repr

def Excess.message : Excess → String
  | nesting => "maximum recursion depth exceeded"
  | digits count =>
    s!"Exceeds the limit ({maxDigits} digits) for integer string conversion: value has {count} digits; " ++
      "use sys.set_int_max_str_digits() to increase the limit"

/-- Where a reader is with respect to strings. -/
inductive Place where
  | outside
  | inside
  /-- After a backslash in a string. -/
  | escaped
  deriving DecidableEq, Repr

/-- How many digits a whole number is written with. -/
def digitCount : Json → Nat
  | integer n => (toString n.natAbs).length
  | _ => 0

/-- The first thing in a text that goes beyond a limit, after leaving out characters of a number already seen; so many
brackets are open. -/
def excess? (room : Room) : (opened taken : Nat) → Place → List Char → Option Excess
  | _, _, _, [] => none
  | opened, n + 1, place, _ :: r => excess? room opened n place r
  | opened, 0, .inside, c :: r =>
    excess? room opened 0 (if c == '"' then .outside else if c == '\\' then .escaped else .inside) r
  | opened, 0, .escaped, _ :: r => excess? room opened 0 .inside r
  | opened, 0, .outside, c :: r =>
    if c == '"' then excess? room opened 0 .inside r
    else if c == '{' || c == '[' then
      if opened < room.depth then excess? room (opened + 1) 0 .outside r else some .nesting
    else if c == '}' || c == ']' then excess? room (opened - 1) 0 .outside r
    else
      match number? (c :: r) with
      | some (number, left) =>
        if digitCount number ≤ maxDigits then excess? room opened (r.length - left.length) .outside r
        else some (.digits (digitCount number))
      | none => excess? room opened 0 .outside r

/-- Why a text is not read: it has a fault, or goes beyond a limit. -/
inductive Obstacle where
  | fault (fault : Fault)
  | excess (excess : Excess)
  deriving DecidableEq, Repr

def Obstacle.message : Obstacle → String
  | fault f => f.message
  | excess e => e.message

/-- A text as one value, or why it is not read. Of a text with a fault only what stands before it counts. -/
def readWithin (room : Room) (source : String) : Except Obstacle Json :=
  let cs := source.toList
  let result := readChars cs
  let reached := match result with
    | .ok _ => cs
    | .error r => cs.take (cs.length - r.left.length)
  match excess? room 0 0 .outside reached with
  | some e => .error (.excess e)
  | none =>
    match result with
    | .ok j => .ok j
    | .error r => .error (.fault (r.locate cs))

end Phrasebook.Json
