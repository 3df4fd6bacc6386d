import Phrasebook.Event.Basic
import Phrasebook.Locale.Basic

/-!
# The current locale

Every line of control is a lane with a current locale. It is set for good, or for a block of steps: after the block it
is what it was before, however the block ends. A new thread starts with the default locale, a new task with that of
the lane that makes it, and nothing done in one lane shows in another.
-/

namespace Phrasebook.Locale

/-- The supported locale that a request selects; any other value selects the default. -/
def coerce (asked : Json) : Locale :=
  match asked with
  | .string name => (ofCode? name).getD fallback
  | _ => fallback

def isSupported (asked : Json) : Bool :=
  match asked with
  | .string name => (ofCode? name).isSome
  | _ => false

/-- The failure of a request for a locale that is not supported. -/
def unknown (asked : Json) : Failure := .unknownLocale asked (codes.map Json.string)

/-- The events of a request: one if its locale is not supported. -/
def coercionEvents (asked : Json) : List Event :=
  if isSupported asked then [] else [.warning "Unknown locale, keeping default" (unknown asked).details]

/-- A line of control: its current locale, and those to go back to, innermost first. -/
structure Lane where
  current : Locale
  outer : List Locale
  deriving DecidableEq, Repr, Inhabited

namespace Lane

def thread : Lane := ⟨fallback, []⟩

def task (maker : Lane) : Lane := ⟨maker.current, []⟩

def set (lane : Lane) (asked : Json) : Lane := { lane with current := coerce asked }

/-- The lane at the start of a block with a locale of its own. -/
def enter (lane : Lane) (asked : Json) : Lane := ⟨coerce asked, lane.current :: lane.outer⟩

def leave (lane : Lane) : Lane :=
  match lane.outer with
  | before :: outer => ⟨before, outer⟩
  | [] => lane

end Lane

/-- What a lane can do. -/
inductive Act where
  | set (asked : Json)
  | enter (asked : Json)
  | leave
  /-- Starts a thread in the lane with some number. -/
  | startThread (number : Nat)
  /-- Starts a task in the lane with some number. -/
  | startTask (number : Nat)

/-- The lanes by their numbers. -/
abbrev Lanes := Nat → Lane

namespace Lanes

def update (lanes : Lanes) (number : Nat) (lane : Lane) : Lanes :=
  fun n => if n = number then lane else lanes n

/-- The lanes after one of them did something. -/
def perform (lanes : Lanes) (number : Nat) : Act → Lanes
  | .set asked => lanes.update number ((lanes number).set asked)
  | .enter asked => lanes.update number ((lanes number).enter asked)
  | .leave => lanes.update number (lanes number).leave
  | .startThread other => lanes.update other Lane.thread
  | .startTask other => lanes.update other (lanes number).task

end Lanes
end Phrasebook.Locale
