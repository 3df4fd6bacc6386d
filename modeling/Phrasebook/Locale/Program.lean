import Phrasebook.Locale.Lane
import Phrasebook.Resolver

/-!
# Lines of control

What a program does to the current locale, step by step. Lines of control are threads and tasks; each has a lane, and
their steps come in any order. A block with a locale of its own is left at its end or by a failure, which ends every
block up to one where failures are handled. A choice that a program makes on what it sees is not written: what it did is
the program that does just that.
-/

namespace Phrasebook.Locale

/-- What a line of control does. -/
inductive Program where
  | done
  | fail
  | set (asked : Json) (rest : Program)
  | lookup (key : String) (asked : Option String) (rest : Program)
  /-- A block with a locale of its own. -/
  | scope (asked : Json) (body rest : Program)
  /-- A block whose failure is handled. -/
  | attempt (body rest : Program)
  /-- Starts a thread. -/
  | thread (body rest : Program)
  /-- Starts a task. -/
  | task (body rest : Program)
  deriving Inhabited

/-- A block that was entered, with what comes after it. -/
inductive Frame where
  | scope (rest : Program)
  | attempt (rest : Program)

/-- What is left of a line of control: the rest of the innermost block, and the blocks around it, innermost first. -/
structure Control where
  todo : Program
  frames : List Frame

/-- What one step does. -/
inductive Effect where
  | nothing
  | set (asked : Json)
  | enter (asked : Json)
  | leave
  | lookup (key : String) (asked : Option String)
  | thread (body : Program)
  | task (body : Program)

namespace Control

/-- The control of a line that does all of a program. -/
def start (program : Program) : Control := ⟨program, []⟩

/-- One step, and what is left after it. A line of control is over at its end, or when it fails outside every block. -/
def next : Control → Option (Effect × Control)
  | ⟨.done, []⟩ => none
  | ⟨.done, .scope rest :: frames⟩ => some (.leave, ⟨rest, frames⟩)
  | ⟨.done, .attempt rest :: frames⟩ => some (.nothing, ⟨rest, frames⟩)
  | ⟨.fail, []⟩ => none
  | ⟨.fail, .scope _ :: frames⟩ => some (.leave, ⟨.fail, frames⟩)
  | ⟨.fail, .attempt rest :: frames⟩ => some (.nothing, ⟨rest, frames⟩)
  | ⟨.set asked rest, frames⟩ => some (.set asked, ⟨rest, frames⟩)
  | ⟨.lookup key asked rest, frames⟩ => some (.lookup key asked, ⟨rest, frames⟩)
  | ⟨.scope asked body rest, frames⟩ => some (.enter asked, ⟨body, .scope rest :: frames⟩)
  | ⟨.attempt body rest, frames⟩ => some (.nothing, ⟨body, .attempt rest :: frames⟩)
  | ⟨.thread body rest, frames⟩ => some (.thread body, ⟨rest, frames⟩)
  | ⟨.task body rest, frames⟩ => some (.task body, ⟨rest, frames⟩)

end Control

/-- What is seen of a line of control outside it. -/
inductive Observation where
  /-- A lookup, with the locale it used. -/
  | looked (key locale : String)
  /-- A thread was started. -/
  | thread (program : Program)
  /-- A task was started, with the current locale it starts with. -/
  | task (program : Program) (start : Locale)

/-- A line of control: the program it does, the current locale it started with, and what is left of it. -/
structure Worker where
  program : Program
  start : Locale
  control : Control

/-- All lines of control by their numbers, their lanes, and what was seen of which line. -/
structure Machine where
  lanes : Lanes
  workers : List Worker
  log : List (Nat × Observation)

namespace Machine

/-- The start of a program in the first thread. -/
def init (program : Program) : Machine :=
  ⟨fun _ => Lane.thread, [⟨program, Lane.thread.current, .start program⟩], []⟩

/-- A new line of control, started by another one. -/
def begin (m : Machine) (number : Nat) (act : Nat → Act) (body : Program) (observation : Locale → Observation) : Machine :=
  let lanes := m.lanes.perform number (act m.workers.length)
  let start := (lanes m.workers.length).current
  ⟨lanes, m.workers ++ [⟨body, start, .start body⟩], m.log ++ [(number, observation start)]⟩

/-- What a step of a line of control does. -/
def perform (m : Machine) (number : Nat) : Effect → Machine
  | .nothing => m
  | .set asked => { m with lanes := m.lanes.perform number (.set asked) }
  | .enter asked => { m with lanes := m.lanes.perform number (.enter asked) }
  | .leave => { m with lanes := m.lanes.perform number .leave }
  | .lookup key asked =>
    { m with log := m.log ++ [(number, .looked key (Resolver.requested asked (m.lanes number).current))] }
  | .thread body => m.begin number .startThread body fun _ => .thread body
  | .task body => m.begin number .startTask body fun start => .task body start

/-- One step of the line of control with some number; there may be none, or it may be over. -/
def step (m : Machine) (number : Nat) : Machine :=
  match m.workers[number]? with
  | none => m
  | some worker =>
    match worker.control.next with
    | none => m
    | some (effect, control) =>
      { m with workers := m.workers.set number { worker with control } }.perform number effect

/-- A program after steps of its lines of control in some order. -/
def run (program : Program) (order : List Nat) : Machine := order.foldl step (init program)

/-- What was seen of one line of control. -/
def own (m : Machine) (number : Nat) : List Observation := (m.log.filter (·.1 = number)).map (·.2)

end Machine
end Phrasebook.Locale
