import Phrasebook.Record.Basic
import Phrasebook.Json.Value

/-!
# Records as JSON

A record is an object with the members `text`, `hash`, `translations`, `context` and, if it is set, `stale`. Reading is
lenient: two members may go by other names, parts may be missing, and unknown members do not matter. What cannot be read
is counted.
-/

namespace Phrasebook

namespace Context

def toJson (c : Context) : Json :=
  .object [("file", .string c.file), ("component", .string c.component), ("path", .string c.path)]

end Context

namespace Record

def toJson (r : Record) : Json :=
  .object <|
    [("text", .string r.text), ("hash", .string r.key),
      ("translations", .object (r.translations.map fun slot => (slot.1, .string slot.2))),
      ("context", r.context.toJson)] ++
    match r.stale with
    | some b => [("stale", .bool b)]
    | none => []

/-! ## Reading

A part is read as a value or as the number of faults in it; the faults of all parts add up. -/

/-- A value, or a number of faults. -/
abbrev Checked (α : Type) := Except Nat α

/-- Two parts together: the faults of both count. -/
def both {α β : Type} (a : Checked α) (b : Checked β) : Checked (α × β) :=
  match a, b with
  | .ok x, .ok y => .ok (x, y)
  | .error n, .ok _ => .error n
  | .ok _, .error m => .error m
  | .error n, .error m => .error (n + m)

/-- A string; halves of surrogate pairs may be in it. -/
def checkString : Json → Checked String
  | .string s => .ok s
  | .broken s => .ok s
  | _ => .error 1

def requireString : Option Json → Checked String
  | some j => checkString j
  | none => .error 1

def optionalString (absent : String) : Option Json → Checked String
  | some j => checkString j
  | none => .ok absent

def requireKey : Option Json → Checked String
  | some (.string s) => if s.isEmpty then .error 1 else .ok s
  | _ => .error 1

def checkSlots : List (String × Json) → Checked (List (String × String))
  | [] => .ok []
  | (name, j) :: rest =>
    match both (checkString j) (checkSlots rest) with
    | .ok (s, slots) => .ok ((name, s) :: slots)
    | .error n => .error n

def checkTranslations : Option Json → Checked (Entries String String)
  | none => .ok []
  | some (.object members) => checkSlots (Entries.ofList members)
  | some _ => .error 1

/-- The default for a component that is not named. -/
def defaultComponent : String := "default"

/-- The path of a text that is in no named element. -/
def rootPath : String := "root"

def checkContext : Option Json → Checked Context
  | some (.object members) =>
    match both (requireString (Json.member? "file" members))
        (both (optionalString defaultComponent (Json.member? "component" members))
          (optionalString rootPath (Json.member? "path" members))) with
    | .ok (file, component, path) => .ok ⟨file, component, path⟩
    | .error n => .error n
  | _ => .error 1

def flagWords : List (String × Bool) :=
  [("0", false), ("off", false), ("f", false), ("false", false), ("n", false), ("no", false), ("1", true),
    ("on", true), ("t", true), ("true", true), ("y", true), ("yes", true)]

/-- A text as yes or no, in any letter case. -/
def flagOfWord? (s : String) : Option Bool :=
  (flagWords.find? fun w => w.1 == String.ofList (s.toList.map Char.toLower)).map Prod.snd

def checkFlag : Json → Checked Bool
  | .bool b => .ok b
  | .integer n => if n == 0 then .ok false else if n == 1 then .ok true else .error 1
  | .decimal x => if x.isZero then .ok false else if x.isOne then .ok true else .error 1
  | .string s =>
    match flagOfWord? s with
    | some b => .ok b
    | none => .error 1
  | _ => .error 1

/-- The mark of a stale record; null is the same as nothing. -/
def checkStale : Option Json → Checked (Option Bool)
  | none => .ok none
  | some .null => .ok none
  | some j => (checkFlag j).map some

/-- A record, or the number of faults in it. -/
def ofJson : Json → Checked Record
  | .object members =>
    let text := requireString ((Json.member? "text" members).or (Json.member? "source_text" members))
    let key := requireKey ((Json.member? "hash" members).or (Json.member? "key" members))
    let translations := checkTranslations (Json.member? "translations" members)
    let context := checkContext (Json.member? "context" members)
    let stale := checkStale (Json.member? "stale" members)
    match both text (both key (both translations (both context stale))) with
    | .ok (text, key, translations, context, stale) => .ok (make text key translations context stale)
    | .error n => .error n
  | _ => .error 1

end Record
end Phrasebook
