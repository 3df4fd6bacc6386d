import Phrasebook.Catalog.Basic
import Phrasebook.Json.Limits
import Phrasebook.Text.Lines
import Phrasebook.Text.Utf8

/-!
# Reading a catalog

The bytes of a catalog file as a catalog, or the reason why they are none. A text in a catalog may hold halves of
surrogate pairs; they are read as marks, and what they damage is told, because it cannot be written again.
-/

namespace Phrasebook.Catalog

/-- A part of an entry. -/
inductive Part where
  | text
  | context
  | translation (locale : String)
  deriving DecidableEq, Repr

/-- A part of the entry of a key that holds halves of surrogate pairs. -/
structure Damage where
  key : String
  part : Part
  deriving DecidableEq, Repr

/-- A catalog as it was read. -/
structure Loaded where
  catalog : Catalog
  damage : List Damage
  deriving Repr

/-- Whether a value is a string with halves of surrogate pairs. -/
def isBroken : Json → Bool
  | .broken _ => true
  | _ => false

def damageOf (key : String) (entry : Json) : List Damage :=
  let textMember := (entry.get? "text").or (entry.get? "source_text")
  let contextMembers := match entry.get? "context" with | some (.object ms) => ms | _ => []
  let slots := match entry.get? "translations" with | some (.object ms) => ms | _ => []
  (if textMember.any isBroken then [⟨key, .text⟩] else []) ++
    (if contextMembers.any fun m => isBroken m.2 then [⟨key, .context⟩] else []) ++
    (slots.filter fun m => isBroken m.2).map fun m => ⟨key, .translation m.1⟩

/-- Why bytes are no catalog. -/
inductive Complaint where
  | encoding (fault : Text.Utf8.Fault)
  | json (obstacle : Json.Obstacle)
  | notAnObject
  | entries (faults : Nat)
  deriving Repr

def Complaint.message : Complaint → String
  | encoding fault => "invalid JSON: " ++ fault.message
  | json obstacle => "invalid JSON: " ++ obstacle.message
  | notAnObject => "top-level value is not an object"
  | entries faults => s!"{faults} invalid entries"

/-- The entries of an object; the first that is no record is complained about. -/
def entriesOf : List (String × Json) → Except Complaint Catalog
  | [] => .ok []
  | (key, j) :: rest =>
    match Record.ofJson j with
    | .error faults => .error (.entries faults)
    | .ok r =>
      match entriesOf rest with
      | .ok c => .ok ((key, r) :: c)
      | .error e => .error e

def ofJson : Json → Except Complaint Loaded
  | .object members =>
    let members := Entries.ofList members
    match entriesOf members with
    | .ok c => .ok ⟨c, members.flatMap fun m => damageOf m.1 m.2⟩
    | .error e => .error e
  | _ => .error .notAnObject

/-- The catalog of the bytes of a file, whose lines may end in any way. -/
def ofBytes (room : Json.Room) (bytes : List UInt8) : Except Complaint Loaded :=
  match Text.Utf8.decode bytes with
  | .error fault => .error (.encoding fault)
  | .ok cs =>
    match Json.readWithin room (String.ofList (Text.unifyLines cs)) with
    | .error obstacle => .error (.json obstacle)
    | .ok j => ofJson j

end Phrasebook.Catalog
