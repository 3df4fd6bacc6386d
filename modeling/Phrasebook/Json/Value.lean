import Phrasebook.Decimal.Binary64

/-!
# JSON values

Values as they are written: the members of an object keep their order, and a name may come twice. `get?` answers the
last member of a name, `unique` leaves each name its first place and its last value.
-/

namespace Phrasebook

open Decimal (Binary64)

/-- A JSON value. -/
inductive Json where
  | null
  | bool (value : Bool)
  /-- A number without point and exponent. -/
  | integer (value : Int)
  /-- Any other number. -/
  | decimal (value : Binary64)
  | string (value : String)
  /-- A string with halves of surrogate pairs in it, each replaced by a mark: it is no text and cannot be written. -/
  | broken (value : String)
  | array (items : List Json)
  | object (members : List (String × Json))
  deriving Repr, Inhabited

namespace Json

def member? (name : String) (members : List (String × Json)) : Option Json :=
  members.foldl (fun found m => if m.1 == name then some m.2 else found) none

/-- The last member of a name, if the value is an object. -/
def get? (name : String) : Json → Option Json
  | object members => member? name members
  | _ => none

/-- Whether a value counts as something: not null, not false, not zero, not empty. -/
def isTruthy : Json → Bool
  | null => false
  | bool b => b
  | integer n => n != 0
  | decimal x => !x.isZero
  | string s => !s.isEmpty
  | broken _ => true
  | array items => !items.isEmpty
  | object members => !members.isEmpty

mutual
def depth : Json → Nat
  | array items => depthOfAll items + 1
  | object members => depthOfMembers members + 1
  | _ => 0
/-- How deep the deepest of some values is nested. -/
def depthOfAll : List Json → Nat
  | [] => 0
  | j :: js => max (depth j) (depthOfAll js)
/-- How deep the deepest of some members is nested. -/
def depthOfMembers : List (String × Json) → Nat
  | [] => 0
  | (_, j) :: ms => max (depth j) (depthOfMembers ms)
end

end Json
end Phrasebook
