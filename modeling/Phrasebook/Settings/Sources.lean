import Phrasebook.Settings.Basic
import Phrasebook.Settings.Dotenv
import Phrasebook.Json.Reader

/-!
# Where settings come from

Settings are given directly, by variables of the environment, or by variables in a file; the first of these counts. The
variables are named after the fields with a common start, in any letter case; those of lists hold JSON.
-/

namespace Phrasebook.Settings

/-- Why settings cannot be had. -/
inductive Refusal where
  /-- A variable that should hold a list holds no JSON. -/
  | notJson (field : String)
  /-- A number of values cannot be read. -/
  | invalid (faults : Nat)
  deriving DecidableEq, Repr

def variableStart : String := "textmark_"

/-- The value of a field in variables, by its name in lower case. -/
def valueOf? (name : String) (known : Entries String String) : Option String :=
  known.foldl
    (fun found v => if Text.lowerString v.1 == variableStart ++ name then some v.2 else found) none

def membersOf (known : Entries String String) : List String → Except Refusal (List (String × Json))
  | [] => .ok []
  | name :: names =>
    match valueOf? name known with
    | none => membersOf known names
    | some text =>
      let value : Except Refusal Json :=
        if listFields.contains name then
          match Json.read text with
          | .ok j => .ok j
          | .error _ => .error (.notJson name)
        else .ok (.string text)
      match value, membersOf known names with
      | .error e, _ => .error e
      | _, .error e => .error e
      | .ok j, .ok ms => .ok ((name, j) :: ms)

/-- The settings from all sources; `file` is the text of the file of variables, if there is one. -/
def load (values : List (String × Json)) (environment : Entries String String) (file : Option String) :
    Except Refusal Settings :=
  match membersOf environment fieldNames with
  | .error e => .error e
  | .ok fromEnvironment =>
    match membersOf (Dotenv.definitions environment (file.getD "")) fieldNames with
    | .error e => .error e
    | .ok fromFile =>
      match ofMembers (fromFile ++ fromEnvironment ++ values) with
      | .ok s => .ok s
      | .error n => .error (.invalid n)

end Phrasebook.Settings
