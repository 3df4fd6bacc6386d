import Phrasebook.Command.Basic
import Phrasebook.Locale.Basic

/-!
# Arguments

The command line has options, the name of an action, then the options and values of the action in any order. A long
option takes its value after an equals sign or from the next argument. Short options may stand together, and one with
a value takes the rest of the argument. After two hyphens everything is a value.
-/

namespace Phrasebook.Arguments

/-- An option: its long name, its short one if it has one, and whether it takes a value. -/
structure Choice where
  long : String
  short : Option Char
  takesValue : Bool
  deriving DecidableEq, Repr

/-- Arguments as they were understood: options with their values in order, and everything else. -/
structure Parsed where
  chosen : List (String × String)
  values : List String
  deriving DecidableEq, Repr

def Parsed.value? (p : Parsed) (name : String) : Option String :=
  (p.chosen.reverse.find? fun c => c.1 == name).map Prod.snd

def Parsed.has (p : Parsed) (name : String) : Bool := (p.value? name).isSome

/-- A long option with the value that is attached to it. -/
def splitLong (argument : String) : String × Option String :=
  let cs := argument.toList
  let name := cs.takeWhile (· != '=')
  (String.ofList name, if name.length < cs.length then some (String.ofList (cs.drop (name.length + 1))) else none)

/-- What short options that stand together ask for: options without values, and maybe one with a value and what is left
for it. -/
def shortOptions (choices : List Choice) : List Char → Option (List String × Option (String × List Char))
  | [] => some ([], none)
  | c :: r =>
    match choices.find? fun choice => choice.short == some c with
    | none => none
    | some choice =>
      if choice.takesValue then some ([], some (choice.long, r))
      else (shortOptions choices r).map fun (names, last) => (choice.long :: names, last)

/-- What an argument that is an option asks for: options without values, and maybe the name of one with a value, with
the value if it is attached. -/
def optionsOf (choices : List Choice) (argument : String) : Option (List String × Option (String × Option String)) :=
  let (name, attached) := splitLong argument
  match choices.find? (·.long == name) with
  | some choice =>
    if choice.takesValue then some ([], some (choice.long, attached))
    else if attached.isSome then none
    else some ([choice.long], none)
  | none =>
    if argument.startsWith "--" then none
    else (shortOptions choices (argument.toList.drop 1)).map fun (names, last) =>
      (names, last.map fun (long, r) => (long, if r.isEmpty then none else some (String.ofList r)))

def isOption (argument : String) : Bool := argument.startsWith "-" && 1 < argument.length

/-- Reads arguments; `mixed` says whether options may follow values. -/
def parse (choices : List Choice) (mixed : Bool) : List String → Option Parsed
  | [] => some ⟨[], []⟩
  | a :: rest =>
    if a == "--" then some ⟨[], rest⟩
    else if isOption a then
      match optionsOf choices a with
      | none => none
      | some (names, last) =>
        let flags := names.map fun name => (name, "")
        match last, rest with
        | none, rest => (parse choices mixed rest).map fun p => ⟨flags ++ p.chosen, p.values⟩
        | some (name, some value), rest =>
          (parse choices mixed rest).map fun p => ⟨flags ++ (name, value) :: p.chosen, p.values⟩
        | some (name, none), value :: rest =>
          (parse choices mixed rest).map fun p => ⟨flags ++ (name, value) :: p.chosen, p.values⟩
        | some (_, none), [] => none
    else if mixed then (parse choices mixed rest).map fun p => ⟨p.chosen, a :: p.values⟩
    else some ⟨[], a :: rest⟩

def help : Choice := ⟨"--help", none, false⟩

/-- The option that names the root of the project. -/
def projectRoot : Choice := ⟨"--project-root", some 'r', true⟩

/-- The option that asks for sources to be written back. -/
def write : Choice := ⟨"--write", some 'w', false⟩

def locale : Choice := ⟨"--locale", some 'l', true⟩

/-- The option that names the least level of events that are logged. -/
def logLevel : Choice := ⟨"--log-level", none, true⟩

/-- The option that asks for the log as JSON. -/
def jsonLogs : Choice := ⟨"--json-logs", none, false⟩

def version : Choice := ⟨"--version", none, false⟩

/-- The options before the name of an action. -/
def commonChoices : List Choice := [logLevel, jsonLogs, version, help]

/-- The options of an action, if there is one of this name. -/
def choicesOf : String → Option (List Choice)
  | "scan" => some [write, projectRoot, help]
  | "consolidate" => some [projectRoot, help]
  | "resolve" => some [locale, projectRoot, help]
  | "pseudo" => some [help]
  | "stats" => some [projectRoot, help]
  | _ => none

/-- The action of a name, with its options and values. -/
def actionOf (name : String) (p : Parsed) : Option Action :=
  match name, p.values with
  | "scan", path :: paths => some (.scan (path :: paths) (p.has write.long))
  | "consolidate", [] => some .consolidate
  | "resolve", [key] => some (.resolve key ((p.value? locale.long).getD Locale.fallback.code))
  | "pseudo", [text] => some (.pseudo text)
  | "stats", [] => some .stats
  | _, _ => none

/-- What a command line asks for, if it can be understood. -/
def request? (arguments : List String) : Option Request :=
  match parse commonChoices false arguments with
  | none => none
  | some common =>
    match common.chosen.find? fun c => c.1 == version.long || c.1 == help.long with
    | some (name, _) => some (if name == version.long then .version else .help)
    | none =>
      match common.values with
      | [] => none
      | name :: rest =>
        match (choicesOf name).bind fun choices => parse choices true rest with
        | none => none
        | some own =>
          if own.has help.long then some .help
          else (actionOf name own).map fun action =>
            .run ⟨common.value? logLevel.long, common.has jsonLogs.long, action, own.value? projectRoot.long⟩

end Phrasebook.Arguments
