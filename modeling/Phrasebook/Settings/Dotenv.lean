import Phrasebook.Text.Blank
import Phrasebook.Text.Lines
import Phrasebook.Entries

/-!
# Variables in a file

A file of variables has a name and a value on each line, with an equals sign between them. Values may be quoted, lines
may start with `export`, comments start with a number sign. A value may refer to variables by their names in braces
after a dollar sign; those of the environment and of earlier lines count.
-/

namespace Phrasebook.Dotenv

open Text (isBlank)

def isLineBlank (c : Char) : Bool := isBlank c && c != '\n' && c != '\r'

def endsLine (c : Char) : Bool := c == '\n' || c == '\r'

/-- What follows a given text, if it is there. -/
def after? : List Char → List Char → Option (List Char)
  | [], cs => some cs
  | _ :: _, [] => none
  | x :: xs, c :: cs => if x == c then after? xs cs else none

/-- The text after the word that may stand before a name. -/
def skipExport (cs : List Char) : List Char :=
  match after? "export".toList cs with
  | some (c :: r) => if isLineBlank c then r.dropWhile isLineBlank else cs
  | _ => cs

/-- What was read with the text after it, or the text that could not be read. -/
abbrev Reading (α : Type) := Except (List Char) (α × List Char)

/-- The name of a variable; none before a comment. -/
def name (cs : List Char) : Reading (Option String) :=
  match cs with
  | '#' :: _ => .ok (none, cs)
  | '\'' :: r =>
    let inside := r.takeWhile (· != '\'')
    match r.dropWhile (· != '\'') with
    | '\'' :: rest => if inside.isEmpty then .error cs else .ok (some (String.ofList inside), rest)
    | _ => .error cs
  | _ =>
    let stop := fun c : Char => c == '=' || c == '#' || isBlank c
    let word := cs.takeWhile fun c => !stop c
    if word.isEmpty then .error cs else .ok (some (String.ofList word), cs.dropWhile fun c => !stop c)

/-- The characters up to a closing quote: a quote after a backslash does not close. -/
def quotedTail (quote : Char) : List Char → Option (List Char × List Char)
  | [] => none
  | '\\' :: c :: r =>
    if c == quote then (quotedTail quote r).map fun (i, rest) => ('\\' :: c :: i, rest)
    else (quotedTail quote (c :: r)).map fun (i, rest) => ('\\' :: i, rest)
  | c :: r => if c == quote then some ([], r) else (quotedTail quote r).map fun (i, rest) => (c :: i, rest)

/-- The character that a letter after a backslash stands for. -/
def escaped? (quote c : Char) : Option Char :=
  if c == '\\' || c == '\'' then some c
  else if quote == '\'' then none
  else if c == '"' then some c
  else if c == 'a' then some '\x07'
  else if c == 'b' then some '\x08'
  else if c == 'f' then some '\x0c'
  else if c == 'n' then some '\n'
  else if c == 'r' then some '\r'
  else if c == 't' then some '\t'
  else if c == 'v' then some '\x0b'
  else none

def unescape (quote : Char) : List Char → List Char
  | [] => []
  | '\\' :: c :: r =>
    match escaped? quote c with
    | some e => e :: unescape quote r
    | none => '\\' :: unescape quote (c :: r)
  | c :: r => c :: unescape quote r

/-- A value without quotes, up to a comment that stands after a blank. -/
def beforeComment : List Char → List Char
  | [] => []
  | c :: r =>
    if isBlank c && (r.dropWhile isBlank).head? == some '#' then [] else c :: beforeComment r

def value (cs : List Char) : Reading String :=
  let quotedValue := fun (quote : Char) (r : List Char) =>
    match quotedTail quote r with
    | some (inside, rest) => Except.ok (String.ofList (unescape quote inside), rest)
    | none => Except.error cs
  match cs with
  | '\'' :: r => quotedValue '\'' r
  | '"' :: r => quotedValue '"' r
  | _ =>
    let line := cs.takeWhile fun c => !endsLine c
    .ok (String.ofList (Text.trimEnd (beforeComment line)), cs.dropWhile fun c => !endsLine c)

/-- The text after a comment, if there is one, and the end of the line. -/
def lineEnd (cs : List Char) : Except (List Char) (List Char) :=
  let blanks := cs.dropWhile isLineBlank
  let rest := if blanks.head? == some '#' then blanks.dropWhile fun c => !endsLine c else cs
  match rest.dropWhile isLineBlank with
  | [] => .ok []
  | c :: r => if endsLine c then .ok r else .error rest

/-- One line: a name with its value, if it has both. -/
def binding (cs : List Char) : Except (List Char) (Option (String × String) × List Char) := do
  let (key, rest) ← name (skipExport cs)
  match rest.dropWhile isLineBlank with
  | '=' :: r =>
    let (v, rest) ← value (r.dropWhile isLineBlank)
    let rest ← lineEnd rest
    return (key.map (·, v), rest)
  | rest =>
    let rest ← lineEnd rest
    return (none, rest)

/-- All variables of a text with their values as written; lines that cannot be read are left out. -/
def bindings : Nat → List Char → List (String × String)
  | 0, _ => []
  | n + 1, cs =>
    match cs.dropWhile isBlank with
    | [] => []
    | cs' =>
      match binding cs' with
      | .ok (some b, rest) => b :: bindings n rest
      | .ok (none, rest) => bindings n rest
      | .error rest => bindings n ((rest.dropWhile fun c => !endsLine c).drop 1)

/-- The reference to a variable after a dollar sign and a brace: its name, its default, and its length. -/
def reference (cs : List Char) : Option (String × Option String × Nat) :=
  let name := cs.takeWhile fun c => c != '}' && c != ':'
  match cs.dropWhile fun c => c != '}' && c != ':' with
  | '}' :: _ => some (String.ofList name, none, name.length + 1)
  | ':' :: '-' :: r =>
    let absent := r.takeWhile (· != '}')
    match r.dropWhile (· != '}') with
    | '}' :: _ => some (String.ofList name, some (String.ofList absent), name.length + absent.length + 3)
    | _ => none
  | _ => none

/-- A value with the variables it refers to put in, after leaving out characters of a reference already replaced. -/
def expand (known : Entries String String) : (skipped : Nat) → List Char → List Char
  | _, [] => []
  | n + 1, _ :: r => expand known n r
  | 0, '$' :: '{' :: r =>
    match reference r with
    | some (name, absent, length) =>
      (((known.get? name).or absent).getD "").toList ++ expand known (length + 1) ('{' :: r)
    | none => '$' :: expand known 0 ('{' :: r)
  | 0, c :: r => c :: expand known 0 r

/-- The variables of a text, given those of the environment; earlier lines count for later ones. -/
def definitions (environment : Entries String String) (text : String) : Entries String String :=
  let lines := Text.unifyLines text.toList
  (bindings (lines.length + 1) lines).foldl
    (fun found b => found.put b.1 (String.ofList (expand (environment.putAll found) 0 b.2.toList))) []

end Phrasebook.Dotenv
