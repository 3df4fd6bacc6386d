import Phrasebook.Source.Grammar.Statements

/-!
# Source documents

A source is read as a whole or refused as a whole. What is read holds the characters of the source, all of them
and in order: `Document.ofChars?` checks it, and `Document.chars_eq` says so.
-/

namespace Phrasebook.Source

open Grammar Reader

/-- The rule for a goal, in terms of the others. -/
def rule : Goal → Rules → Reader
  | .statement, g => statement g
  | .declaration, g => declaration g
  | .block, g => block g
  | .expressions, g => expressions g
  | .expression, g => expression g true
  | .unannotated, g => expression g false
  | .operand, g => operand g true
  | .creation, g => creation g
  | .pattern, g => pattern g
  | .parameters, g => parameters g
  | .callSignature, g => callSignature g
  | .classBody, g => classBody g
  | .objectType, g => objectType g
  | .type, g => type g
  | .element, g => element g

/-- The rules, nested at most as deep as the number says. -/
def rules : Nat → Rules
  | 0 => fun _ => refuse
  | n + 1 => fun goal s c => rule goal (rules n) s c

/-- The first line of a script that names its interpreter. -/
def hashbangLine : Reader :=
  leaf .hashbang fun cs =>
    match cs with
    | '#' :: '!' :: r => some (Lexeme.ahead ['#', '!'] (Lexeme.spanChars (fun d => d != '\n') r))
    | _ => none

/-- All that is left once no statement comes any more, if that is only blanks and comments. -/
def sourceEnd : Reader := fun _ c =>
  if c.rest.isEmpty then some ([.leaf .plain .token c.before []], ⟨[], []⟩) else none

def sourceRule (depth : Nat) : Reader :=
  opt hashbangLine ++ statements (rules depth) ++ sourceEnd

/-- How deep rules may nest in a source of some length: each level but a few takes a character. -/
def depthFor (length : Nat) : Nat := 16 * (length + 4)

/-- A source that has been read. -/
structure Document where
  /-- The characters of the source. -/
  source : List Char
  /-- The statements and the blanks after them. -/
  trees : List Tree
  /-- Nothing of the source is lost. -/
  chars_eq : Tree.charsOf trees = source

def Document.ofChars? (dialect : Dialect) (source : List Char) : Option Document :=
  let limit := source.length + 1
  match sourceRule (depthFor limit) ⟨dialect, limit⟩ (Cursor.ofChars source) with
  | some (trees, _) =>
    if h : Tree.charsOf trees = source then some ⟨source, trees, h⟩ else none
  | none => none

end Phrasebook.Source
