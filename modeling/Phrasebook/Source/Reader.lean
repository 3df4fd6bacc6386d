import Phrasebook.Source.Tree
import Phrasebook.Source.Lexeme

/-!
# Readers of syntax

A reader stands at a cursor in the source and either answers a row of trees with the cursor after them, or
refuses. Readers are put together like the rules of a grammar: `p ++ q` reads one after the other, `p <|> q`
tries the second where the first refuses, `opt`, `many` and `sepBy` repeat, `construct` makes one tree of the
row that was read.

A cursor keeps the blanks and comments before the next lexeme apart, so every leaf takes them along and
`automaticSemicolon` can look at them.
-/

namespace Phrasebook.Source

/-- A place in the source: the blanks and comments that come next, and what follows them. -/
structure Cursor where
  before : List Char
  rest : List Char

namespace Cursor

/-- The place at the front of some characters. -/
def ofChars (cs : List Char) : Cursor :=
  let (before, rest) := Lexeme.trivia Lexeme.isSpace .between cs
  ⟨before, rest⟩

def chars (c : Cursor) : List Char := c.before ++ c.rest

/-- The place after the comments opened by arrows, at most as many as the number says; they count as blanks. -/
def skipArrowComments : Nat → Cursor → Cursor
  | 0, c => c
  | n + 1, c =>
    match Lexeme.arrowComment c.rest with
    | some (comment, rest) =>
      let next := ofChars rest
      skipArrowComments n ⟨c.before ++ comment ++ next.before, next.rest⟩
    | none => c

end Cursor

/-- What a reader has to know about the whole source. -/
structure Setting where
  /-- The language of the source. -/
  dialect : Dialect
  /-- A bound on repetitions: no source holds more lexemes than characters. -/
  limit : Nat

/-- Reads a row of trees at a cursor, or refuses. -/
def Reader := Setting → Cursor → Option (List Tree × Cursor)

/-- The rules that refer to each other; every other rule is built from these. -/
inductive Goal where
  | statement
  | declaration
  | block
  | expressions
  | expression
  /-- An expression whose parentheses are not the parameters of an arrow function with a result type. -/
  | unannotated
  | operand
  | creation
  | pattern
  | parameters
  | callSignature
  | classBody
  | objectType
  | type
  | element

/-- A reader for each rule. -/
abbrev Rules := Goal → Reader

namespace Reader

def nothing : Reader := fun _ c => some ([], c)

def refuse : Reader := fun _ _ => none

def andThen (p q : Reader) : Reader := fun s c =>
  match p s c with
  | none => none
  | some (ts, c') =>
    match q s c' with
    | none => none
    | some (us, c'') => some (ts ++ us, c'')

def orElse (p q : Reader) : Reader := fun s c =>
  match p s c with
  | none => q s c
  | some r => some r

instance : Append Reader := ⟨andThen⟩
instance : OrElse Reader := ⟨fun p q => orElse p (q ())⟩

/-- Reads the first of several that does not refuse. -/
def firstOf : List Reader → Reader
  | [] => refuse
  | p :: ps => p <|> firstOf ps

def opt (p : Reader) : Reader := p <|> nothing

/-- Reads something again and again, at most as often as the number says; ends where nothing is consumed. -/
def repeated (p : Reader) : Nat → Reader
  | 0 => nothing
  | n + 1 => fun s c =>
    match p s c with
    | none => some ([], c)
    | some (ts, c') =>
      if Tree.areEmpty ts then some ([], c)
      else match repeated p n s c' with
      | none => none
      | some (us, c'') => some (ts ++ us, c'')

def many (p : Reader) : Reader := fun s c => repeated p s.limit s c

def atLeastOne (p : Reader) : Reader := p ++ many p

/-- Reads things with separators between them, at least one. -/
def sepBy (p sep : Reader) : Reader := p ++ many (sep ++ p)

/-- Passes if the reader accepts here, and reads nothing. -/
def ahead (p : Reader) : Reader := fun s c => (p s c).map fun _ => ([], c)

/-- Passes if the reader refuses here, and reads nothing. -/
def notAhead (p : Reader) : Reader := fun s c =>
  match p s c with
  | none => some ([], c)
  | some _ => none

def construct (k : Kind) (p : Reader) : Reader := fun s c =>
  (p s c).map fun (ts, c') => ([.node .plain k ts], c')

/-- Makes one tree of what is read, unless it is one already. -/
def grouped (p : Reader) : Reader := fun s c =>
  (p s c).map fun (ts, c') =>
    match ts with
    | [t] => ([t], c')
    | _ => ([.node .plain .phrase ts], c')

def as (r : Role) (p : Reader) : Reader := fun s c =>
  (p s c).map fun (ts, c') => (ts.map (·.withRole r), c')

/-- Extends a tree to the right while the step accepts; the step is given the tree so far. -/
def extended (step : Tree → Reader) : Nat → Tree → Reader
  | 0, t => fun _ c => some ([t], c)
  | n + 1, t => fun s c =>
    match step t s c with
    | some ([u], c') => extended step n u s c'
    | _ => some ([t], c)

/-- Reads one tree and extends it to the right as far as the step goes. -/
def chain (p : Reader) (step : Tree → Reader) : Reader := fun s c =>
  match p s c with
  | some ([t], c') => extended step s.limit t s c'
  | other => other

/-- Reads trees and goes on as they require; what is answered is what the second part makes of them. -/
def follow (p : Reader) (next : List Tree → Reader) : Reader := fun s c =>
  match p s c with
  | some (ts, c') => next ts s c'
  | none => none

/-- Reads nothing and hands on trees read before. -/
def given (ts : List Tree) : Reader := fun _ c => some (ts, c)

def typedOnly (p : Reader) : Reader := fun s c => if s.dialect == .typed then p s c else none

/-! ## Lexemes -/

def leaf (k : Kind) (split : Lexeme.Splitter) : Reader := fun _ c =>
  (split c.rest).map fun (text, rest) => ([.leaf .plain k c.before text], Cursor.ofChars rest)

def sign (text : String) : Reader := leaf .token (Lexeme.exactly text.toList)

/-- Reads a sign that none of the characters given may follow. -/
def signBefore (text : String) (stops : List Char) : Reader :=
  leaf .token fun cs =>
    (Lexeme.after? text.toList cs).bind fun rest =>
      match rest with
      | [] => some (text.toList, [])
      | c :: r => if stops.contains c then none else some (text.toList, c :: r)

/-- Reads the first of all signs that comes next, if it is among those wanted; longer signs come first. -/
def signAmong (all : List (List Char)) (wanted : List Char → Bool) : Reader :=
  leaf .token fun cs =>
    (all.find? fun t => (Lexeme.after? t cs).isSome).bind fun t =>
      if wanted t then Lexeme.exactly t cs else none

/-- The word that comes next, empty where none does. -/
def headWord (c : Cursor) : String :=
  match Lexeme.name c.rest with
  | some (w, _) => String.ofList w
  | none => ""

def wordAmong (k : Kind) (test : String → Bool) : Reader :=
  leaf k fun cs =>
    (Lexeme.name cs).bind fun (w, rest) => if test (String.ofList w) then some (w, rest) else none

def word (w : String) : Reader := wordAmong .token (· == w)

/-- Reads any name or keyword as a name. -/
def anyName : Reader := leaf .identifier Lexeme.name

def reserved : List String :=
  ["break", "case", "catch", "class", "const", "continue", "debugger", "default", "delete", "do", "else",
    "export", "extends", "false", "finally", "for", "function", "if", "import", "in", "instanceof", "new",
    "null", "return", "super", "switch", "this", "throw", "true", "try", "typeof", "var", "void", "while",
    "with"]

/-- Reads a name that is no reserved word. -/
def identifier : Reader := wordAmong .identifier fun w => !reserved.contains w

/-- Words that begin an operand or are one. -/
def operandWords : List String :=
  ["class", "delete", "false", "function", "import", "new", "null", "super", "this", "true", "typeof", "void"]

/-- Reads the name of a variable that is used. With types only the words that begin an operand are kept from
that. -/
def variableName : Reader := fun s c =>
  match s.dialect with
  | .plain => identifier s c
  | .typed => wordAmong .identifier (fun w => !operandWords.contains w) s c

/-- Reads the name of something that is declared. With types every word will do. -/
def declaredName : Reader := fun s c =>
  match s.dialect with
  | .plain => identifier s c
  | .typed => anyName s c

def arrowComment : Reader := leaf .token Lexeme.arrowComment

/-- Reads something with comments opened by arrows before it. -/
def afterArrowComments (p : Reader) : Reader := fun s c => p s (c.skipArrowComments s.limit)

def stringLiteral : Reader := leaf .string Lexeme.string

/-- Passes where no line end stands before the next lexeme. -/
def sameLine : Reader := fun _ c => if c.before.contains '\n' then none else some ([], c)

def braces (p : Reader) : Reader := sign "\x7b" ++ p ++ sign "\x7d"

def parens (p : Reader) : Reader := sign "(" ++ p ++ sign ")"

def brackets (p : Reader) : Reader := sign "[" ++ p ++ sign "]"

/-- Reads the raw characters up to the end of a template or its next substitution. -/
def templateText : Reader := fun _ c =>
  (Lexeme.templateChars 0 c.chars).map fun (text, rest) => ([.leaf .plain .token [] text], ⟨[], rest⟩)

/-- Reads a template whose substitutions are read by the given reader. -/
def template (p : Reader) : Reader :=
  sign "\x60" ++ templateText ++ many (sign "$\x7b" ++ p ++ sign "\x7d" ++ templateText) ++ sign "\x60"

/-- Reads things separated by commas; any of them may be missing. -/
def commaSeparated (p : Reader) : Reader := opt p ++ many (sign "," ++ opt p)

/-- Reads things separated by commas, with a comma after the last or not; there may be none. -/
def commaList (p : Reader) : Reader := opt (sepBy p (sign ",") ++ opt (sign ","))

/-! ## The end of a statement

A statement may end without a semicolon. Whether it does at a given place is decided from the characters that
follow the last lexeme: they are walked over on the same line, and if the line ends, the next lexeme decides.
-/

/-- Line ends that a semicolon can be inserted at. -/
def isLineEnd (d : Dialect) (c : Char) : Bool :=
  c == '\n' || (d == .plain && (c.toNat == 0x2028 || c.toNat == 0x2029))

/-- Whether a text starts with one of two operators that are words. -/
def startsWordOperator (cs : List Char) : Bool :=
  let stopsAfter (w : String) :=
    match Lexeme.after? w.toList cs with
    | none => false
    | some [] => true
    | some (c :: _) => !c.isAlpha
  stopsAfter "in" || stopsAfter "instanceof"

/-- Whether the lexeme at the start of a new line begins a new statement instead of going on with the last. -/
def startsStatement (d : Dialect) (afterExpression : Bool) : List Char → Bool
  | [] => true
  | c :: r =>
    if ['\x60', ',', ':', ';', '*', '%', '>', '<', '=', '?', '^', '|', '&', '/'].contains c then false
    else if c == '.' then d == .plain && (r.head?.map Char.isDigit).getD false
    else if c == '[' || c == '(' then d == .typed && !afterExpression
    else if c == '+' then r.head? == some '+'
    else if c == '-' then r.head? == some '-'
    else if c == '!' then r.head? != some '='
    else !startsWordOperator (c :: r)

/-- Whether a statement ends at a line end followed by the given characters. -/
def endsAtLine (d : Dialect) (afterExpression : Bool) (cs : List Char) : Bool :=
  startsStatement d afterExpression (Lexeme.trivia Lexeme.isAsciiSpace .between cs).2

/-- Whether a statement ends before a closing brace; with types, a colon after the brace may speak against it. -/
def endsAtBrace (d : Dialect) (afterExpression : Bool) (afterBrace : List Char) : Bool :=
  match d with
  | .plain => true
  | .typed => (afterBrace.dropWhile Lexeme.isAsciiSpace).head? != some ':' || afterExpression

/-- Where the walk that looks for the end of a statement stands. -/
inductive EndPlace where
  /-- On the line of the last lexeme. -/
  | onLine
  /-- After a line comment. -/
  | afterComment
  /-- In a line comment. -/
  | inLineComment
  /-- In a block comment, with whether it has held a line end. -/
  | inBlockComment (sawLine : Bool)

/-- Whether a comment that ends the line also ends the statement: after anything but an expression, unless a
comma or an equals sign follows. -/
def commentEnds (afterExpression : Bool) (cs : List Char) : Bool :=
  !afterExpression && cs.head? != some ',' && cs.head? != some '='

/-- Whether a statement ends right here without a semicolon. -/
def endsHere (d : Dialect) (afterExpression : Bool) : EndPlace → List Char → Bool
  | .onLine, [] => true
  | .afterComment, [] => !afterExpression
  | .inLineComment, [] => !afterExpression
  | .inBlockComment _, [] => !afterExpression
  | .inLineComment, c :: r =>
    if c == '\n' then endsHere d afterExpression .afterComment r
    else if isLineEnd d c then commentEnds afterExpression (c :: r) || endsAtLine d afterExpression r
    else endsHere d afterExpression .inLineComment r
  | .inBlockComment sawLine, '*' :: '/' :: r =>
    if r.head? == some '/' then endsHere d afterExpression .afterComment r
    else if sawLine && commentEnds afterExpression r then true
    else if r.isEmpty then false
    else endsHere d afterExpression .onLine r
  | .inBlockComment sawLine, c :: r =>
    endsHere d afterExpression (.inBlockComment (sawLine || isLineEnd d c)) r
  | place, c :: r =>
    if d == .plain && c == '/' then
      match r with
      | '/' :: r' => endsHere d afterExpression .inLineComment r'
      | '*' :: r' => endsHere d afterExpression (.inBlockComment false) r'
      | _ => false
    else
      match place with
      | .afterComment =>
        if Lexeme.isAsciiSpace c then endsHere d afterExpression .afterComment r
        else commentEnds afterExpression (c :: r) || c == '}' || (isLineEnd d c && endsAtLine d afterExpression r)
      | _ =>
        if c == '}' then endsAtBrace d afterExpression r
        else if isLineEnd d c then endsAtLine d afterExpression r
        else if Lexeme.isAsciiSpace c then endsHere d afterExpression .onLine r
        else false

/-- Reads the end of a statement without a semicolon: a leaf of no width, here or after one of the comments
that come next. -/
def insertedSemicolon (afterExpression : Bool) : Reader := fun s c =>
  let rec attempt : Nat → List Char → List Char → Option (List Tree × Cursor)
    | 0, _, _ => none
    | n + 1, passed, before =>
      if endsHere s.dialect afterExpression .onLine (before ++ c.rest) then
        some ([.leaf .plain .token passed []], ⟨before, c.rest⟩)
      else match Lexeme.firstComment before with
        | some (comment, before') => attempt n (passed ++ comment) before'
        | none => none
  attempt (c.before.length + 1) [] c.before

def semicolon (afterExpression : Bool) : Reader := insertedSemicolon afterExpression <|> sign ";"

end Reader
end Phrasebook.Source
