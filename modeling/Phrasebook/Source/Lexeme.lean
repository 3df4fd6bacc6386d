/-!
# Words, literals and what stands between them

Character classes of the source language and splitters for its lexemes. A splitter takes the remaining
characters and answers the lexeme with what follows it, or nothing; putting the two parts together always
gives the input back.
-/

namespace Phrasebook.Source

/-- The two languages a source file can be written in. -/
inductive Dialect where
  /-- Scripts with markup and without types. -/
  | plain
  /-- Scripts with markup and types. -/
  | typed
  deriving DecidableEq, Repr, Inhabited

namespace Lexeme

/-- A splitter answers the lexeme at the front and the characters after it. -/
abbrev Splitter := List Char → Option (List Char × List Char)

/-- Blanks between lexemes: every Unicode space, line end and zero-width space. -/
def isSpace (c : Char) : Bool :=
  let n := c.toNat
  n == 0x20 || (0x09 ≤ n && n ≤ 0x0d) || n == 0x85 || n == 0xa0 || n == 0x1680 ||
    (0x2000 ≤ n && n ≤ 0x200b) || n == 0x2028 || n == 0x2029 || n == 0x202f || n == 0x205f ||
    n == 0x2060 || n == 0x3000 || n == 0xfeff

def isAsciiSpace (c : Char) : Bool :=
  let n := c.toNat
  n == 0x20 || (0x09 ≤ n && n ≤ 0x0d)

/-- A line comment runs to one of these. -/
def endsLineComment (c : Char) : Bool :=
  c == '\n' || c == '\r' || c.toNat == 0x2028 || c.toNat == 0x2029

/-- Characters that cannot be part of a name. -/
def isNameBreak (c : Char) : Bool :=
  c.toNat < 0x20 || isSpace c ||
    [':', ';', '\x60', '"', '\'', '@', '#', '.', ',', '|', '^', '&', '<', '=', '>', '+', '-', '*', '/',
      '\\', '%', '?', '!', '~', '(', ')', '[', ']', '{', '}'].contains c

def isHexDigit (c : Char) : Bool :=
  c.isDigit || ('a' ≤ c && c ≤ 'f') || ('A' ≤ c && c ≤ 'F')

def isOctalDigit (c : Char) : Bool := '0' ≤ c && c ≤ '7'

/-- Characters while a test holds, and the rest. -/
def spanChars (p : Char → Bool) : List Char → List Char × List Char
  | [] => ([], [])
  | c :: r => if p c then ((c :: (spanChars p r).1), (spanChars p r).2) else ([], c :: r)

/-- What follows a given text, if it is there. -/
def after? : List Char → List Char → Option (List Char)
  | [], cs => some cs
  | _ :: _, [] => none
  | x :: xs, c :: cs => if x == c then after? xs cs else none

def exactly (text : List Char) : Splitter := fun cs => (after? text cs).map (text, ·)

def ahead (front : List Char) (split : List Char × List Char) : List Char × List Char :=
  (front ++ split.1, split.2)

/-! ## Blanks and comments -/

/-- Whether a block comment is closed in the characters after its opening. -/
def closesComment : List Char → Bool
  | '*' :: '/' :: _ => true
  | _ :: r => closesComment r
  | [] => false

/-- Where the walk over blanks and comments stands. -/
inductive TriviaPlace where
  | between
  | lineComment
  | blockComment

/-- Blanks and comments at the front, and the rest, for a given class of blanks. -/
def trivia (blank : Char → Bool) : TriviaPlace → List Char → List Char × List Char
  | _, [] => ([], [])
  | .between, '/' :: '/' :: r => ahead ['/', '/'] (trivia blank .lineComment r)
  | .between, '/' :: '*' :: r =>
    if closesComment r then ahead ['/', '*'] (trivia blank .blockComment r) else ([], '/' :: '*' :: r)
  | .between, c :: r => if blank c then ahead [c] (trivia blank .between r) else ([], c :: r)
  | .lineComment, c :: r =>
    if endsLineComment c then ahead [c] (trivia blank .between r) else ahead [c] (trivia blank .lineComment r)
  | .blockComment, '*' :: '/' :: r => ahead ['*', '/'] (trivia blank .between r)
  | .blockComment, c :: r => ahead [c] (trivia blank .blockComment r)

/-- The rest of a block comment, with its closing sign. -/
def blockCommentEnd : Splitter
  | '*' :: '/' :: r => some (['*', '/'], r)
  | c :: r => (blockCommentEnd r).map (ahead [c])
  | [] => none

/-- The blanks at the front and the comment after them. -/
def firstComment : Splitter := fun cs =>
  let (blanks, rest) := spanChars isSpace cs
  match rest with
  | '/' :: '/' :: r => some (ahead (blanks ++ ['/', '/']) (spanChars (fun c => !endsLineComment c) r))
  | '/' :: '*' :: r => (blockCommentEnd r).map (ahead (blanks ++ ['/', '*']))
  | _ => none

/-- A comment that an arrow of hyphens opens, to the end of its line. It counts only where nothing before it could go
on with an operator. -/
def arrowComment : Splitter := fun cs =>
  match cs with
  | '<' :: '!' :: '-' :: '-' :: _ => some (spanChars (fun c => !endsArrowComment c) cs)
  | '-' :: '-' :: '>' :: _ => some (spanChars (fun c => !endsArrowComment c) cs)
  | _ => none
where
  /-- A comment runs to one of these. -/
  endsArrowComment (c : Char) : Bool := c == '\n' || c.toNat == 0x2028 || c.toNat == 0x2029

/-! ## Names and numbers -/

/-- A character escape inside a name, written with four or any number of hexadecimal digits. -/
def nameEscape : Splitter
  | '\\' :: 'u' :: '{' :: r =>
    match spanChars isHexDigit r with
    | ([], _) => none
    | (ds, '}' :: r') => some (['\\', 'u', '{'] ++ ds ++ ['}'], r')
    | _ => none
  | '\\' :: 'u' :: a :: b :: c :: d :: r =>
    if [a, b, c, d].all isHexDigit then some (['\\', 'u', a, b, c, d], r) else none
  | _ => none

/-- The rest of a name, after taking a number of characters of an escape already recognised. -/
def nameTail : (escaped : Nat) → List Char → List Char × List Char
  | _, [] => ([], [])
  | n + 1, c :: r => ahead [c] (nameTail n r)
  | 0, c :: r =>
    if !isNameBreak c then ahead [c] (nameTail 0 r)
    else match nameEscape (c :: r) with
      | some (e, _) => ahead [c] (nameTail (e.length - 1) r)
      | none => ([], c :: r)

def name : Splitter
  | [] => none
  | c :: r =>
    if c.isDigit then none
    else match nameTail 0 (c :: r) with
      | ([], _) => none
      | split => some split

def isPlainNameChar (c : Char) : Bool := c.isAlphanum || c == '_' || c == '$'

/-- A name with a hyphen in it, in ASCII letters, digits, underscores and dollar signs. -/
def hyphenatedName : Splitter
  | [] => none
  | c :: r =>
    if !isPlainNameChar c || c.isDigit then none
    else match spanChars isPlainNameChar (c :: r) with
      | (front, '-' :: r') => some (ahead (front ++ ['-']) (spanChars (fun d => isPlainNameChar d || d == '-') r'))
      | _ => none

/-- Digits that follow a digit; a separator counts only with a digit after it. -/
def moreDigits (p : Char → Bool) : List Char → List Char × List Char
  | '_' :: d :: r => if p d then ahead ['_', d] (moreDigits p r) else ([], '_' :: d :: r)
  | c :: r => if p c then ahead [c] (moreDigits p r) else ([], c :: r)
  | [] => ([], [])

/-- A digit run with single separators between digits. -/
def digits (p : Char → Bool) : Splitter
  | [] => none
  | c :: r => if p c then some (ahead [c] (moreDigits p r)) else none

def exponent : Splitter
  | e :: r =>
    if e == 'e' || e == 'E' then
      match r with
      | '+' :: r' => (digits Char.isDigit r').map (ahead [e, '+'])
      | '-' :: r' => (digits Char.isDigit r').map (ahead [e, '-'])
      | _ => (digits Char.isDigit r).map (ahead [e])
    else none
  | [] => none

def optionally (p : Splitter) (cs : List Char) : List Char × List Char := (p cs).getD ([], cs)

/-- One lexeme and then another, the second optional. -/
def thenOptionally (split : List Char × List Char) (p : Splitter) : List Char × List Char :=
  ahead split.1 (optionally p split.2)

/-- The digits of a number after its base prefix, with the optional mark of a big integer. -/
def basedNumber (front : List Char) (p : Char → Bool) (r : List Char) : Option (List Char × List Char) :=
  (digits p r).map fun split => ahead front (thenOptionally split (exactly ['n']))

def number : Splitter
  | '.' :: r => (digits Char.isDigit r).map fun split => ahead ['.'] (thenOptionally split exponent)
  | '0' :: b :: r =>
    if b == 'x' || b == 'X' then basedNumber ['0', b] isHexDigit r
    else if b == 'o' || b == 'O' then basedNumber ['0', b] isOctalDigit r
    else if b == 'b' || b == 'B' then basedNumber ['0', b] (fun c => c == '0' || c == '1') r
    else decimal ('0' :: b :: r)
  | cs => decimal cs
where
  /-- A number in decimal digits. -/
  decimal (cs : List Char) : Option (List Char × List Char) :=
    (digits Char.isDigit cs).map fun (ds, r) =>
      match r with
      | 'n' :: r' => (ds ++ ['n'], r')
      | '.' :: r' =>
        thenOptionally (thenOptionally (ds ++ ['.'], r') (digits Char.isDigit)) exponent
      | _ => thenOptionally (ds, r) exponent

/-! ## Strings, templates and patterns -/

/-- What may follow the backslash of an escape. -/
def escapeBody : Splitter
  | [] => none
  | 'x' :: a :: b :: r => if isHexDigit a && isHexDigit b then some (['x', a, b], r) else none
  | 'u' :: r => (nameEscape ('\\' :: 'u' :: r)).map fun (e, r') => (e.drop 1, r')
  | c :: r =>
    if c == 'x' then none
    else if isOctalDigit c then
      match r with
      | d :: e :: r' =>
        if isOctalDigit d then if isOctalDigit e then some ([c, d, e], r') else some ([c, d], e :: r')
        else some ([c], d :: e :: r')
      | d :: r' => if isOctalDigit d then some ([c, d], r') else some ([c], d :: r')
      | [] => some ([c], [])
    else if c == '\r' then
      match r with
      | '\n' :: r' => some (['\r', '\n'], r')
      | _ => some (['\r'], r)
    else some ([c], r)

/-- The rest of a string literal, up to and with its closing quote, after taking a number of characters of an
escape already recognised. -/
def stringTail (quote : Char) : (escaped : Nat) → Splitter
  | _, [] => none
  | n + 1, c :: r => (stringTail quote n r).map (ahead [c])
  | 0, c :: r =>
    if c == quote then some ([c], r)
    else if c == '\\' then
      (escapeBody r).bind fun (e, _) => (stringTail quote e.length r).map (ahead [c])
    else if c == '\n' || c == '\r' then none
    else (stringTail quote 0 r).map (ahead [c])

def string : Splitter
  | '"' :: r => (stringTail '"' 0 r).map (ahead ['"'])
  | '\'' :: r => (stringTail '\'' 0 r).map (ahead ['\''])
  | _ => none

/-- The characters of a template up to its end or its next substitution, after taking a number of characters of
an escape already recognised. -/
def templateChars : (escaped : Nat) → Splitter
  | _, [] => none
  | n + 1, c :: r => (templateChars n r).map (ahead [c])
  | 0, c :: r =>
    if c == '\x60' then some ([], c :: r)
    else if c == '\\' then
      (escapeBody r).bind fun (e, _) => (templateChars e.length r).map (ahead [c])
    else if c == '$' && r.head? == some '{' then some ([], c :: r)
    else (templateChars 0 r).map (ahead [c])

/-- Where the walk over a regular expression stands. -/
inductive PatternPlace where
  | outside
  | inClass

/-- The rest of a regular expression, up to and with its closing slash. -/
def patternTail : PatternPlace → Splitter
  | _, [] => none
  | .outside, '/' :: r => some (['/'], r)
  | .outside, '[' :: r => (patternTail .inClass r).map (ahead ['['])
  | .inClass, ']' :: r => (patternTail .outside r).map (ahead [']'])
  | p, '\\' :: c :: r => if c == '\n' then none else (patternTail p r).map (ahead ['\\', c])
  | p, c :: r => if c == '\n' || c == '\\' then none else (patternTail p r).map (ahead [c])

def regularExpression : Splitter
  | '/' :: c :: r =>
    if c == '*' || c == '/' then none
    else (patternTail .outside (c :: r)).map fun split =>
      ahead ('/' :: split.1) (spanChars (fun d => 'a' ≤ d && d ≤ 'z') split.2)
  | _ => none

/-! ## Literal text in markup -/

/-- The longest run of letters in a named reference. -/
def referenceNameLimit : Nat := 30

/-- A character reference in markup: a name of letters, up to five digits, or up to six hexadecimal digits. -/
def reference : Splitter
  | '&' :: '#' :: r =>
    match r with
    | x :: r' =>
      if x == 'x' || x == 'X' then closed ['&', '#', x] 6 (spanChars isHexDigit r')
      else closed ['&', '#'] 5 (spanChars Char.isDigit r)
    | [] => none
  | '&' :: r => closed ['&'] referenceNameLimit (spanChars Char.isAlpha r)
  | _ => none
where
  /-- A run of bounded length that a semicolon closes. -/
  closed (front : List Char) (limit : Nat) (split : List Char × List Char) : Option (List Char × List Char) :=
    match split with
    | ([], _) => none
    | (run, ';' :: r) => if run.length ≤ limit then some (front ++ run ++ [';'], r) else none
    | _ => none

/-- Characters that end a stretch of literal text between tags. -/
def breaksText (c : Char) : Bool :=
  c == '<' || c == '>' || c == '{' || c == '}' || c == '&' || c == '\x00'

/-- Whether a stretch between tags holds more than blanks that start with a line end. -/
def isText : (atLine : Bool) → List Char → Bool
  | _, [] => false
  | atLine, c :: r =>
    if c == '\n' then isText true r
    else if atLine && isAsciiSpace c then isText true r
    else true

/-- The rest of a string in a tag, up to and with its closing quote, after taking a number of characters already
recognised. -/
def tagStringTail (quote : Char) : (taken : Nat) → Splitter
  | _, [] => none
  | n + 1, c :: r => (tagStringTail quote n r).map (ahead [c])
  | 0, c :: r =>
    if c == quote then some ([c], r)
    else if c == '&' then
      match r with
      | [] => none
      | d :: _ =>
        if d == '#' || d.isAlpha then
          (reference (c :: r)).bind fun (e, _) => (tagStringTail quote (e.length - 1) r).map (ahead [c])
        else (tagStringTail quote 1 r).map (ahead [c])
    else (tagStringTail quote 0 r).map (ahead [c])

/-- A string in a tag: no escapes, line ends allowed, references checked. -/
def tagString : Splitter
  | '"' :: r => (tagStringTail '"' 0 r).map (ahead ['"'])
  | '\'' :: r => (tagStringTail '\'' 0 r).map (ahead ['\''])
  | _ => none

end Lexeme
end Phrasebook.Source
