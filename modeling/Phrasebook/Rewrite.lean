import Phrasebook.Failure
import Phrasebook.Settings.Basic
import Phrasebook.Source.Analysis
import Phrasebook.Splice

/-!
# Rewriting a source

Every text in the markup of a source becomes a record, and the text is replaced by a call that looks its key up. The
call is imported if no import binds its name yet. Everything else stays as it is.
-/

namespace Phrasebook

open Source

/-- A source with its texts replaced, and the records of the texts. -/
structure Rewritten where
  code : String
  component : String
  records : List Record
  deriving Repr

namespace Rewrite

/-- The dialect of a file, by its name. -/
def dialectOf (file : String) : Dialect :=
  if (Path.ofString file).lowerSuffix == ".tsx" then .typed else .plain

/-- Why a source cannot be read. The line and the column, which the parser adds, are left out. -/
def syntaxError : String := "syntax error"

def outline (file source : String) : Except Failure Outline :=
  match Document.ofChars? (dialectOf file) source.toList with
  | some d => .ok (Outline.ofDocument d)
  | none => .error (.source file syntaxError)

def lookupCall (settings : Settings) (localeName : Option String) (key : String) : List Char :=
  let arguments :=
    match localeName with
    | some name => "'" ++ key ++ "', " ++ name
    | none => "'" ++ key ++ "'"
  '{' :: (settings.lookupFunction ++ "(" ++ arguments ++ ")").toList ++ ['}']

def importLine (settings : Settings) : List Char :=
  ("import \x7b " ++ settings.lookupFunction ++ " \x7d from '" ++ settings.runtimeModule ++ "';").toList

/-- The edit that puts the import after the prologue. -/
def importEdit (settings : Settings) (prologueEnd : Nat) : Splice.Edit :=
  ⟨prologueEnd, prologueEnd,
    if prologueEnd == 0 then importLine settings ++ ['\n'] else '\n' :: importLine settings⟩

/-- The record of a text and the edit that replaces it, unless the text is only blanks. -/
def extract (settings : Settings) (file component : String) (localeName : Option String) (t : PlacedText) :
    Option (Record × Splice.Edit) :=
  match shownText t.raw with
  -- a source with such a text is refused before anything is extracted
  | none => none
  | some shown =>
    let value := Text.trim shown
    if isMeaningful value then
      let record := Record.extracted (String.ofList value) ⟨file, component, t.path⟩
      let span := trimmedSpan t.raw t.span
      some (record, ⟨span.start, span.stop, lookupCall settings localeName record.key⟩)
    else none

/-- The records of an outline with the edits that replace their texts. -/
def extractAll (settings : Settings) (file : String) (o : Outline) : List (Record × Splice.Edit) :=
  (placedTexts o.landmarks).filterMap <|
    extract settings file (component o.landmarks) (localeVariable o.landmarks settings.localeHook)

/-- All edits of an outline: those of its texts, and the import if it is needed. -/
def edits (settings : Settings) (o : Outline) (found : List (Record × Splice.Edit)) : List Splice.Edit :=
  found.map Prod.snd ++
    if importsName o.landmarks settings.lookupFunction then [] else [importEdit settings o.prologueEnd]

/-- Why a source cannot be rewritten. -/
inductive Refusal where
  /-- It cannot be read. -/
  | unreadable (failure : Failure)
  /-- A text in it has a reference with a number of too many digits. -/
  | undecodable
  /-- An edit would cut a character. -/
  | torn (fault : Text.Utf8.Fault)
  deriving Repr

/-- Rewrites a source as if it were a given file of the workspace. -/
def rewrite (settings : Settings) (file source : String) : Except Refusal Rewritten :=
  match outline file source with
  | .error failure => .error (.unreadable failure)
  | .ok o =>
    let found := extractAll settings file o
    let name := component o.landmarks
    if (placedTexts o.landmarks).any fun t => (shownText t.raw).isNone then .error .undecodable
    else if found.isEmpty then .ok ⟨source, name, []⟩
    else match Splice.apply source.toList (edits settings o found) with
      | .ok code => .ok ⟨String.ofList code, name, found.map Prod.fst⟩
      | .error fault => .error (.torn fault)

end Rewrite
end Phrasebook
