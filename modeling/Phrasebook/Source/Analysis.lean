import Phrasebook.Record.Json
import Phrasebook.Source.Outline
import Phrasebook.CharRef.Decode
import Phrasebook.Text.Blank

/-!
# Components, bindings and structural paths

What the outline of a source tells about the texts in it: the component they belong to, the variable that holds the
locale, whether the lookup function is imported, and where each text stands among the elements around it.
-/

namespace Phrasebook.Source

namespace Landmark

/-- The name of a function that returns markup. -/
def markupFunction? : Landmark → Option String
  | function name true => some name
  | bound name true => some name
  | _ => none

def defaultExport? : Landmark → Option String
  | defaultExport name => some name
  | _ => none

/-- The local name of a property that is taken from a call. -/
def taken? (callee property : String) : Landmark → Option String
  | destructuring c bindings => if c == callee then (bindings.get? property).filter (· != "") else none
  | _ => none

def imports (name : String) : Landmark → Bool
  | importing _ names => names.contains name
  | _ => false

/-- The root of an element that is in no other. -/
def root? : Landmark → Option Markup
  | markup root => some root
  | _ => none

end Landmark

/-- The last default export with a name, else the first function that returns markup, else the default. -/
def component (landmarks : List Landmark) : String :=
  let exported := (landmarks.filterMap Landmark.defaultExport?).getLast?.filter (· != "")
  let returning := (landmarks.filterMap Landmark.markupFunction?).head?.filter (· != "")
  (exported.or returning).getD Record.defaultComponent

/-- The property that holds the locale in the result of the locale hook. -/
def localeProperty : String := "locale"

/-- The variable that holds the locale: the first that is taken from a call of the hook. -/
def localeVariable (landmarks : List Landmark) (hook : String) : Option String :=
  landmarks.findSome? (Landmark.taken? hook localeProperty)

def importsName (landmarks : List Landmark) (name : String) : Bool := landmarks.any (Landmark.imports name)

/-! ## Texts with their paths -/

/-- A text in markup: its characters as written, where they stand, and the elements around it. -/
structure PlacedText where
  raw : List Char
  span : Span
  trail : List String
  deriving Repr

namespace PlacedText

def path (t : PlacedText) : String :=
  if t.trail.isEmpty then Record.rootPath
  else
    let joined := " > ".intercalate t.trail
    if joined.isEmpty then Record.rootPath else joined

end PlacedText

namespace Markup

/-- The name of an element with a plain tag. -/
def tagName? : Markup → Option String
  | element (.named name) _ => some name
  | _ => none

/-- What an element without siblings adds to the path. -/
def soleSegment (m : Markup) : List String := m.tagName?.toList

/-- How often a name is the tag of one of some elements. -/
def tagCount (children : List Markup) (name : String) : Nat :=
  children.countP fun m => m.tagName? == some name

/-- What an element adds to the path of what is in it: its tag, with its number among the siblings of this tag if there
are others. Nothing has siblings in a fragment. -/
def segment (siblings before : List Markup) (inFragment : Bool) (m : Markup) : List String :=
  match m.tagName? with
  | none => []
  | some name =>
    if !inFragment && 1 < tagCount siblings name then
      [name ++ s!":nth-child({tagCount before name + 1})"]
    else [name]

mutual
/-- The texts in an element with the given path. -/
def texts (trail : List String) : Markup → List PlacedText
  | text raw span => [⟨raw, span, trail⟩]
  | element tag children => childTexts trail children (tag == .fragment) [] children
  | embed elements => embeddedTexts trail elements
/-- The texts in the children of an element; those before have been done. -/
def childTexts (trail : List String) (siblings : List Markup) (inFragment : Bool) (before : List Markup) :
    List Markup → List PlacedText
  | [] => []
  | m :: ms =>
    texts (trail ++ segment siblings before inFragment m) m ++
      childTexts trail siblings inFragment (before ++ [m]) ms
/-- The texts in elements that have no siblings. -/
def embeddedTexts (trail : List String) : List Markup → List PlacedText
  | [] => []
  | m :: ms => texts (trail ++ soleSegment m) m ++ embeddedTexts trail ms
end

end Markup

/-- All texts of a source with their paths, in the order of the source. -/
def placedTexts (landmarks : List Landmark) : List PlacedText :=
  (landmarks.filterMap Landmark.root?).flatMap fun root => root.texts root.soleSegment

/-! ## What a text says -/

/-- The characters of a text with its references replaced. -/
def shownText (raw : List Char) : Option (List Char) := CharRef.decode raw

def isMeaningful (cs : List Char) : Bool := !(Text.trim cs).isEmpty

/-- The bytes of a text without the blanks at its ends, as they are written. -/
def trimmedSpan (raw : List Char) (span : Span) : Span :=
  ⟨span.start + width (Text.leading raw), span.stop - width (Text.trailing raw)⟩

end Phrasebook.Source
