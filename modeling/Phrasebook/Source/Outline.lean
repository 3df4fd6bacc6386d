import Phrasebook.Entries
import Phrasebook.Source.Document

/-!
# What a source says about its texts

An outline holds what extraction needs to know of a source, in the order of the source: the functions and whether
they return markup, the default exports, the variables taken from calls, the imports, and the markup with its literal
texts. It also says where the statements start that a new import must not precede.

Positions are byte offsets, computed from the widths of the trees on the way.
-/

namespace Phrasebook.Source

/-- A half-open range of bytes. -/
structure Span where
  start : Nat
  stop : Nat
  deriving DecidableEq, Repr, Inhabited

/-- What stands in the angle brackets of an element. -/
inductive Tag where
  /-- A plain name. -/
  | named (name : String)
  /-- A name with points or a colon. -/
  | compound
  /-- Nothing. -/
  | fragment
  deriving DecidableEq, Repr, Inhabited

/-- Markup with its texts; everything between is left out. -/
inductive Markup where
  /-- A longest run of literal text and character references, as written. -/
  | text (raw : List Char) (span : Span)
  /-- An element or a fragment. -/
  | element (tag : Tag) (children : List Markup)
  /-- The outermost elements in an attribute or in braces. -/
  | embed (elements : List Markup)
  deriving Repr, Inhabited

/-- One thing of note in a source. -/
inductive Landmark where
  /-- A function statement. -/
  | function (name : String) (markup : Bool)
  /-- A variable whose initial value is a function. -/
  | bound (name : String) (markup : Bool)
  /-- A default export with a name. -/
  | defaultExport (name : String)
  /-- Variables taken from the result of a call: properties and local names. -/
  | destructuring (callee : String) (bindings : Entries String String)
  /-- The local names of an import. -/
  | importing (source : String) (names : List String)
  /-- An element that is in no other. -/
  | markup (root : Markup)
  deriving Repr, Inhabited

/-- What extraction needs to know of a source. -/
structure Outline where
  /-- The landmarks in the order of the source. -/
  landmarks : List Landmark
  /-- The byte offset after the hashbang line and the directives at the start. -/
  prologueEnd : Nat
  deriving Repr, Inhabited

namespace Tree

mutual
def size : Tree → Nat
  | leaf _ _ b t => width b + width t
  | node _ _ cs => sizeOf cs
/-- The number of bytes of a row of trees. -/
def sizeOf : List Tree → Nat
  | [] => 0
  | t :: ts => size t + sizeOf ts
end

mutual
def bare : Tree → Tree
  | node r .parenthesized cs => bareAmong (node r .parenthesized cs) cs
  | t => t
/-- The value in a row of trees without the parentheses around it, or else the tree given. -/
def bareAmong (whole : Tree) : List Tree → Tree
  | [] => whole
  | t :: ts => if t.role == .value then bare t else bareAmong whole ts
end

/-- The characters of a tree as a word. -/
def word (t : Tree) : String := String.ofList t.text

/-- Whether a tree is an element or a fragment. -/
def isElement (t : Tree) : Bool := t.kind == .element || t.kind == .selfClosing

/-- Whether a tree is a function in an expression. -/
def isFunctionValue (t : Tree) : Bool := t.kind == .arrowFunction || t.kind == .functionExpression

/-- Whether a part of a tree is markup once its parentheses are taken off. -/
def valueIsMarkup (t : Tree) : Bool :=
  match t.part .value with
  | some v => v.bare.isElement
  | none => false

/-- Whether a function returns markup: its body is markup, or one of its statements returns markup. -/
def returnsMarkup (t : Tree) : Bool :=
  match t.part .body with
  | none => false
  | some b =>
    if b.kind == .block then b.children.any fun s => s.kind == .returnStatement && s.valueIsMarkup
    else b.bare.isElement

end Tree

namespace Outline

/-! ## Functions, exports, variables and imports -/

/-- Takes the quotes off both ends of a property name. -/
def unquoted (cs : List Char) : List Char :=
  let isQuote := fun c : Char => c == '\'' || c == '"'
  ((cs.dropWhile isQuote).reverse.dropWhile isQuote).reverse

/-- The property and the local name that a part of an object pattern binds, if it binds one name. -/
def binding (t : Tree) : Option (String × String) :=
  match t.kind with
  | .shorthand => some (t.word, t.word)
  | .defaultedProperty => (t.part .left).map fun l => (l.word, l.word)
  | .pairPattern =>
    match t.part .key, t.part .value with
    | some key, some value =>
      let target := if value.kind == .defaultedPattern then value.part .left else some value
      match target with
      | some l => if l.kind == .identifier then some (String.ofList (unquoted key.text), l.word) else none
      | none => none
    | _, _ => none
  | _ => none

/-- What a variable with its initial value tells. -/
def ofDeclarator (t : Tree) : List Landmark :=
  match t.part .name, (t.part .value).map Tree.bare with
  | some name, some value =>
    if name.kind == .identifier && value.isFunctionValue then [.bound name.word value.returnsMarkup]
    else if name.kind == .objectPattern && value.kind == .call then
      match value.part .callee with
      | some callee =>
        if callee.kind == .identifier then
          [.destructuring callee.word (Entries.ofList (name.children.filterMap binding))]
        else []
      | none => []
    else []
  | _, _ => []

/-- An export tells the name of what it exports by default, if that is a named function or a variable. -/
def ofExport (t : Tree) : List Landmark :=
  if t.children.any (·.kind == .defaultWord) then
    match t.part .declaration with
    | some d =>
      if d.kind == .functionDeclaration then ((d.part .name).map fun n => .defaultExport n.word).toList else []
    | none =>
      match (t.part .value).map Tree.bare with
      | some v =>
        if v.kind == .identifier then [.defaultExport v.word]
        else if v.kind == .functionExpression then ((v.part .name).map fun n => .defaultExport n.word).toList
        else []
      | none => []
  else []

/-- The local names in a part of an import clause. -/
def importedNames (t : Tree) : List String :=
  match t.kind with
  | .identifier => [t.word]
  | .namespaceImport => (t.children.filter (·.kind == .identifier)).map Tree.word
  | .namedImports =>
    (t.children.filter (·.kind == .importSpecifier)).filterMap fun s =>
      ((s.part .alias).or (s.part .name)).map Tree.word
  | _ => []

def ofImport (t : Tree) : Landmark :=
  let clauses := t.children.filter (·.kind == .importClause)
  let source := ((t.part .source).map fun s => String.ofList (s.text.drop 1).dropLast).getD ""
  .importing source (clauses.flatMap fun c => c.children.flatMap importedNames)

/-- What a construct tells by itself, apart from the constructs in it. -/
def ofConstruct (t : Tree) : List Landmark :=
  match t.kind with
  | .functionDeclaration => ((t.part .name).map fun n => .function n.word t.returnsMarkup).toList
  | .declarator => ofDeclarator t
  | .exportStatement => ofExport t
  | .importStatement => [ofImport t]
  | _ => []

/-! ## Markup -/

/-- The tag of an element, given the parts of its opening tag. -/
def tagOf (front : List Tree) : Tag :=
  match Tree.inRole .name front with
  | none => .fragment
  | some n => if n.kind == .identifier || n.kind == .hyphenated then .named n.word else .compound

/-- A run of literal text that has not ended yet: where it starts and its characters. -/
abbrev OpenRun := Option (Nat × List Char)

/-- Adds to a run of literal text, or starts one: blanks before the first part do not belong to it. -/
def OpenRun.extend (run : OpenRun) (place : Nat) (before text : List Char) : OpenRun :=
  match run with
  | none => some (place + width before, text)
  | some (start, raw) => some (start, raw ++ before ++ text)

def OpenRun.close : OpenRun → List Markup
  | none => []
  | some (start, raw) => [.text raw ⟨start, start + width raw⟩]

/-- Elements in one place, if there are any. -/
def embedOf (elements : List Markup) : List Markup := if elements.isEmpty then [] else [.embed elements]

mutual
/-- The outermost elements in a tree that starts at a place. -/
def elementsOf (place : Nat) : Tree → List Markup
  | .leaf _ _ _ _ => []
  | .node _ .selfClosing cs => [.element (tagOf cs) (attributesOf place cs)]
  | .node _ .element (.node _ .opening front :: rest) =>
    [.element (tagOf front) (attributesOf place front ++ contentsOf (place + Tree.sizeOf front) none rest)]
  | .node _ _ cs => elementsOfAll place cs
/-- The outermost elements in a row of trees. -/
def elementsOfAll (place : Nat) : List Tree → List Markup
  | [] => []
  | t :: ts => elementsOf place t ++ elementsOfAll (place + t.size) ts
/-- The markup in the attributes of a tag. -/
def attributesOf (place : Nat) : List Tree → List Markup
  | [] => []
  | .node r .attribute cs :: ts =>
    embedOf (elementsOfAll place cs) ++ attributesOf (place + (Tree.node r .attribute cs).size) ts
  | .node r .embed cs :: ts =>
    embedOf (elementsOfAll place cs) ++ attributesOf (place + (Tree.node r .embed cs).size) ts
  | t :: ts => attributesOf (place + t.size) ts
/-- The markup between the tags of an element; a run of text goes on until something else comes. -/
def contentsOf (place : Nat) (run : OpenRun) : List Tree → List Markup
  | [] => run.close
  | .leaf _ .text b t :: ts => contentsOf (place + width b + width t) (run.extend place b t) ts
  | .leaf _ .reference b t :: ts => contentsOf (place + width b + width t) (run.extend place b t) ts
  | .node r .embed cs :: ts =>
    run.close ++ embedOf (elementsOfAll place cs) ++
      contentsOf (place + (Tree.node r .embed cs).size) none ts
  | .node _ .phrase _ :: _ => run.close
  | t :: ts => run.close ++ elementsOf place t ++ contentsOf (place + t.size) none ts
end

/-! ## The whole source -/

mutual
/-- The landmarks in a tree that starts at a place. Nothing inside markup or an import is one of its own. -/
def landmarksOf (place : Nat) : Tree → List Landmark
  | .leaf _ _ _ _ => []
  | .node r k cs =>
    if k == .element || k == .selfClosing then (elementsOf place (.node r k cs)).map .markup
    else if k == .importStatement then ofConstruct (.node r k cs)
    else ofConstruct (.node r k cs) ++ landmarksOfAll place cs
def landmarksOfAll (place : Nat) : List Tree → List Landmark
  | [] => []
  | t :: ts => landmarksOf place t ++ landmarksOfAll (place + t.size) ts
end

/-- Whether a statement is a directive: a string literal alone. -/
def isDirective (t : Tree) : Bool :=
  t.kind == .expressionStatement && (t.part .value).any (·.kind == .string)

/-- The byte offset after the hashbang line and the directives at the front of a row of statements; so far it is
the second number. -/
def prologueEndOf (place found : Nat) : List Tree → Nat
  | [] => found
  | t :: ts =>
    if t.kind == .hashbang || isDirective t then prologueEndOf (place + t.size) (place + t.size) ts else found

def ofDocument (d : Document) : Outline :=
  ⟨landmarksOfAll 0 d.trees, prologueEndOf 0 0 d.trees⟩

end Outline
end Phrasebook.Source
