/-!
# Syntax trees that keep every character

A source text is read into a tree whose leaves hold, besides their own characters, the blanks and
comments that stand before them. Nothing is dropped, so the characters of a tree, read from left to
right, are the text it was read from, and the position of every part follows from the widths of the
parts before it.

`Kind` names only the constructs that later passes look at; all other constructs are a `phrase`, and all
other words and signs a `token`.
-/

namespace Phrasebook.Source

/-- What a leaf or a node stands for. -/
inductive Kind where
  /-- A keyword, an operator, a sign or a literal that nothing looks at. -/
  | token
  /-- A name. -/
  | identifier
  /-- A tag or attribute name written with a hyphen. -/
  | hyphenated
  /-- A string literal in quotes. -/
  | string
  /-- The first line of a script that starts with a number sign and an exclamation mark. -/
  | hashbang
  /-- The keyword that marks a default export. -/
  | defaultWord
  /-- A stretch of literal text between tags. -/
  | text
  /-- A character reference between tags. -/
  | reference
  /-- A name in an object pattern that is both the property and the variable. -/
  | shorthand
  /-- Any construct that nothing looks at. -/
  | phrase
  /-- A function statement with a name, generator or not. -/
  | functionDeclaration
  /-- A function in an expression, not a generator. -/
  | functionExpression
  /-- An arrow function. -/
  | arrowFunction
  /-- One variable of a declaration, with its initial value. -/
  | declarator
  /-- An export statement. -/
  | exportStatement
  /-- An import statement. -/
  | importStatement
  /-- The names of an import statement. -/
  | importClause
  /-- The name of a whole imported module. -/
  | namespaceImport
  /-- The braces of an import statement. -/
  | namedImports
  /-- One name in the braces of an import statement. -/
  | importSpecifier
  /-- A pattern in braces. -/
  | objectPattern
  /-- A property of an object pattern with a default value. -/
  | defaultedProperty
  /-- A property of an object pattern followed by its own pattern. -/
  | pairPattern
  /-- A pattern with a default value. -/
  | defaultedPattern
  /-- A call. -/
  | call
  /-- A property of an object, by name or by index. -/
  | access
  /-- An expression in parentheses. -/
  | parenthesized
  /-- Statements in braces. -/
  | block
  /-- A return statement. -/
  | returnStatement
  /-- An expression used as a statement. -/
  | expressionStatement
  /-- An element with an opening and a closing tag, or a fragment. -/
  | element
  /-- An element that is only one tag. -/
  | selfClosing
  /-- The opening tag of an element. -/
  | opening
  /-- An attribute of a tag. -/
  | attribute
  /-- An expression in braces within markup. -/
  | embed
  deriving DecidableEq, Repr, Inhabited

/-- The part that a tree plays in the construct around it. -/
inductive Role where
  | plain
  | name
  | value
  | body
  | declaration
  | source
  | alias
  | key
  | left
  | callee
  deriving DecidableEq, Repr, Inhabited

/-- A syntax tree; each leaf keeps the blanks and comments that stand before it. -/
inductive Tree where
  | leaf (role : Role) (kind : Kind) (before text : List Char)
  | node (role : Role) (kind : Kind) (children : List Tree)
  deriving Repr, Inhabited

namespace Tree

def role : Tree → Role
  | leaf r _ _ _ => r
  | node r _ _ => r

def kind : Tree → Kind
  | leaf _ k _ _ => k
  | node _ k _ => k

/-- The parts of a node, none for a leaf. -/
def children : Tree → List Tree
  | leaf _ _ _ _ => []
  | node _ _ cs => cs

def withRole (r : Role) : Tree → Tree
  | leaf _ k b t => leaf r k b t
  | node _ k cs => node r k cs

mutual
/-- All characters of a tree from left to right. -/
def chars : Tree → List Char
  | leaf _ _ b t => b ++ t
  | node _ _ cs => charsOf cs
/-- All characters of a row of trees from left to right. -/
def charsOf : List Tree → List Char
  | [] => []
  | t :: ts => chars t ++ charsOf ts
end

mutual
/-- Whether a tree has no characters at all. -/
def isEmpty : Tree → Bool
  | leaf _ _ b t => b.isEmpty && t.isEmpty
  | node _ _ cs => areEmpty cs
/-- Whether a row of trees has no characters at all. -/
def areEmpty : List Tree → Bool
  | [] => true
  | t :: ts => isEmpty t && areEmpty ts
end

mutual
/-- The blanks and comments before the first leaf. -/
def lead : Tree → List Char
  | leaf _ _ b _ => b
  | node _ _ cs => leadOf cs
/-- The blanks and comments before the first leaf of a row. -/
def leadOf : List Tree → List Char
  | [] => []
  | t :: _ => lead t
end

/-- The characters of a tree without the blanks and comments before it. -/
def text (t : Tree) : List Char := t.chars.drop t.lead.length

/-- The first of the trees in a given role. -/
def inRole (r : Role) (ts : List Tree) : Option Tree := ts.find? (·.role == r)

/-- The part of a tree in a given role. -/
def part (r : Role) (t : Tree) : Option Tree := inRole r t.children

end Tree

/-- The number of bytes that characters take in UTF-8. -/
def width (cs : List Char) : Nat := cs.foldl (fun n c => n + c.utf8Size) 0

end Phrasebook.Source
