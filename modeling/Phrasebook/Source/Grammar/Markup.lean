import Phrasebook.Source.Grammar.Types

/-!
# Markup

The rules for elements: tags, attributes, and what stands between an opening and a closing tag. Between tags the
characters are read one by one: comments are text there, and only a stretch of blanks that starts with a line end
is no text.
-/

namespace Phrasebook.Source.Grammar
open Reader

/-- An expression in braces, possibly empty or spread. -/
def embed (g : Rules) : Reader :=
  construct .embed (braces (opt ((sign "..." ++ g .expression) <|> g .expressions)))

def markupWord : Reader := leaf .hyphenated Lexeme.hyphenatedName <|> anyName

/-- The name of a tag: a word, or words joined by a colon or by points. -/
def tagName : Reader :=
  firstOf
    [construct .phrase (markupWord ++ sign ":" ++ markupWord),
      leaf .hyphenated Lexeme.hyphenatedName,
      construct .phrase (anyName ++ atLeastOne (sign "." ++ anyName)),
      anyName]

/-- An attribute of a tag, or an expression in its place. -/
def tagAttribute (g : Rules) : Reader :=
  embed g <|>
    construct .attribute
      (markupWord ++ opt (sign ":" ++ markupWord) ++
        opt (sign "=" ++ firstOf [leaf .token Lexeme.tagString, embed g, g .element]))

def tagFront (g : Rules) : Reader :=
  sign "<" ++ as .name tagName ++ opt (typedOnly (typeArguments g)) ++ many (tagAttribute g)

/-- Something between an opening and a closing tag. -/
def child (g : Rules) : Reader := fun s c =>
  let (stretch, rest) := Lexeme.spanChars (fun d => !Lexeme.breaksText d) c.chars
  if Lexeme.isText false stretch then some ([.leaf .plain .text [] stretch], ⟨[], rest⟩)
  else match Lexeme.arrowComment rest with
    | some (comment, rest') => some ([.leaf .plain .token stretch comment], Cursor.ofChars rest')
    | none =>
      firstOf [leaf .reference Lexeme.reference, embed g, notAhead (sign "</") ++ g .element] s ⟨stretch, rest⟩

def closingTag : Reader := construct .phrase (sign "</" ++ opt tagName ++ sign ">")

/-- An element or a fragment. With types a tag without a name may close itself. -/
def element (g : Rules) : Reader :=
  firstOf
    [typedOnly (construct .selfClosing (sign "<" ++ sign "/>")),
      construct .element (construct .opening (sign "<" ++ sign ">") ++ many (child g) ++ closingTag),
      follow (tagFront g) fun front =>
        construct .selfClosing (given front ++ sign "/>") <|>
          construct .element (construct .opening (given front ++ sign ">") ++ many (child g) ++ closingTag)]

end Phrasebook.Source.Grammar
