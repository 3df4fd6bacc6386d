import Phrasebook.Source.Grammar.Types

/-!
# Patterns and parameters

The rules for what a value can be bound to: names, object and array patterns, and the parameters of functions.
-/

namespace Phrasebook.Source.Grammar
open Reader

def equals : Reader := signBefore "=" ['=', '>']

def initializer (g : Rules) : Reader := equals ++ as .value (g .expression)

/-- A pattern, with or without a default value. -/
def patternWithDefault (g : Rules) : Reader :=
  construct .defaultedPattern (as .left (g .pattern) ++ equals ++ g .expression) <|> g .pattern

def restPattern (g : Rules) : Reader := construct .phrase (sign "..." ++ g .pattern)

/-- A name that is both a property and a variable. -/
def shorthand : Reader := fun s c =>
  wordAmong .shorthand (fun w => s.dialect == .typed || !reserved.contains w) s c

def propertyPattern (g : Rules) : Reader :=
  firstOf
    [restPattern g,
      construct .pairPattern (as .key (propertyName g) ++ sign ":" ++ as .value (patternWithDefault g)),
      construct .defaultedProperty (as .left shorthand ++ equals ++ g .expression),
      shorthand]

def objectPattern (g : Rules) : Reader :=
  construct .objectPattern (braces (commaSeparated (propertyPattern g)))

def arrayPattern (g : Rules) : Reader :=
  construct .phrase (brackets (commaSeparated (restPattern g <|> patternWithDefault g)))

def destructuringPattern (g : Rules) : Reader := objectPattern g <|> arrayPattern g

/-- A property that a value can be assigned to. -/
def assignableProperty (g : Rules) : Reader :=
  construct .access <|
    (identifier <|> word "this") ++
      atLeastOne (sign "." ++ opt (sign "#") ++ anyName <|> brackets (g .expressions))

def pattern (g : Rules) : Reader :=
  firstOf [destructuringPattern g, assignableProperty g, variableName]

/-- A decorator: a name, a call, or an expression in parentheses, after an at sign. -/
def decorator (g : Rules) : Reader :=
  construct .phrase <|
    sign "@" ++
      (parens (g .expressions) <|>
        (dottedName ++ opt (typedOnly (typeArguments g)) ++ many (parens (commaSeparated (argument)))))
where
  /-- An argument of a decorator's call. -/
  argument : Reader := opt (sign "...") ++ g .expression

def parameter (g : Rules) : Reader :=
  construct .phrase <|
    many (decorator g) ++
      opt (typedOnly (atLeastOne (modifier ["public", "private", "protected", "override", "readonly"]))) ++
      firstOf [restPattern g, g .pattern, typedOnly (word "this")] ++
      opt (typedOnly (sign "?")) ++ opt (typedOnly (ascription g)) ++ opt (initializer g)

def parameters (g : Rules) : Reader := construct .phrase (parens (commaList (parameter g)))

end Phrasebook.Source.Grammar
