import Phrasebook.Source.Reader

/-!
# Types

The rules for types and for the parts of a declaration that only sources with types have: annotations, type
parameters, type arguments and the members of an object type.
-/

namespace Phrasebook.Source.Grammar
open Reader

/-- The name of a property: a name, a literal, a private name or an expression in brackets. -/
def propertyName (g : Rules) : Reader :=
  firstOf
    [anyName, stringLiteral, leaf .token Lexeme.number, sign "#" ++ anyName,
      construct .phrase (brackets (g .expression))]

/-- A word before a member's name that says something about the member. -/
def modifier (words : List String) : Reader :=
  wordAmong .token words.contains ++
    notAhead (firstOf (["(", "?", "!", ":", ";", "=", ",", "\x7d", "<"].map sign)) ++
    notAhead (fun _ c => if c.rest.isEmpty then some ([], c) else none)

def ascription (g : Rules) : Reader := sign ":" ++ g .type

def dottedName : Reader := anyName ++ many (sign "." ++ anyName)

def typeArguments (g : Rules) : Reader :=
  sign "<" ++ sepBy (g .type) (sign ",") ++ opt (sign ",") ++ sign ">"

/-- One type parameter, with its bound and its default. -/
def typeParameter (g : Rules) : Reader :=
  opt (word "const" ++ ahead anyName) ++ identifier ++ opt (word "extends" ++ g .type) ++
    opt (sign "=" ++ g .type)

def typeParameters (g : Rules) : Reader :=
  sign "<" ++ sepBy (typeParameter g) (sign ",") ++ opt (sign ",") ++ sign ">"

/-- What a function says about its result: a type, or what holds of a parameter. -/
def resultType (g : Rules) : Reader :=
  firstOf
    [word "asserts" ++ anyName ++ word "is" ++ g .type,
      word "asserts" ++ sameLine ++ wordAmong .token (fun w => w != "is" && w != "extends"),
      anyName ++ word "is" ++ g .type,
      g .type]

/-- The type parameters, parameters and result of a function; without types, its parameters alone. -/
def callSignature (g : Rules) : Reader :=
  opt (typedOnly (typeParameters g)) ++ g .parameters ++ opt (typedOnly (sign ":" ++ resultType g))

def functionType (g : Rules) : Reader :=
  opt (opt (word "abstract") ++ word "new") ++ opt (typeParameters g) ++ g .parameters ++ sign "=>" ++
    resultType g

def tupleMember (g : Rules) : Reader :=
  firstOf
    [opt (sign "...") ++ anyName ++ opt (sign "?") ++ ascription g,
      opt (sign "...") ++ g .type ++ opt (sign "?")]

def simpleType (g : Rules) : Reader :=
  firstOf
    [parens (g .type),
      g .objectType,
      brackets (commaList (tupleMember g)),
      template (g .type),
      stringLiteral,
      opt (sign "-") ++ leaf .token Lexeme.number,
      word "typeof" ++ typeQuery ++ opt (sameLine ++ typeArguments g),
      word "import" ++ parens (g .type) ++ many (sign "." ++ anyName) ++ opt (typeArguments g),
      wordAmong .token ["void", "null", "this", "true", "false"].contains,
      identifier ++ many (sign "." ++ anyName) ++ opt (sameLine ++ typeArguments g),
      sign "*"]
where
  /-- What the type is asked of. -/
  typeQuery : Reader :=
    (word "import" ++ parens stringLiteral ++ many (sign "." ++ anyName)) <|>
      (anyName ++ many (sign "." ++ opt (sign "#") ++ anyName))

/-- A type with array and index brackets after it. -/
def indexedType (g : Rules) : Reader :=
  simpleType g ++ many (sameLine ++ brackets (opt (g .type)))

def prefixedType (g : Rules) : Reader :=
  firstOf
    [many (wordAmong .token ["keyof", "readonly", "unique"].contains) ++ indexedType g,
      indexedType g]

/-- A function type, or a type with the words before it. -/
def typeOperand (g : Rules) : Reader :=
  firstOf
    [functionType g,
      word "infer" ++ anyName ++ opt (word "extends" ++ prefixedType g ++ notAhead (sign "?")),
      sign "?" ++ prefixedType g,
      prefixedType g]

/-- The sign between the members of a union or an intersection. -/
def unionSign : Reader := signBefore "|" ['|', '='] <|> signBefore "&" ['&', '=']

def unionType (g : Rules) : Reader := opt unionSign ++ sepBy (typeOperand g) unionSign

/-- A type; one that depends on another is written as a condition. -/
def type (g : Rules) : Reader :=
  construct .phrase <|
    unionType g ++
      opt (word "extends" ++ unionType g ++ sign "?" ++ g .type ++ sign ":" ++ g .type)

/-- A type member in brackets: an index, or a property for every member of another type. -/
def indexMember (g : Rules) : Reader :=
  opt (firstOf [sign "-", sign "+"] ++ word "readonly" <|> word "readonly" ++ ahead (sign "[")) ++
    sign "[" ++ anyName ++
    (ascription g <|> (word "in" ++ g .type ++ opt (word "as" ++ g .type))) ++ sign "]" ++
    firstOf [sign ":", sign "?:", sign "-?:", sign "+?:"] ++ g .type

/-- One of some words before a member's name, or none. -/
def optModifier (words : List String) : Reader := opt (modifier words)

def accessWords : List String := ["public", "private", "protected"]

/-- The words that may stand before a property of a type. -/
def propertyModifiers : Reader :=
  optModifier accessWords ++ optModifier ["static"] ++ optModifier ["override"] ++ optModifier ["readonly"]

/-- The words that may stand before a method, after those that a property may have. -/
def methodModifiers : Reader := optModifier ["async"] ++ opt (modifier ["get", "set"] <|> sign "*")

def typeMember (g : Rules) : Reader :=
  firstOf
    [indexMember g,
      opt (word "abstract") ++ word "new" ++ callSignature g,
      callSignature g,
      propertyModifiers ++ methodModifiers ++ propertyName g ++ opt (sign "?") ++ callSignature g,
      propertyModifiers ++ propertyName g ++ opt (sign "?") ++ opt (ascription g)]

/-- The members of an object type in braces. -/
def objectType (g : Rules) : Reader :=
  construct .phrase <|
    (sign "\x7b|" ++ members ++ sign "|\x7d") <|> braces members
where
  /-- Members with commas, semicolons or line ends between them. -/
  members : Reader :=
    opt (opt (sign "," <|> sign ";") ++ sepBy (typeMember g) memberEnd ++ opt memberEnd)
  /-- What stands between members. -/
  memberEnd : Reader := sign "," <|> semicolon false

end Phrasebook.Source.Grammar
