import Phrasebook.Source.Grammar.Patterns
import Phrasebook.Source.Grammar.Markup

/-!
# Operands

The rules for what stands between the operators of an expression: literals, functions, classes, calls, property
accesses and the operators with a single operand.
-/

namespace Phrasebook.Source.Grammar
open Reader

/-! ## Functions and classes -/

def functionBody (g : Rules) : Reader := as .body (g .block)

/-- The keyword of a function, with the word before it and the sign of a generator. -/
def functionWord (generator : Bool) : Reader :=
  opt (word "async" ++ sameLine) ++ word "function" ++ (if generator then sign "*" else notAhead (sign "*"))

def functionExpression (g : Rules) : Reader :=
  construct .functionExpression (functionWord false ++ rest) <|> construct .phrase (functionWord true ++ rest)
where
  /-- All that follows the keyword. -/
  rest : Reader := opt (as .name declaredName) ++ g .callSignature ++ functionBody g

def functionDeclaration (g : Rules) : Reader :=
  construct .functionDeclaration <|
    (functionWord false <|> functionWord true) ++ as .name declaredName ++ g .callSignature ++ functionBody g

/-- An arrow function; the result type may be ruled out where a colon means something else. -/
def arrowFunction (g : Rules) (annotated : Bool) : Reader :=
  construct .arrowFunction <|
    firstOf [word "async" ++ sameLine ++ front, front] ++ sign "=>" ++ as .body (g .block <|> g .expression)
where
  /-- The parameters. -/
  front : Reader := as .name variableName <|> (if annotated then g .callSignature else g .parameters)

def heritage (g : Rules) : Reader :=
  opt (word "extends" ++ g .operand ++ opt (typedOnly (typeArguments g)) ++
      many (sign "," ++ g .operand ++ opt (typedOnly (typeArguments g)))) ++
    opt (typedOnly (word "implements" ++ sepBy (g .type) (sign ",")))

def classRule (g : Rules) : Reader :=
  construct .phrase <|
    many (decorator g) ++ opt (typedOnly (word "abstract")) ++ word "class" ++
      opt (notAhead (word "implements") ++ identifier) ++ opt (typedOnly (typeParameters g)) ++ heritage g ++
      g .classBody

/-- The words that may stand before a method of a class. -/
def classMethodModifiers : Reader :=
  (typedOnly propertyModifiers <|> optModifier ["static"]) ++ methodModifiers

/-- The words that may stand before a field of a class. -/
def classFieldModifiers : Reader := typedOnly typed <|> optModifier ["static"]
where
  /-- With types: who may use the field, and then what kind of field it is. -/
  typed : Reader :=
    opt (modifier ["declare"] ++ optModifier accessWords <|>
        modifier accessWords ++ optModifier ["declare"]) ++
      firstOf
        [modifier ["accessor"],
          modifier ["abstract"] ++ optModifier ["readonly"],
          modifier ["readonly"] ++ modifier ["abstract"],
          optModifier ["static"] ++ optModifier ["override"] ++ optModifier ["readonly"]]

/-- The end of a member of a class that has no body: of a comma too, where there are types. -/
def memberStop (afterExpression : Bool) : Reader := semicolon afterExpression <|> typedOnly (sign ",")

def classMember (g : Rules) : Reader :=
  firstOf
    [sign ";",
      word "static" ++ g .block,
      method ++ functionBody g ++ opt (sign ";"),
      field ++ initializer g ++ memberStop true,
      field ++ memberStop false,
      typedOnly (indexMember g ++ memberStop false),
      typedOnly (method ++ memberStop false),
      typedOnly
        (many (decorator g) ++ optModifier accessWords ++ modifier ["abstract"] ++ optModifier ["override"] ++
          methodModifiers ++ propertyName g ++ opt (sign "?") ++ g .callSignature ++ memberStop false)]
where
  /-- A method without its body. -/
  method : Reader :=
    many (decorator g) ++ classMethodModifiers ++ propertyName g ++ opt (typedOnly (sign "?")) ++ g .callSignature
  /-- A field without its value. -/
  field : Reader :=
    many (decorator g) ++ classFieldModifiers ++ propertyName g ++
      opt (typedOnly (sign "?" <|> signBefore "!" ['='])) ++ opt (typedOnly (ascription g))

def classBody (g : Rules) : Reader := construct .phrase (braces (many (classMember g)))

/-! ## Literals -/

/-- An element of an array or an argument of a call. -/
def item (g : Rules) : Reader := construct .phrase (sign "..." ++ g .expression) <|> g .expression

def arguments (g : Rules) : Reader := construct .phrase (parens (commaSeparated (item g)))

def objectMember (g : Rules) : Reader :=
  construct .phrase <|
    firstOf
      [sign "..." ++ g .expression,
        classMethodModifiers ++ propertyName g ++ opt (typedOnly (sign "?")) ++ g .callSignature ++ functionBody g,
        propertyName g ++ sign ":" ++ g .expression,
        declaredName]

def objectLiteral (g : Rules) : Reader := construct .phrase (braces (commaSeparated (objectMember g)))

def arrayLiteral (g : Rules) : Reader := construct .phrase (brackets (commaSeparated (item g)))

/-- A value assigned to the parts of a pattern. -/
def patternAssignment (g : Rules) : Reader :=
  construct .phrase (destructuringPattern g ++ equals ++ g .expression)

def parenthesized (g : Rules) : Reader :=
  construct .parenthesized (parens (as .value (g .expressions) ++ opt (typedOnly (ascription g))))

/-! ## Names, calls and properties -/

def valueWords : List String := ["this", "super", "null", "true", "false", "undefined"]

/-- A property, an index or a call that follows a point with a question mark. -/
def optionalStep (g : Rules) (t : Tree) : Reader :=
  firstOf
    [construct .call
        (as .callee (given [t]) ++ optionalSign ++ opt (typedOnly (typeArguments g)) ++ arguments g),
      construct .access (given [t] ++ optionalSign ++ (brackets (g .expressions) <|> opt (sign "#") ++ anyName))]
where
  /-- The sign of an optional step; a digit after it makes it a condition. -/
  optionalSign : Reader := signBefore "?." ['0', '1', '2', '3', '4', '5', '6', '7', '8', '9']

def propertyStep (g : Rules) (t : Tree) : Reader :=
  construct .access <|
    given [t] ++ (signBefore "." ['.'] ++ opt (sign "#") ++ anyName <|> brackets (g .expressions))

/-- A call, with arguments or with a template. -/
def callStep (g : Rules) (t : Tree) : Reader :=
  construct .call <|
    as .callee (given [t]) ++
      firstOf
        [arguments g, template (g .expressions),
          typedOnly (typeArguments g) ++ (arguments g <|> template (g .expressions))]

/-- A name with type arguments that nothing is applied to: what follows can neither be an argument nor an operand. -/
def instantiationStep (g : Rules) (t : Tree) : Reader :=
  construct .phrase <|
    given [t] ++ typeArguments g ++
      ahead (firstOf ([")", "]", ",", ";", ":", "\x7d", ".", "?", "|", "&"].map sign) <|> insertedSemicolon true)

def presenceStep (t : Tree) : Reader :=
  typedOnly (construct .phrase (given [t] ++ sameLine ++ signBefore "!" ['=']))

/-- Anything that extends an operand to the right. -/
def operandStep (g : Rules) (t : Tree) : Reader :=
  fun s c =>
    match c.rest.head? with
    | some '.' => propertyStep g t s c
    | some '[' => propertyStep g t s c
    | some '?' => optionalStep g t s c
    | some '(' => callStep g t s c
    | some '\x60' => callStep g t s c
    | some '<' => typedOnly (callStep g t <|> instantiationStep g t) s c
    | some '!' => presenceStep t s c
    | _ => none

/-- What a new object is made of: a name with properties, without calls. -/
def constructor (g : Rules) (primary : Reader) : Reader :=
  chain primary fun t s c =>
    match c.rest.head? with
    | some '.' => propertyStep g t s c
    | some '[' => propertyStep g t s c
    | some '!' => presenceStep t s c
    | _ => none

/-- The word that loads a module where a call would stand, or asks for the module itself. -/
def moduleWord (g : Rules) : Reader :=
  construct .phrase (word "import" ++ sign "." ++ anyName) <|>
    construct .call (as .callee (word "import") ++ arguments g)

/-- An operand that starts with a word, other than a creation. -/
def wordOperand (g : Rules) (annotated : Bool) : Reader := fun s c =>
  let w := headWord c
  if w == "function" then functionExpression g s c
  else if w == "class" || w == "abstract" then firstOf [classRule g, arrowFunction g annotated, variableName] s c
  else if w == "async" then firstOf [functionExpression g, arrowFunction g annotated, variableName] s c
  else if w == "import" then moduleWord g s c
  else if valueWords.contains w then word w s c
  else firstOf
    [construct .arrowFunction (as .name variableName ++ sign "=>" ++ as .body (g .block <|> g .expression)),
      variableName] s c

/-- A literal, a name, a function, a class or an expression in parentheses. -/
def primary (g : Rules) (annotated : Bool) : Reader := fun s c =>
  match c.rest.head? with
  | none => none
  | some '(' => firstOf [arrowFunction g annotated, parenthesized g] s c
  | some '{' => objectLiteral g s c
  | some '[' => arrayLiteral g s c
  | some '\x60' => construct .phrase (template (g .expressions)) s c
  | some '"' => stringLiteral s c
  | some '\'' => stringLiteral s c
  | some '/' => leaf .token Lexeme.regularExpression s c
  | some '@' => classRule g s c
  | some '<' => typedOnly (arrowFunction g annotated) s c
  | some '#' => (sign "#" ++ anyName ++ ahead (word "in")) s c
  | some d =>
    if d == '.' || d.isDigit then leaf .token Lexeme.number s c
    else wordOperand g annotated s c

/-- The creation of an object; creations may be nested. -/
def creation (g : Rules) : Reader :=
  construct .phrase <|
    word "new" ++
      firstOf
        [sign "." ++ word "target",
          firstOf [g .creation, constructor g (grouped (primary g false))] ++
            opt (typedOnly (typeArguments g)) ++ opt (arguments g)]

/-! ## Operators with one operand -/

/-- Whether a value can be assigned to an operand. -/
def isAssignable (t : Tree) : Bool :=
  t.kind == .identifier || t.kind == .access || t.kind == .parenthesized

/-- All assignment signs, and the signs they must not be taken for. -/
def assignmentSigns : List (List Char) :=
  [">>>=", "===", "**=", ">>=", "<<=", "&&=", "||=", "??=", "==", "=>", "+=", "-=", "*=", "/=", "%=", "^=", "&=",
    "|=", "="].map String.toList

def comparisonSigns : List (List Char) := ["===", "==", "=>"].map String.toList

def assignmentStep (g : Rules) (t : Tree) : Reader :=
  if isAssignable t then
    construct .phrase <|
      given [t] ++ signAmong assignmentSigns (fun w => !comparisonSigns.contains w) ++ g .expression
  else refuse

def stepSign : Reader := sign "++" <|> sign "--"

/-- An operand after its last step: counted up or down, assigned to, or as it is. -/
def finished (g : Rules) (p : Reader) : Reader :=
  follow p fun ts =>
    match ts with
    | [t] => firstOf [construct .phrase (given ts ++ sameLine ++ stepSign), assignmentStep g t, given ts]
    | _ => given ts

def extendedOperand (g : Rules) (annotated : Bool) : Reader := fun s c =>
  let start := primary g annotated
  finished g (chain (grouped start) (operandStep g)) s c

/-- The creation of an object with everything that extends it. -/
def extendedCreation (g : Rules) : Reader := fun s c =>
  finished g (chain (creation g) (operandStep g)) s c

def yielding (g : Rules) : Reader :=
  construct .phrase <|
    word "yield" ++
      firstOf [ahead (insertedSemicolon false), sign "*" ++ g .expression, opt (g .expression)]

/-- An assignment of something that is let go at the end of its block. -/
def usingAssignment (g : Rules) : Reader :=
  construct .phrase (word "using" ++ (g .pattern <|> parenthesized g) ++ equals ++ g .expression)

def operand (g : Rules) (annotated : Bool) : Reader := afterArrowComments fun s c =>
  match c.rest.head? with
  | none => none
  | some '<' => firstOf [typedOnly (extendedOperand g annotated), g .element] s c
  | some '!' => construct .phrase (sign "!" ++ g .operand) s c
  | some '~' => construct .phrase (sign "~" ++ g .operand) s c
  | some '+' => construct .phrase ((sign "++" <|> sign "+") ++ g .operand) s c
  | some '-' => construct .phrase ((sign "--" <|> sign "-") ++ g .operand) s c
  | some '{' => firstOf [patternAssignment g, extendedOperand g annotated] s c
  | some '[' => firstOf [patternAssignment g, extendedOperand g annotated] s c
  | some d =>
    if Lexeme.isNameBreak d || d.isDigit then extendedOperand g annotated s c
    else
      let w := headWord c
      if w == "typeof" || w == "void" || w == "delete" || w == "await" then
        construct .phrase (word w ++ g .operand) s c
      else if w == "yield" then yielding g s c
      else if w == "using" then (usingAssignment g <|> extendedOperand g annotated) s c
      else if w == "new" then extendedCreation g s c
      else extendedOperand g annotated s c

end Phrasebook.Source.Grammar
