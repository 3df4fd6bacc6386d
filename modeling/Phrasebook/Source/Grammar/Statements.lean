import Phrasebook.Source.Grammar.Expressions

/-!
# Statements

The rules for statements and declarations, for imports and exports among them, and for a whole source.
-/

namespace Phrasebook.Source.Grammar
open Reader

/-! ## Declarations -/

/-- One variable with its type and its initial value. -/
def declarator (g : Rules) : Reader :=
  construct .declarator <|
    as .name (destructuringPattern g <|> declaredName) ++ opt (typedOnly (sign "!")) ++
      opt (typedOnly (ascription g)) ++ opt (initializer g)

/-- Whether the last tree ends in a value, so that what follows could go on with it. -/
def endsInValue (ts : List Tree) : Bool :=
  match ts.getLast? with
  | some t => (t.part .value).isSome
  | none => false

/-- Reads the end of a statement whose last part may be an expression. -/
def ended (p : Reader) : Reader := follow p fun ts => given ts ++ semicolon (endsInValue ts)

def declarators (g : Rules) : Reader :=
  wordAmong .token ["var", "let", "const"].contains ++ ahead (firstOf [declaredName, sign "\x7b", sign "["]) ++
    sepBy (declarator g) (sign ",")

def variableDeclaration (g : Rules) : Reader := construct .phrase (ended (declarators g))

/-- A function that is declared without its statements. -/
def functionSignature (g : Rules) : Reader :=
  typedOnly <| construct .phrase <|
    (functionWord false <|> functionWord true) ++ as .name declaredName ++ g .callSignature ++ semicolon false

def typeAlias (g : Rules) : Reader :=
  typedOnly <| construct .phrase <|
    word "type" ++ sameLine ++ identifier ++ opt (typeParameters g) ++ equals ++ g .type ++ semicolon false

def interfaceDeclaration (g : Rules) : Reader :=
  typedOnly <| construct .phrase <|
    word "interface" ++ identifier ++ opt (typeParameters g) ++
      opt (word "extends" ++ sepBy (g .type) (sign ",")) ++ g .objectType

def enumeration (g : Rules) : Reader :=
  typedOnly <| construct .phrase <|
    opt (word "const") ++ word "enum" ++ identifier ++
      braces (commaList (propertyName g ++ opt (initializer g)))

def classDeclaration (g : Rules) : Reader := classRule g

def namespaceDeclaration (g : Rules) : Reader :=
  typedOnly <| construct .phrase <|
    wordAmong .token ["namespace", "module"].contains ++ sameLine ++ (stringLiteral <|> dottedName) ++
      (g .block <|> semicolon false)

def ambientDeclaration (g : Rules) : Reader :=
  typedOnly <| construct .phrase <|
    word "declare" ++ sameLine ++
      firstOf [word "global" ++ g .block, g .declaration]

def importAlias : Reader :=
  typedOnly <| construct .phrase <|
    word "import" ++ anyName ++ equals ++ dottedName ++ semicolon false

def declaration (g : Rules) : Reader := fun s c =>
  match headWord c with
  | "function" => firstOf [functionDeclaration g, functionSignature g] s c
  | "async" => firstOf [functionDeclaration g, functionSignature g] s c
  | "class" => classDeclaration g s c
  | "abstract" => typedOnly (classDeclaration g) s c
  | "const" => firstOf [enumeration g, variableDeclaration g] s c
  | "let" => variableDeclaration g s c
  | "var" => variableDeclaration g s c
  | "type" => typeAlias g s c
  | "interface" => interfaceDeclaration g s c
  | "enum" => enumeration g s c
  | "namespace" => namespaceDeclaration g s c
  | "module" => namespaceDeclaration g s c
  | "declare" => ambientDeclaration g s c
  | "import" => importAlias s c
  | _ => if c.rest.head? == some '@' then classDeclaration g s c else none

/-! ## Imports and exports -/

/-- The name of an exported thing: a name, the word for the default, or a string. -/
def exportedName : Reader := firstOf [declaredName, wordAmong .identifier (· == "default"), stringLiteral]

/-- One name in the braces of an import. -/
def importSpecifier : Reader :=
  construct .importSpecifier <|
    firstOf [renamed ++ closes, typedOnly (wordAmong .token ["type", "typeof"].contains) ++ renamed ++ closes]
where
  /-- A name, or a name and the one it gets. -/
  renamed : Reader :=
    firstOf
      [as .name exportedName ++ word "as" ++ as .alias declaredName,
        notAhead (word "default") ++ as .name declaredName]
  /-- The end of an entry comes next. -/
  closes : Reader := ahead (sign "," <|> sign "\x7d")

def namedImports : Reader :=
  construct .namedImports <|
    braces (opt (sepBy importSpecifier (sign ",")) ++ opt (sign ","))

def namespaceImport : Reader := construct .namespaceImport (sign "*" ++ word "as" ++ declaredName)

def importClause : Reader :=
  construct .importClause <|
    firstOf
      [namespaceImport, namedImports,
        declaredName ++ opt (sign "," ++ (namespaceImport <|> namedImports))]

def fromClause : Reader := word "from" ++ as .source stringLiteral

/-- What is said about how a module is loaded. -/
def importAttributes (g : Rules) : Reader := opt (word "with" ++ objectLiteral g)

def importStatement (g : Rules) : Reader :=
  construct .importStatement <|
    word "import" ++
      firstOf
        [importClause ++ fromClause ++ importAttributes g,
          as .source stringLiteral ++ importAttributes g,
          typedOnly (wordAmong .token ["type", "typeof"].contains ++ importClause ++ fromClause ++
            importAttributes g),
          typedOnly (opt (word "type") ++
            construct .phrase (identifier ++ equals ++ word "require" ++ parens stringLiteral))] ++
      semicolon false

/-- One name in the braces of an export. -/
def exportSpecifier : Reader :=
  firstOf [renamed ++ closes, typedOnly (wordAmong .token ["type", "typeof"].contains) ++ renamed ++ closes]
where
  /-- A name, or a name and the one it gets. -/
  renamed : Reader := firstOf [exportedName ++ word "as" ++ exportedName, exportedName]
  /-- The end of an entry comes next. -/
  closes : Reader := ahead (sign "," <|> sign "\x7d")

def exportClause : Reader := braces (opt (sepBy exportSpecifier (sign ",")) ++ opt (sign ","))

def defaultExport (g : Rules) : Reader :=
  wordAmong .defaultWord (· == "default") ++
    firstOf [as .declaration (declaration g), as .value (g .expression) ++ semicolon true]

def exportStatement (g : Rules) : Reader :=
  construct .exportStatement <|
    many (decorator g) ++ word "export" ++
      firstOf
        [defaultExport g,
          opt (typedOnly (word "type")) ++ sign "*" ++ opt (word "as" ++ exportedName) ++ fromClause ++
            importAttributes g ++ semicolon false,
          opt (typedOnly (word "type")) ++ construct .phrase exportClause ++ opt (fromClause ++ importAttributes g) ++
            semicolon false,
          as .declaration (declaration g),
          typedOnly (importStatement g),
          typedOnly (equals ++ g .expression ++ semicolon true),
          typedOnly (word "as" ++ word "namespace" ++ identifier ++ semicolon false)]

/-! ## Control -/

/-- Statements, with comments opened by arrows between them. -/
def statements (g : Rules) : Reader := many (arrowComment <|> g .statement)

def block (g : Rules) : Reader := construct .block (braces (statements g))

def ifStatement (g : Rules) : Reader :=
  word "if" ++ parenthesized g ++ g .statement ++ opt (word "else" ++ g .statement)

def eachHead (g : Rules) : Reader :=
  firstOf
      [word "var" ++ declared ++ opt (initializer g),
        wordAmong .token ["let", "const"].contains ++ declared,
        g .pattern, parenthesized g] ++
    (word "in" <|> word "of") ++ g .expressions
where
  /-- What is declared for each round. -/
  declared : Reader := destructuringPattern g <|> declaredName

def countHead (g : Rules) : Reader :=
  firstOf [construct .phrase (declarators g) ++ sign ";", opt (g .expressions) ++ sign ";"] ++
    opt (g .expressions) ++ sign ";" ++ opt (g .expressions)

/-- A loop over the members of something, or a counting loop. -/
def forStatement (g : Rules) : Reader :=
  word "for" ++ opt (word "await") ++ parens (firstOf [eachHead g ++ ahead (sign ")"), countHead g]) ++ g .statement

def switchCase (g : Rules) : Reader :=
  (word "case" ++ g .expressions <|> word "default") ++ sign ":" ++ many (notAhead caseWord ++ g .statement)
where
  /-- The start of the next case. -/
  caseWord : Reader := word "case" ++ g .expressions ++ sign ":" <|> word "default" ++ sign ":"

def switchStatement (g : Rules) : Reader :=
  word "switch" ++ parenthesized g ++ braces (many (switchCase g))

def tryStatement (g : Rules) : Reader :=
  word "try" ++ g .block ++
    opt (word "catch" ++ opt (parens (g .pattern ++ opt (typedOnly (ascription g)))) ++ g .block) ++
    opt (word "finally" ++ g .block)

def jump (w : String) : Reader :=
  word w ++ firstOf [insertedSemicolon false, opt identifier ++ semicolon false]

def returnStatement (g : Rules) : Reader :=
  construct .returnStatement <|
    word "return" ++
      firstOf [insertedSemicolon false, as .value (g .expressions) ++ semicolon true, semicolon false]

def expressionStatement (g : Rules) : Reader :=
  construct .expressionStatement (as .value (g .expressions) ++ semicolon true)

def labelled (g : Rules) : Reader := identifier ++ sign ":" ++ g .statement

/-- A statement that starts with the given word. -/
def statementOf (g : Rules) : String → Reader
  | "import" => firstOf [importStatement g, declaration g, expressionStatement g]
  | "export" => exportStatement g
  | "if" => construct .phrase (ifStatement g)
  | "for" => construct .phrase (forStatement g)
  | "switch" => construct .phrase (switchStatement g)
  | "while" => construct .phrase (word "while" ++ parenthesized g ++ g .statement)
  | "do" =>
    construct .phrase
      (word "do" ++ g .statement ++ word "while" ++ parenthesized g ++ opt (semicolon false))
  | "with" => construct .phrase (word "with" ++ parenthesized g ++ g .statement)
  | "try" => construct .phrase (tryStatement g)
  | "return" => returnStatement g
  | "throw" => construct .phrase (word "throw" ++ g .expressions ++ semicolon true)
  | "break" => construct .phrase (jump "break")
  | "continue" => construct .phrase (jump "continue")
  | "debugger" => construct .phrase (word "debugger" ++ semicolon false)
  | "" => firstOf [exportStatement g, declaration g, expressionStatement g]
  | w =>
    if reserved.contains w && !operandWords.contains w then declaration g
    else firstOf [declaration g, construct .phrase (labelled g), expressionStatement g]

def statement (g : Rules) : Reader := fun s c =>
  match c.rest.head? with
  | none => none
  | some ';' => construct .phrase (sign ";") s c
  | some '{' => block g s c
  | some '@' => firstOf [exportStatement g, declaration g, expressionStatement g] s c
  | some d =>
    if Lexeme.isNameBreak d || d.isDigit then expressionStatement g s c
    else statementOf g (headWord c) s c

end Phrasebook.Source.Grammar
