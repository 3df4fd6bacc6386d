import Phrasebook.Source.Grammar.Operands

/-!
# Expressions

The rules for operators with two and three operands. Nothing looks at how operators nest, so a row of operands and
operators is read as one construct; what matters is only where an expression starts and ends.
-/

namespace Phrasebook.Source.Grammar
open Reader

/-- All signs that can follow an operand, longer ones first. -/
def operatorSigns : List (List Char) :=
  [">>>=", "===", "!==", "**=", ">>>", ">>=", "<<=", "&&=", "||=", "??=", "=>", "==", "!=", "<=", ">=", "&&", "||",
    "??", "**", "<<", ">>", "++", "--", "+=", "-=", "*=", "/=", "%=", "^=", "&=", "|=", "&", "^", "|", "+", "-",
    "*", "/", "%", "<", ">"].map String.toList

def binarySigns : List (List Char) :=
  ["===", "!==", ">>>", "==", "!=", "<=", ">=", "&&", "||", "??", "**", "<<", ">>", "&", "^", "|", "+", "-", "*",
    "/", "%", "<", ">"].map String.toList

def binaryOperator : Reader :=
  signAmong operatorSigns binarySigns.contains <|> wordAmong .token (fun w => w == "in" || w == "instanceof")

/-- A type that a value is said to have. -/
def typeClaim (g : Rules) : Reader :=
  typedOnly (sameLine ++ wordAmong .token (fun w => w == "as" || w == "satisfies") ++ (word "const" <|> g .type))

def operands (g : Rules) (annotated : Bool) : Reader :=
  grouped (operand g annotated ++ many ((binaryOperator ++ g .operand) <|> typeClaim g))

/-- The sign of a condition; two of them, or a point after it, mean something else. -/
def conditionSign : Reader := leaf .token fun cs =>
  match cs with
  | '?' :: '?' :: _ => none
  | '?' :: '.' :: d :: r => if d.isDigit then some (['?'], '.' :: d :: r) else none
  | '?' :: r => some (['?'], r)
  | _ => none

/-- The two outcomes of a condition. A result type in the first would take its colon from the second, so where
that fails it is read again without. -/
def outcomes (g : Rules) : Reader := fun s c =>
  let between := fun q : Reader => q ++ sign ":"
  let first : Reader :=
    if s.dialect == .typed && (c.rest.head? == some '(' || headWord c == "async") then
      between (g .expression) <|> between (g .unannotated)
    else between (g .expression)
  (first ++ g .expression) s c

def expression (g : Rules) (annotated : Bool) : Reader :=
  grouped (operands g annotated ++ opt (conditionSign ++ outcomes g))

def expressions (g : Rules) : Reader := grouped (sepBy (g .expression) (sign ","))

end Phrasebook.Source.Grammar
