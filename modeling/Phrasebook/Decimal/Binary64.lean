import Phrasebook.Decimal.Rounding

/-!
# Numbers in double precision

Numbers of the form `mantissa * 2 ^ exponent` with at most 53 binary digits, as computers keep them. Every result is the
number nearest to the exact one; of two that are equally near, the one with the even mantissa.
-/

namespace Phrasebook.Decimal

/-- A number in double precision. The mantissa of a finite one is below `2 ^ 53`, and at least `2 ^ 52` unless the
exponent is the least. -/
inductive Binary64 where
  | finite (negative : Bool) (mantissa : Nat) (exponent : Int)
  | infinite (negative : Bool)
  | nan
  deriving DecidableEq, Repr, Inhabited

namespace Binary64

def minExponent : Int := -1074

def maxExponent : Int := 971

/-- A quotient with a power of two taken out of it. -/
def scaled (num den : Nat) (exponent : Int) : Nat × Nat :=
  match exponent with
  | .ofNat e => (num, den * Nat.pow 2 e)
  | .negSucc e => (num * Nat.pow 2 (e + 1), den)

/-- The exponent at which a quotient has 53 binary digits. -/
def exactExponent (num den : Nat) : Int :=
  let estimate : Int := (num.log2 : Int) - (den.log2 : Int) - 52
  let (n, d) := scaled num den estimate
  if n < d * Nat.pow 2 52 then estimate - 1 else estimate

/-- The number with a mantissa and an exponent, unless it is too large. -/
def bounded (negative : Bool) (mantissa : Nat) (exponent : Int) : Binary64 :=
  if maxExponent < exponent then .infinite negative else .finite negative mantissa exponent

/-- The number with a rounded mantissa: rounding up may have made one digit more. -/
def ofRounded (negative : Bool) (mantissa : Nat) (exponent : Int) : Binary64 :=
  if mantissa == Nat.pow 2 53 then bounded negative (Nat.pow 2 52) (exponent + 1) else bounded negative mantissa exponent

def ofRatio (negative : Bool) (num den : Nat) : Binary64 :=
  if num == 0 || den == 0 then .finite negative 0 minExponent
  else
    let exponent := max (exactExponent num den) minExponent
    let (n, d) := scaled num den exponent
    ofRounded negative (roundDiv n d) exponent

/-- The number of decimal digits of a number, at least one. -/
def digitCount (n : Nat) : Nat := (Nat.toDigits 10 n).length

/-- The number nearest to a decimal one, `digits * 10 ^ exponent`. -/
def ofDecimal (negative : Bool) (digits : Nat) (exponent : Int) : Binary64 :=
  let magnitude : Int := exponent + digitCount digits
  if digits == 0 || magnitude < -400 then .finite negative 0 minExponent
  else if 400 < magnitude then .infinite negative
  else match exponent with
    | .ofNat e => ofRatio negative (digits * Nat.pow 10 e) 1
    | .negSucc e => ofRatio negative digits (Nat.pow 10 (e + 1))

/-- The size of a finite number as a quotient. -/
def ratio (mantissa : Nat) (exponent : Int) : Nat × Nat :=
  match exponent with
  | .ofNat e => (mantissa * Nat.pow 2 e, 1)
  | .negSucc e => (mantissa, Nat.pow 2 (e + 1))

/-- The number nearest to a multiple of a finite number. -/
def scale (factor : Nat) : Binary64 → Binary64
  | finite negative m e => let (n, d) := ratio m e; ofRatio negative (n * factor) d
  | other => other

def isZero : Binary64 → Bool
  | finite _ m _ => m == 0
  | _ => false

def isOne : Binary64 → Bool
  | finite negative m e => let (n, d) := ratio m e; !negative && n == d
  | _ => false

def isPositive : Binary64 → Bool
  | finite negative m _ => !negative && m != 0
  | infinite negative => !negative
  | nan => false

/-- Whether a number is at least some whole number. -/
def isAtLeast (bound : Nat) : Binary64 → Bool
  | finite negative m e => let (n, d) := ratio m e; !negative && bound * d ≤ n
  | infinite negative => !negative
  | nan => false

end Binary64
end Phrasebook.Decimal
