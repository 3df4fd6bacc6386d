import Phrasebook.Decimal.Binary64

/-!
# Decimal texts of numbers

The shortest text writes a number with the fewest digits that read back as the same number, and of those the nearest to
it. The fixed text writes it with one place after the point.
-/

namespace Phrasebook.Decimal

def digitsOf (n : Nat) : List Char := Nat.toDigits 10 n

/-- No other character is in the digits of a number. -/
theorem not_mem_toDigits {c : Char} (h : c.isDigit = false) (n : Nat) : c ∉ Nat.toDigits 10 n := by
  intro hmem
  rw [Nat.isDigit_of_mem_toDigits (by decide) (by decide) hmem] at h
  exact Bool.noConfusion h

def powerOfTen (exponent : Int) : Nat × Nat :=
  match exponent with
  | .ofNat e => (Nat.pow 10 e, 1)
  | .negSucc e => (1, Nat.pow 10 (e + 1))

def ratioLess (a b : Nat × Nat) : Bool := a.1 * b.2 < b.1 * a.2

/-- The least exponent from a start on whose power of ten is above a quotient; fuel bounds the search. -/
def exponentAbove (value : Nat × Nat) : Nat → Int → Int
  | 0, e => e
  | n + 1, e => if ratioLess value (powerOfTen e) then e else exponentAbove value n (e + 1)

/-- The exponent `p` with `10 ^ (p - 1) ≤ value < 10 ^ p`. -/
def magnitude (value : Nat × Nat) : Int :=
  let bits : Int := (value.1.log2 : Int) - (value.2.log2 : Int)
  exponentAbove value 4 (bits * 30103 / 100000 - 1)

/-- The numbers that are read as a given one: the ends of the range, and whether they belong to it. -/
structure Range where
  low : Nat × Nat
  high : Nat × Nat
  closed : Bool

def Range.of (m : Nat) (e : Int) : Range :=
  let narrow := m == Nat.pow 2 52 && Binary64.minExponent < e
  ⟨if narrow then Binary64.ratio (4 * m - 1) (e - 2) else Binary64.ratio (2 * m - 1) (e - 1),
    Binary64.ratio (2 * m + 1) (e - 1), m % 2 == 0⟩

def Range.contains (r : Range) (v : Nat × Nat) : Bool :=
  if r.closed then !ratioLess v r.low && !ratioLess r.high v else ratioLess r.low v && ratioLess v r.high

/-- The decimal number with a given count of digits that is nearest to a value and is read as it: its digits as a
number, and the exponent of their last place. -/
def onGrid (value : Nat × Nat) (range : Range) (place : Int) (count : Nat) : Option (Nat × Int) :=
  let unit := place - count
  let power := powerOfTen unit
  let num := value.1 * power.2
  let den := value.2 * power.1
  let point := fun n : Nat => (n * power.1, power.2)
  let below := num / den
  let nearest := roundDiv num den
  let other := if nearest == below then below + 1 else below
  if range.contains (point nearest) then some (nearest, unit)
  else if range.contains (point other) then some (other, unit)
  else none

/-- The shortest decimal number that is read as a given one. -/
def shortest (m : Nat) (e : Int) : Nat × Int :=
  let value := Binary64.ratio m e
  let place := magnitude value
  let range := Range.of m e
  ((List.range 17).findSome? fun n => onGrid value range place (n + 1)).getD (roundDiv value.1 value.2, 0)

/-- Digits without the zeros at their end, with the exponent of their last place. -/
def withoutZeros (digits : Nat) (exponent : Int) : List Char × Int :=
  let all := digitsOf digits
  let kept := (all.reverse.dropWhile (· == '0')).reverse
  (kept, exponent + (all.length - kept.length : Nat))

/-- An exponent with its sign and at least two digits. -/
def exponentText (e : Int) : List Char :=
  let ds := digitsOf e.natAbs
  (if e < 0 then ['e', '-'] else ['e', '+']) ++ (if ds.length < 2 then '0' :: ds else ds)

/-- Digits with a point after some of them: positional from one ten-thousandth up to below `10 ^ 16`, with at least one
digit after the point; else with one digit before the point and an exponent. -/
def positional (digits : List Char) (exponent : Int) : List Char :=
  let point : Int := digits.length + exponent
  if -4 < point && point ≤ 16 then
    if point ≤ 0 then ['0', '.'] ++ List.replicate (-point).toNat '0' ++ digits
    else if digits.length ≤ point.toNat then
      digits ++ List.replicate (point.toNat - digits.length) '0' ++ ['.', '0']
    else digits.take point.toNat ++ '.' :: digits.drop point.toNat
  else
    let rest := digits.drop 1
    digits.take 1 ++ (if rest.isEmpty then [] else '.' :: rest) ++ exponentText (point - 1)

/-- How a kind of text spells the numbers that are not finite. -/
structure Spelling where
  infinity : String
  nan : String

def signText (negative : Bool) : String := if negative then "-" else ""

def shortestText (spelling : Spelling) : Binary64 → String
  | .nan => spelling.nan
  | .infinite negative => signText negative ++ spelling.infinity
  | .finite negative m e =>
    if m == 0 then signText negative ++ "0.0"
    else
      let (digits, exponent) := shortest m e
      let (kept, exponent) := withoutZeros digits exponent
      signText negative ++ String.ofList (positional kept exponent)

/-- A number of tenths with one place after the point. -/
def tenthsText (tenths : Nat) : String := s!"{tenths / 10}.{tenths % 10}"

/-- The text of a number with one place after the point. -/
def fixedText (spelling : Spelling) : Binary64 → String
  | .nan => spelling.nan
  | .infinite negative => signText negative ++ spelling.infinity
  | .finite negative m e =>
    let (n, d) := Binary64.ratio m e
    signText negative ++ tenthsText (roundDiv (n * 10) d)

end Phrasebook.Decimal
