import Phrasebook.Text.CaseTable

/-!
# Texts in lower case

Every character is replaced by its lower-case counterpart. Two characters go by rules of their own: a capital I with a
dot becomes an i with a combining dot, and a capital sigma at the end of a word becomes a final sigma.
-/

namespace Phrasebook.Text

def CaseRun.contains (run : CaseRun) (n : Nat) : Bool :=
  run.first ≤ n && n ≤ run.last && (n - run.first) % run.step == 0

/-- Whether a character is the counterpart of a character in a run. -/
def CaseRun.containsLower (run : CaseRun) (n : Nat) : Bool :=
  run.lower ≤ n && n ≤ run.lower + (run.last - run.first) && (n - run.lower) % run.step == 0

/-- The lower-case counterpart of a character, by the runs alone. -/
def lowerChar (c : Char) : Char :=
  if c.toNat < 0x80 then c.toLower
  else match caseRuns.find? (·.contains c.toNat) with
    | some run => Char.ofNat (run.lower + (c.toNat - run.first))
    | none => c

/-- Whether a character is one of a pair of an upper-case and a lower-case letter. -/
def isCased (c : Char) : Bool := caseRuns.any fun run => run.contains c.toNat || run.containsLower c.toNat

/-- A text in lower case, given whether a letter stands before it. -/
def lowerFrom : (afterLetter : Bool) → List Char → List Char
  | _, [] => []
  | afterLetter, c :: r =>
    if c == '\u0130' then 'i' :: '\u0307' :: lowerFrom true r
    else if c == '\u03a3' then
      let atEnd := afterLetter && !(r.head?.map isCased).getD false
      (if atEnd then '\u03c2' else '\u03c3') :: lowerFrom true r
    else lowerChar c :: lowerFrom (isCased c) r

def lower (cs : List Char) : List Char := lowerFrom false cs

def lowerString (s : String) : String := String.ofList (lower s.toList)

end Phrasebook.Text
