import Mathlib.Data.List.TakeWhile
import Phrasebook.Json.Reader

/-!
# Where numbers and words end

A number of a JSON text goes on as far as it can. What follows it ends it, unless it starts with a digit, a point, a
sign or the letter of an exponent. So a number is read the same whatever ends it, and a word is read the same whatever
follows it.

Results:
1. `Ends`: what a class of characters does not go on with.
2. `wholePart_read`, `optionalFraction_read`, `optionalExponent_read`: the parts of a number.
3. `number?_read`, `word?_read`: numbers and words.
-/

namespace Phrasebook.Json

/-! ## 1. Ends -/

/-- Whether a text ends something that goes on with the characters of a class. -/
def Ends (goesOn : Char → Bool) (cs : List Char) : Prop := ∀ c ∈ cs.head?, goesOn c = false

namespace Ends

variable {p q : Char → Bool} {cs ds : List Char}

theorem nil : Ends p [] := fun _ hc => absurd hc (by simp)

theorem cons {c : Char} (h : p c = false) (cs : List Char) : Ends p (c :: cs) := fun _ hd => Option.some.inj hd ▸ h

theorem append (h : Ends p cs) (h' : Ends p ds) : Ends p (cs ++ ds) := by
  cases cs with
  | nil => exact h'
  | cons c cs => exact cons (h c rfl) _

theorem mono (h : Ends p cs) (hle : ∀ c, q c = true → p c = true) : Ends q cs := by
  intro c hc
  cases hq : q c with
  | false => rfl
  | true => exact absurd (hle c hq) (by rw [h c hc]; decide)

theorem takeWhile_eq_nil (h : Ends p cs) : cs.takeWhile p = [] := by
  cases cs with
  | nil => rfl
  | cons c cs => exact List.takeWhile_cons_of_neg (by rw [h c rfl]; decide)

theorem dropWhile_eq (h : Ends p cs) : cs.dropWhile p = cs := by
  cases cs with
  | nil => rfl
  | cons c cs => exact List.dropWhile_cons_of_neg (by rw [h c rfl]; decide)

end Ends

/-- What goes on with a class of characters is taken up to where it ends. -/
theorem takeWhile_append_of_ends {p : Char → Bool} {cs rest : List Char} (h : ∀ c ∈ cs, p c = true)
    (hrest : Ends p rest) : (cs ++ rest).takeWhile p = cs := by
  rw [List.takeWhile_append_of_pos h, hrest.takeWhile_eq_nil, List.append_nil]

theorem dropWhile_append_of_ends {p : Char → Bool} {cs rest : List Char} (h : ∀ c ∈ cs, p c = true)
    (hrest : Ends p rest) : (cs ++ rest).dropWhile p = rest := by
  rw [List.dropWhile_append_of_pos h, hrest.dropWhile_eq]

def isNumeral (c : Char) : Bool := c.isDigit || "+-.eE".toList.contains c

theorem isNumeral_of_isDigit {c : Char} (h : c.isDigit = true) : isNumeral c = true := by
  rw [isNumeral, h, Bool.true_or]

theorem isDigit_of_mem_takeWhile {cs : List Char} : ∀ c ∈ cs.takeWhile Char.isDigit, c.isDigit = true :=
  fun _ hc => List.mem_takeWhile_imp hc

/-! ## 2. Parts of numbers -/

theorem wholePart_read {cs left digits : List Char} (h : wholePart cs = some (digits, left)) :
    ∃ read, cs = read ++ left ∧ read ≠ [] ∧ (∀ c ∈ read, c.isDigit = true) ∧
      ∀ rest, Ends Char.isDigit rest → wholePart (read ++ rest) = some (digits, rest) := by
  rw [wholePart.eq_def] at h
  split at h
  · exact absurd h (by simp)
  · rename_i c r
    split at h
    · rename_i hzero
      rw [Option.some.injEq, Prod.mk.injEq] at h
      rw [beq_iff_eq] at hzero
      refine ⟨['0'], by rw [hzero, h.2]; rfl, by simp, List.forall_mem_singleton.mpr rfl, fun rest _ => ?_⟩
      rw [List.singleton_append, wholePart, ← h.1]
      rfl
    · rename_i hzero
      split at h
      · rename_i hdigit
        rw [Option.some.injEq, Prod.mk.injEq] at h
        refine ⟨digits, ?_, ?_, h.1 ▸ isDigit_of_mem_takeWhile, fun rest hrest => ?_⟩
        · rw [← h.1, ← h.2, List.takeWhile_append_dropWhile]
        · rw [← h.1, List.takeWhile_cons_of_pos hdigit]
          exact List.cons_ne_nil _ _
        · have htake := takeWhile_append_of_ends (h.1 ▸ isDigit_of_mem_takeWhile) hrest
          have hdrop := dropWhile_append_of_ends (h.1 ▸ isDigit_of_mem_takeWhile) hrest
          have hcons : digits ++ rest = c :: (r.takeWhile Char.isDigit ++ rest) := by
            rw [← h.1, List.takeWhile_cons_of_pos hdigit, List.cons_append]
          rw [hcons] at htake hdrop ⊢
          rw [wholePart, if_neg hzero, if_pos hdigit, htake, hdrop]
      · exact absurd h (by simp)

/-- The digits after a point, or none where there is no fraction. -/
def optionalFraction (cs : List Char) : List Char × List Char := (fraction cs).getD ([], cs)

theorem optionalFraction_read (cs : List Char) :
    ∃ read, cs = read ++ (optionalFraction cs).2 ∧ (∀ c ∈ read, isNumeral c = true) ∧ Ends Char.isDigit read ∧
      ((optionalFraction cs).1 = [] → read = []) ∧
      ∀ rest, Ends Char.isDigit rest → fraction rest = none →
        optionalFraction (read ++ rest) = ((optionalFraction cs).1, rest) := by
  cases h : fraction cs with
  | none =>
    have hcs : optionalFraction cs = ([], cs) := by rw [optionalFraction, h]; rfl
    refine ⟨[], by rw [hcs]; rfl, by simp, .nil, fun _ => rfl, fun rest _ hrest => ?_⟩
    rw [List.nil_append, optionalFraction, hrest, hcs]
    rfl
  | some found =>
    have hcs : optionalFraction cs = found := by rw [optionalFraction, h]; rfl
    rw [fraction.eq_def] at h
    split at h
    · rename_i r
      dsimp only at h
      split at h
      · exact absurd h (by simp)
      · rename_i hsome
        have hdigits : ∀ c ∈ r.takeWhile Char.isDigit, c.isDigit = true := isDigit_of_mem_takeWhile
        rw [Option.some.injEq] at h
        rw [hcs, ← h]
        refine ⟨'.' :: r.takeWhile Char.isDigit, ?_, ?_, .cons (by decide) _, ?_, fun rest hrest _ => ?_⟩
        · rw [List.cons_append, List.takeWhile_append_dropWhile]
        · exact List.forall_mem_cons.mpr ⟨by decide, fun c hc => isNumeral_of_isDigit (hdigits c hc)⟩
        · intro hnil
          dsimp only at hnil
          exact absurd (by rw [hnil]; rfl) hsome
        · rw [optionalFraction, List.cons_append, fraction]
          dsimp only
          rw [takeWhile_append_of_ends hdigits hrest, dropWhile_append_of_ends hdigits hrest, if_neg hsome,
            Option.getD_some]
    · exact absurd h (by simp)

/-- The sign of an exponent and the text after it. -/
def exponentSign (cs : List Char) : Bool × List Char :=
  match cs with
  | '-' :: r => (true, r)
  | '+' :: r => (false, r)
  | _ => (false, cs)

theorem exponentSign_read (cs : List Char) :
    ∃ read, cs = read ++ (exponentSign cs).2 ∧ (∀ c ∈ read, isNumeral c = true) ∧
      ∀ rest, (∀ c ∈ rest.head?, c.isDigit = true) → exponentSign (read ++ rest) = ((exponentSign cs).1, rest) := by
  rw [exponentSign.eq_def]
  split
  · exact ⟨['-'], rfl, List.forall_mem_singleton.mpr rfl, fun _ _ => rfl⟩
  · exact ⟨['+'], rfl, List.forall_mem_singleton.mpr rfl, fun _ _ => rfl⟩
  · refine ⟨[], rfl, by simp, fun rest hrest => ?_⟩
    rw [List.nil_append, exponentSign.eq_def]
    split
    · exact absurd (hrest '-' rfl) (by decide)
    · exact absurd (hrest '+' rfl) (by decide)
    · rfl

theorem exponentPart_cons (e : Char) (r : List Char) :
    exponentPart (e :: r) =
      if (e == 'e' || e == 'E') && !((exponentSign r).2.takeWhile Char.isDigit).isEmpty then
        some (if (exponentSign r).1 then -(decimalValue ((exponentSign r).2.takeWhile Char.isDigit) : Int)
          else decimalValue ((exponentSign r).2.takeWhile Char.isDigit), (exponentSign r).2.dropWhile Char.isDigit)
      else none := by
  cases hletter : (e == 'e' || e == 'E') with
  | false => exact if_neg (by rw [hletter]; decide)
  | true =>
    refine (if_pos hletter).trans ?_
    show (if ((exponentSign r).2.takeWhile Char.isDigit).isEmpty then none
      else some (if (exponentSign r).1 then -(decimalValue ((exponentSign r).2.takeWhile Char.isDigit) : Int)
        else decimalValue ((exponentSign r).2.takeWhile Char.isDigit),
          (exponentSign r).2.dropWhile Char.isDigit)) = _
    cases ((exponentSign r).2.takeWhile Char.isDigit).isEmpty <;> rfl

/-- An exponent, or none, with the text after it. -/
def optionalExponent (cs : List Char) : Option Int × List Char :=
  match exponentPart cs with
  | some (e, r) => (some e, r)
  | none => (none, cs)

theorem exponentPart_of_ends {cs : List Char} (h : Ends isNumeral cs) : exponentPart cs = none := by
  cases cs with
  | nil => rfl
  | cons c cs =>
    have hletter : (c == 'e' || c == 'E') = false := by
      have hc := h c rfl
      rw [Bool.or_eq_false_iff, beq_eq_false_iff_ne, beq_eq_false_iff_ne]
      constructor
      · rintro rfl
        exact absurd hc (by decide)
      · rintro rfl
        exact absurd hc (by decide)
    rw [exponentPart_cons, hletter]
    rfl

theorem optionalExponent_read (cs : List Char) :
    ∃ read, cs = read ++ (optionalExponent cs).2 ∧ (∀ c ∈ read, isNumeral c = true) ∧
      Ends (fun c => c.isDigit || c == '.') read ∧ ((optionalExponent cs).1 = none → read = []) ∧
      ∀ rest, Ends isNumeral rest → optionalExponent (read ++ rest) = ((optionalExponent cs).1, rest) := by
  have hnone (h : exponentPart cs = none) : optionalExponent cs = (none, cs) := by rw [optionalExponent, h]
  have habsent (h : exponentPart cs = none) :
      ∃ read, cs = read ++ (optionalExponent cs).2 ∧ (∀ c ∈ read, isNumeral c = true) ∧
        Ends (fun c => c.isDigit || c == '.') read ∧ ((optionalExponent cs).1 = none → read = []) ∧
        ∀ rest, Ends isNumeral rest → optionalExponent (read ++ rest) = ((optionalExponent cs).1, rest) := by
    refine ⟨[], by rw [hnone h]; rfl, by simp, .nil, fun _ => rfl, fun rest hrest => ?_⟩
    rw [List.nil_append, optionalExponent, exponentPart_of_ends hrest, hnone h]
  cases cs with
  | nil => exact habsent rfl
  | cons e r =>
    cases hfound : (e == 'e' || e == 'E') && !((exponentSign r).2.takeWhile Char.isDigit).isEmpty with
    | false => exact habsent (by rw [exponentPart_cons, hfound]; rfl)
    | true =>
      obtain ⟨sign, hr, hsign, hkept⟩ := exponentSign_read r
      have hexponent := exponentPart_cons e r
      rw [hfound, if_pos rfl] at hexponent
      rw [Bool.and_eq_true, Bool.not_eq_true', Bool.or_eq_true, beq_iff_eq, beq_iff_eq] at hfound
      obtain ⟨hletter, hsome⟩ := hfound
      have hdigits : ∀ c ∈ (exponentSign r).2.takeWhile Char.isDigit, c.isDigit = true := isDigit_of_mem_takeWhile
      have hopt : optionalExponent (e :: r) =
          (some (if (exponentSign r).1 then -(decimalValue ((exponentSign r).2.takeWhile Char.isDigit) : Int)
            else decimalValue ((exponentSign r).2.takeWhile Char.isDigit)),
            (exponentSign r).2.dropWhile Char.isDigit) := by
        rw [optionalExponent, hexponent]
      refine ⟨e :: (sign ++ (exponentSign r).2.takeWhile Char.isDigit), ?_, ?_, ?_, ?_, fun rest hrest => ?_⟩
      · rw [hopt, List.cons_append, List.append_assoc, List.takeWhile_append_dropWhile, ← hr]
      · simp only [List.forall_mem_cons, List.forall_mem_append]
        refine ⟨?_, hsign, fun c hc => isNumeral_of_isDigit (hdigits c hc)⟩
        rcases hletter with rfl | rfl <;> decide
      · refine .cons ?_ _
        rcases hletter with rfl | rfl <;> decide
      · intro habsurd
        rw [hopt] at habsurd
        exact absurd habsurd (by simp)
      · have hrest' : Ends Char.isDigit rest := hrest.mono fun _ => isNumeral_of_isDigit
        have hhead : ∀ c ∈ ((exponentSign r).2.takeWhile Char.isDigit ++ rest).head?, c.isDigit = true := by
          cases htake : (exponentSign r).2.takeWhile Char.isDigit with
          | nil => exact absurd hsome (by rw [htake]; decide)
          | cons d ds =>
            intro c hc
            rw [List.cons_append, List.head?_cons, Option.mem_some_iff] at hc
            exact hdigits c (by rw [htake, hc]; exact List.mem_cons_self)
        have hagain := hkept _ hhead
        have hletter' : (e == 'e' || e == 'E') = true := by
          rw [Bool.or_eq_true, beq_iff_eq, beq_iff_eq]
          exact hletter
        rw [optionalExponent, List.cons_append, List.append_assoc, exponentPart_cons, hagain, hletter',
          takeWhile_append_of_ends hdigits hrest', dropWhile_append_of_ends hdigits hrest', hsome, hopt]
        rfl

/-! ## 3. Numbers and words -/

def unsigned? (negative : Bool) (cs : List Char) : Option (Json × List Char) :=
  (wholePart cs).map fun (whole, r) =>
    let (decimals, r₁) := optionalFraction r
    let (exponent, r₂) := optionalExponent r₁
    if decimals.isEmpty && exponent.isNone then
      let n : Int := decimalValue whole
      (.integer (if negative then -n else n), r)
    else
      (.decimal (.ofDecimal negative (decimalValue (whole ++ decimals)) (exponent.getD 0 - decimals.length)), r₂)

theorem number?_minus (cs : List Char) : number? ('-' :: cs) = unsigned? true cs := rfl

theorem number?_of_ne {c : Char} (h : c ≠ '-') (cs : List Char) : number? (c :: cs) = unsigned? false (c :: cs) := by
  rw [number?.eq_def]
  split
  rename_i hmatch
  split at hmatch
  · rename_i heq
    exact absurd (List.cons.inj heq).1 h
  · obtain ⟨rfl, rfl⟩ := hmatch
    rfl

theorem unsigned?_read {negative : Bool} {cs left : List Char} {j : Json} (h : unsigned? negative cs = some (j, left)) :
    ∃ c read, cs = c :: read ++ left ∧ c.isDigit = true ∧ (∀ d ∈ read, isNumeral d = true) ∧
      ∀ rest, Ends isNumeral rest → unsigned? negative (c :: read ++ rest) = some (j, rest) := by
  obtain ⟨⟨whole, r⟩, hwhole, h⟩ := Option.map_eq_some_iff.mp h
  obtain ⟨digits, hcs, hne, hdigits, hwholeAgain⟩ := wholePart_read hwhole
  obtain ⟨point, hr, hpoint, hpointEnds, hpointNil, hpointAgain⟩ := optionalFraction_read r
  dsimp only at h
  obtain ⟨power, hr₁, hpower, hpowerEnds, hpowerNil, hpowerAgain⟩ := optionalExponent_read (optionalFraction r).2
  generalize optionalFraction r = foundPoint at *
  generalize optionalExponent foundPoint.2 = foundPower at *
  obtain ⟨c, digits, rfl⟩ := List.exists_cons_of_ne_nil hne
  rw [List.forall_mem_cons] at hdigits
  -- an integer has neither of the later parts, so in any case all three parts were read
  have hleft : left = foundPower.2 := by
    split at h
    · rename_i hsimple
      rw [Bool.and_eq_true, List.isEmpty_iff, Option.isNone_iff_eq_none] at hsimple
      obtain ⟨-, rfl⟩ := Prod.mk.inj h
      rw [hr, hpointNil hsimple.1, List.nil_append, hr₁, hpowerNil hsimple.2, List.nil_append]
    · exact (Prod.mk.inj h).2.symm
  refine ⟨c, digits ++ (point ++ power), ?_, hdigits.1, ?_, fun rest hrest => ?_⟩
  · rw [hcs, hr, hr₁, hleft]
    simp only [List.cons_append, List.append_assoc]
  · simp only [List.forall_mem_append]
    exact ⟨fun d hd => isNumeral_of_isDigit (hdigits.2 d hd), hpoint, hpower⟩
  · have hpower' : Ends Char.isDigit (power ++ rest) :=
      (hpowerEnds.mono fun d hd => by rw [hd, Bool.true_or]).append (hrest.mono fun _ => isNumeral_of_isDigit)
    have hfraction : fraction (power ++ rest) = none := by
      rw [fraction.eq_def]
      split
      · rename_i hdot
        have hends : Ends (fun d => d == '.') (power ++ rest) := by
          refine (hpowerEnds.mono fun d hd => by rw [hd, Bool.or_true]).append (hrest.mono fun d hd => ?_)
          rw [beq_iff_eq.mp hd]
          decide
        exact absurd (hends '.' (by rw [hdot]; rfl)) (by decide)
      · rfl
    have hread : c :: (digits ++ (point ++ power)) ++ rest = c :: digits ++ (point ++ (power ++ rest)) := by
      simp only [List.cons_append, List.append_assoc]
    rw [hread, unsigned?, hwholeAgain _ (hpointEnds.append hpower'), Option.map_some]
    dsimp only
    rw [hpointAgain _ hpower' hfraction]
    dsimp only
    rw [hpowerAgain _ hrest]
    dsimp only
    split at h
    · rename_i hsimple
      have hnil := hsimple
      rw [Bool.and_eq_true, List.isEmpty_iff, Option.isNone_iff_eq_none] at hnil
      rw [if_pos hsimple, hpointNil hnil.1, hpowerNil hnil.2, (Prod.mk.inj h).1]
      rfl
    · rename_i hsimple
      rw [if_neg hsimple, (Prod.mk.inj h).1]

/-- A number is read up to its last part, and no word is read there. -/
theorem number?_read {cs left : List Char} {j : Json} (h : number? cs = some (j, left)) :
    ∃ read, cs = read ++ left ∧ read ≠ [] ∧ (∀ c ∈ read, isNumeral c = true) ∧
      ∀ rest, Ends isNumeral rest → number? (read ++ rest) = some (j, rest) ∧ word? (read ++ rest) = none := by
  -- no word starts with a digit, and none has one after a minus
  have hword {c : Char} (hc : c.isDigit = true) (rest : List Char) : word? (c :: rest) = none ∧
      word? ('-' :: c :: rest) = none := by
    have hne {d : Char} (hd : d.isDigit = false) : (d == c) = false := by
      rw [beq_eq_false_iff_ne]
      rintro rfl
      exact absurd hc (by rw [hd]; decide)
    simp [word?, words, after?, hne (d := 'n') rfl, hne (d := 't') rfl, hne (d := 'f') rfl, hne (d := 'N') rfl,
      hne (d := 'I') rfl, hne (d := '-') rfl]
  cases cs with
  | nil => exact absurd (show none = some (j, left) from h) (by simp)
  | cons c cs =>
    by_cases hminus : c = '-'
    · rw [hminus, number?_minus] at h
      obtain ⟨d, read, hcs, hdigit, hread, hagain⟩ := unsigned?_read h
      refine ⟨'-' :: d :: read, by rw [hminus, hcs]; rfl, by simp, ?_, fun rest hrest => ?_⟩
      · simp only [List.forall_mem_cons]
        exact ⟨rfl, isNumeral_of_isDigit hdigit, hread⟩
      · exact ⟨hagain rest hrest, (hword hdigit _).2⟩
    · rw [number?_of_ne hminus] at h
      obtain ⟨d, read, hcs, hdigit, hread, hagain⟩ := unsigned?_read h
      refine ⟨d :: read, hcs, by simp, ?_, fun rest hrest => ⟨?_, (hword hdigit _).1⟩⟩
      · exact List.forall_mem_cons.mpr ⟨isNumeral_of_isDigit hdigit, hread⟩
      · have hne : d ≠ '-' := by
          rintro rfl
          exact absurd hdigit (by decide)
        rw [List.cons_append, number?_of_ne hne]
        exact hagain rest hrest

theorem after?_eq_some {xs cs rest : List Char} (h : after? xs cs = some rest) : cs = xs ++ rest := by
  induction xs generalizing cs with
  | nil => exact Option.some.inj h
  | cons x xs ih =>
    cases cs with
    | nil => exact absurd h (by simp [after?])
    | cons c cs =>
      rw [after?] at h
      split at h
      · rename_i heq
        rw [beq_iff_eq.mp heq, List.cons_append, ← ih h]
      · exact absurd h (by simp)

/-- A word is read whatever follows it. -/
theorem word?_read {cs left : List Char} {j : Json} (h : word? cs = some (j, left)) :
    ∃ w ∈ words, cs = w.1.toList ++ left ∧ ∀ rest, word? (w.1.toList ++ rest) = some (j, rest) := by
  obtain ⟨⟨w, value⟩, hmem, hw⟩ := List.exists_of_findSome?_eq_some h
  obtain ⟨rest, hafter, heq⟩ := Option.map_eq_some_iff.mp hw
  obtain ⟨rfl, rfl⟩ := Prod.mk.inj heq
  refine ⟨(w, value), hmem, after?_eq_some hafter, fun rest => ?_⟩
  -- no word starts with another one
  simp only [words, List.mem_cons, List.not_mem_nil, or_false, Prod.mk.injEq] at hmem
  rcases hmem with ⟨rfl, rfl⟩ | ⟨rfl, rfl⟩ | ⟨rfl, rfl⟩ | ⟨rfl, rfl⟩ | ⟨rfl, rfl⟩ | ⟨rfl, rfl⟩ <;> rfl

end Phrasebook.Json
