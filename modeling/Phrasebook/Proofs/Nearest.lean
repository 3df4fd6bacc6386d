import Mathlib.Tactic.Ring
import Phrasebook.Decimal.Binary64

/-!
# Rounding to double precision

A quotient is rounded to the nearest multiple of a power of two that depends on its size. Sizes are counted in units of
the least number in double precision, so that a number is a natural number of units and quotients are compared without
fractions.

Results:
1. `roundDiv_congr` and `succ_le_roundDiv_iff`: what a rounded quotient depends on, and when it reaches a number.
2. `nearest_mono` and `nearest_le`: rounding keeps the order, and stays below what is less than half a place away.
3. `exists_ofRatio_eq`: a quotient in double precision is the nearest number.
-/

namespace Phrasebook.Decimal

/-! ## 1. Whole numbers -/

/-- A rounded quotient reaches a number from half a unit below it on, and there only if the number is even. -/
theorem succ_le_roundDiv_iff {num den k : Nat} (h : 0 < den) :
    k + 1 ≤ roundDiv num den ↔ (2 * k + 1) * den < 2 * num ∨ ((2 * k + 1) * den = 2 * num ∧ k % 2 = 1) := by
  have hq := Nat.div_add_mod num den
  have hr := Nat.mod_lt num h
  rw [Nat.mul_comm] at hq
  have hodd : (2 * k + 1) * den = 2 * (k * den) + den := by ring
  rw [hodd]
  rcases Nat.lt_trichotomy k (num / den) with hk | rfl | hk
  · have hbelow : k * den + den ≤ num / den * den := by
      rw [← Nat.succ_mul]
      exact Nat.mul_le_mul_right den hk
    have hround := le_roundDiv num den
    constructor
    · intro _
      exact .inl (by omega)
    · intro _
      omega
  · unfold roundDiv
    split <;> omega
  · have habove : num / den * den + den ≤ k * den := by
      rw [← Nat.succ_mul]
      exact Nat.mul_le_mul_right den hk
    have hround := roundDiv_le num den
    constructor
    · intro _
      omega
    · rintro (hlt | ⟨heq, -⟩)
      · omega
      · omega

/-- Rounding keeps the order of quotients. -/
theorem roundDiv_mono {a d a' d' : Nat} (hd : 0 < d) (hd' : 0 < d') (h : a * d' ≤ a' * d) :
    roundDiv a d ≤ roundDiv a' d' := by
  cases hk : roundDiv a d with
  | zero => exact Nat.zero_le _
  | succ k =>
    have hreach := (succ_le_roundDiv_iff hd).mp hk.ge
    rw [succ_le_roundDiv_iff hd']
    have hscaled : (2 * k + 1) * d' * d = (2 * k + 1) * d * d' := by ring
    rcases hreach with hlt | ⟨heq, hodd⟩
    · refine .inl (Nat.lt_of_mul_lt_mul_right (a := d) ?_)
      calc (2 * k + 1) * d' * d = (2 * k + 1) * d * d' := hscaled
        _ < 2 * a * d' := Nat.mul_lt_mul_of_pos_right hlt hd'
        _ = 2 * (a * d') := Nat.mul_assoc _ _ _
        _ ≤ 2 * (a' * d) := Nat.mul_le_mul_left 2 h
        _ = 2 * a' * d := (Nat.mul_assoc _ _ _).symm
    · have hle : (2 * k + 1) * d' ≤ 2 * a' := by
        refine Nat.le_of_mul_le_mul_right (c := d) ?_ hd
        calc (2 * k + 1) * d' * d = (2 * k + 1) * d * d' := hscaled
          _ = 2 * (a * d') := by rw [heq, Nat.mul_assoc]
          _ ≤ 2 * (a' * d) := Nat.mul_le_mul_left 2 h
          _ = 2 * a' * d := (Nat.mul_assoc _ _ _).symm
      rcases Nat.lt_or_eq_of_le hle with hlt | heq'
      · exact .inl hlt
      · exact .inr ⟨heq', hodd⟩

/-- A rounded quotient depends on its value alone. -/
theorem roundDiv_congr {a d a' d' : Nat} (hd : 0 < d) (hd' : 0 < d') (h : a * d' = a' * d) :
    roundDiv a d = roundDiv a' d' :=
  Nat.le_antisymm (roundDiv_mono hd hd' h.le) (roundDiv_mono hd' hd h.ge)

/-- A whole number is its own rounding. -/
theorem roundDiv_mul_self {d : Nat} (hd : 0 < d) (k : Nat) : roundDiv (k * d) d = k := by
  rw [roundDiv, Nat.mul_mod_left, Nat.mul_div_cancel _ hd, if_neg (by omega)]

/-! ## 2. Numbers of 53 digits -/

/-- The place of the last digit that is kept of a quotient: it has 53 digits from there on, or fewer if it is small. -/
structure IsPlace (a d u : Nat) : Prop where
  lt : a < d * 2 ^ (u + 53)
  le : u = 0 ∨ d * 2 ^ (u + 52) ≤ a

/-- The place of the last digit that is kept of a quotient. -/
def place (a d : Nat) : Nat := (a / d).log2 - 52

def nearest (a d : Nat) : Nat := roundDiv a (d * 2 ^ place a d) * 2 ^ place a d

theorem isPlace_place {d : Nat} (hd : 0 < d) (a : Nat) : IsPlace a d (place a d) := by
  have hlt : a < d * (a / d + 1) := Nat.lt_mul_div_succ a hd
  refine ⟨hlt.trans_le (Nat.mul_le_mul_left d ?_), ?_⟩
  · calc a / d + 1 ≤ 2 ^ ((a / d).log2 + 1) := Nat.lt_log2_self
      _ ≤ 2 ^ (place a d + 53) := Nat.pow_le_pow_right (by decide) (by rw [place]; omega)
  · rcases Nat.lt_or_ge 52 (a / d).log2 with hlog | hlog
    · right
      have hpos : a / d ≠ 0 := by
        intro hzero
        rw [hzero, Nat.log2_zero] at hlog
        omega
      have hexponent : place a d + 52 = (a / d).log2 := by rw [place]; omega
      calc d * 2 ^ (place a d + 52) = d * 2 ^ (a / d).log2 := by rw [hexponent]
        _ ≤ d * (a / d) := Nat.mul_le_mul_left d (Nat.log2_self_le hpos)
        _ ≤ a := Nat.mul_div_le a d
    · left
      rw [place]
      omega

/-- A larger quotient has no lower place. -/
theorem IsPlace.le_of_le {a d u a' d' u' : Nat} (hplace : IsPlace a d u) (hplace' : IsPlace a' d' u') (hd : 0 < d)
    (h : a * d' ≤ a' * d) : u ≤ u' := by
  rcases hplace.le with rfl | hle
  · exact Nat.zero_le _
  · have hpow : d * d' * 2 ^ (u + 52) < d * d' * 2 ^ (u' + 53) := by
      calc d * d' * 2 ^ (u + 52) = d * 2 ^ (u + 52) * d' := by ring
        _ ≤ a * d' := Nat.mul_le_mul_right d' hle
        _ ≤ a' * d := h
        _ < d' * 2 ^ (u' + 53) * d := Nat.mul_lt_mul_of_pos_right hplace'.lt hd
        _ = d * d' * 2 ^ (u' + 53) := by ring
    have hexponent := (Nat.pow_lt_pow_iff_right (by decide)).mp (Nat.lt_of_mul_lt_mul_left hpow)
    omega

theorem IsPlace.eq_place {a d u : Nat} (h : IsPlace a d u) (hd : 0 < d) : u = place a d :=
  Nat.le_antisymm (h.le_of_le (isPlace_place hd a) hd Nat.le.refl)
    ((isPlace_place hd a).le_of_le h hd Nat.le.refl)

/-- Of a quotient at a place no more than 53 digits are kept, rounding up included. -/
theorem IsPlace.roundDiv_le {a d u : Nat} (h : IsPlace a d u) (hd : 0 < d) : roundDiv a (d * 2 ^ u) ≤ 2 ^ 53 := by
  have hpos : 0 < d * 2 ^ u := Nat.mul_pos hd (Nat.two_pow_pos u)
  rw [← roundDiv_mul_self hpos (2 ^ 53)]
  refine roundDiv_mono hpos hpos (Nat.mul_le_mul_right _ ?_)
  calc a ≤ d * 2 ^ (u + 53) := h.lt.le
    _ = 2 ^ 53 * (d * 2 ^ u) := by ring

/-- Above the least place all 53 digits are kept. -/
theorem IsPlace.le_roundDiv {a d u : Nat} (h : IsPlace a d u) (hd : 0 < d) (hu : u ≠ 0) :
    2 ^ 52 ≤ roundDiv a (d * 2 ^ u) := by
  have hpos : 0 < d * 2 ^ u := Nat.mul_pos hd (Nat.two_pow_pos u)
  rw [← roundDiv_mul_self hpos (2 ^ 52)]
  refine roundDiv_mono hpos hpos (Nat.mul_le_mul_right _ ?_)
  calc 2 ^ 52 * (d * 2 ^ u) = d * 2 ^ (u + 52) := by ring
    _ ≤ a := h.le.resolve_left hu

/-- A power of two lies between what is rounded at different places. -/
theorem nearest_le_of_place_lt {a d u : Nat} (hd : 0 < d) (h : place a d < u) : nearest a d ≤ 2 ^ 52 * 2 ^ u := by
  calc nearest a d ≤ 2 ^ 53 * 2 ^ place a d := Nat.mul_le_mul_right _ ((isPlace_place hd a).roundDiv_le hd)
    _ = 2 ^ (53 + place a d) := (Nat.pow_add ..).symm
    _ ≤ 2 ^ (52 + u) := Nat.pow_le_pow_right (by decide) (by omega)
    _ = 2 ^ 52 * 2 ^ u := Nat.pow_add ..

/-- Rounding keeps the order. -/
theorem nearest_mono {a d a' d' : Nat} (hd : 0 < d) (hd' : 0 < d') (h : a * d' ≤ a' * d) :
    nearest a d ≤ nearest a' d' := by
  have hplace := isPlace_place hd a
  have hplace' := isPlace_place hd' a'
  rcases Nat.lt_or_eq_of_le (hplace.le_of_le hplace' hd h) with hlt | heq
  · calc nearest a d ≤ 2 ^ 52 * 2 ^ place a' d' := nearest_le_of_place_lt hd hlt
      _ ≤ nearest a' d' := Nat.mul_le_mul_right _ (hplace'.le_roundDiv hd' (by omega))
  · rw [nearest, nearest, heq]
    have hpow := Nat.two_pow_pos (place a' d')
    refine Nat.mul_le_mul_right _ (roundDiv_mono (Nat.mul_pos hd hpow) (Nat.mul_pos hd' hpow) ?_)
    calc a * (d' * 2 ^ place a' d') = a * d' * 2 ^ place a' d' := (Nat.mul_assoc ..).symm
      _ ≤ a' * d * 2 ^ place a' d' := Nat.mul_le_mul_right _ h
      _ = a' * (d * 2 ^ place a' d') := Nat.mul_assoc ..

/-- A quotient is rounded by its value alone. -/
theorem nearest_congr {a d a' d' : Nat} (hd : 0 < d) (hd' : 0 < d') (h : a * d' = a' * d) :
    nearest a d = nearest a' d' :=
  Nat.le_antisymm (nearest_mono hd hd' h.le) (nearest_mono hd' hd h.ge)

/-- What lies less than half a place above a number is not rounded to more than the number. -/
theorem nearest_le {a d k u : Nat} (hd : 0 < d) (hk : 2 ^ 52 ≤ k) (hk' : k < 2 ^ 53)
    (h : 2 * a < (2 * k + 1) * (d * 2 ^ u)) : nearest a d ≤ k * 2 ^ u := by
  have hplace := isPlace_place hd a
  have hpos : 0 < d * 2 ^ u := Nat.mul_pos hd (Nat.two_pow_pos u)
  have hbound : a < d * 2 ^ (u + 53) := by
    have hodd : (2 * k + 1) * (d * 2 ^ u) ≤ 2 * 2 ^ 53 * (d * 2 ^ u) := Nat.mul_le_mul_right _ (by omega)
    have hpow : 2 * (d * 2 ^ (u + 53)) = 2 * 2 ^ 53 * (d * 2 ^ u) := by ring
    omega
  have hle : place a d ≤ u := by
    rcases hplace.le with hzero | hbelow
    · omega
    · have hexponent := (Nat.pow_lt_pow_iff_right (by decide)).mp
        (Nat.lt_of_mul_lt_mul_left (hbelow.trans_lt hbound))
      omega
  rcases Nat.lt_or_eq_of_le hle with hlt | heq
  · calc nearest a d ≤ 2 ^ 52 * 2 ^ u := nearest_le_of_place_lt hd hlt
      _ ≤ k * 2 ^ u := Nat.mul_le_mul_right _ hk
  · rw [nearest, heq]
    refine Nat.mul_le_mul_right _ (Nat.le_of_not_lt fun hreach => ?_)
    rcases (succ_le_roundDiv_iff hpos).mp hreach with hmore | ⟨hsame, -⟩
    · omega
    · omega

/-! ## 3. Quotients in double precision -/

namespace Binary64

/-- The units of one: the least number is that part of it. -/
def unitsOfOne : Nat := 2 ^ 1074

/-- The first power of two, in units, that is no finite number. -/
def unitsOfOverflow : Nat := 2 ^ 2098

theorem unitsOfOne_pos : 0 < unitsOfOne := by decide +kernel

/-- A finite number as a quotient, in units. -/
theorem ratio_mul (m u : Nat) :
    (ratio m (u + minExponent)).1 * unitsOfOne = m * 2 ^ u * (ratio m (u + minExponent)).2 ∧
      0 < (ratio m (u + minExponent)).2 := by
  rcases Nat.lt_or_ge u 1074 with hu | hu
  · obtain ⟨e, he⟩ : ∃ e : Nat, u + (e + 1) = 1074 := ⟨1074 - u - 1, by omega⟩
    have hexponent : (u : Int) + minExponent = Int.negSucc e := by
      rw [minExponent, Int.negSucc_eq]
      omega
    rw [hexponent, unitsOfOne, ← he, Nat.pow_add]
    refine ⟨?_, Nat.two_pow_pos _⟩
    show m * (2 ^ u * 2 ^ (e + 1)) = m * 2 ^ u * 2 ^ (e + 1)
    ring
  · obtain ⟨e, rfl⟩ : ∃ e : Nat, u = e + 1074 := ⟨u - 1074, by omega⟩
    have hexponent : ((e + 1074 : Nat) : Int) + minExponent = Int.ofNat e := by
      rw [minExponent, Int.ofNat_eq_natCast]
      omega
    rw [hexponent, unitsOfOne, Nat.pow_add]
    refine ⟨?_, Nat.one_pos⟩
    show m * 2 ^ e * 2 ^ 1074 = m * (2 ^ e * 2 ^ 1074) * 1
    rw [Nat.mul_one, Nat.mul_assoc]

/-- A quotient with a power of two taken out of it, when both are brought to the same power. -/
theorem scaled_mul (num den : Nat) {exponent : Int} {w t : Nat} (h : exponent + w = t) :
    (scaled num den exponent).1 * (den * 2 ^ t) = num * 2 ^ w * (scaled num den exponent).2 := by
  cases exponent with
  | ofNat e =>
    have ht : t = e + w := by
      rw [Int.ofNat_eq_natCast] at h
      omega
    show num * (den * 2 ^ t) = num * 2 ^ w * (den * 2 ^ e)
    rw [ht, Nat.pow_add]
    ring
  | negSucc e =>
    have hw : w = t + (e + 1) := by
      rw [Int.negSucc_eq] at h
      omega
    show num * 2 ^ (e + 1) * (den * 2 ^ t) = num * 2 ^ w * den
    rw [hw, Nat.pow_add]
    ring

theorem scaled_pos {num den : Nat} (hnum : 0 < num) (hden : 0 < den) (exponent : Int) :
    0 < (scaled num den exponent).1 ∧ 0 < (scaled num den exponent).2 := by
  cases exponent with
  | ofNat e => exact ⟨hnum, Nat.mul_pos hden (Nat.two_pow_pos e)⟩
  | negSucc e => exact ⟨Nat.mul_pos hnum (Nat.two_pow_pos (e + 1)), hden⟩

/-- Such a quotient is compared with a power of two as the quotient itself with a larger one. -/
theorem scaled_lt_iff {num den : Nat} (hnum : 0 < num) (hden : 0 < den) {exponent : Int} {w t : Nat}
    (h : exponent + w = t) (k : Nat) :
    (scaled num den exponent).1 < (scaled num den exponent).2 * 2 ^ k ↔ num * 2 ^ w < den * 2 ^ (t + k) := by
  have hscaled := scaled_mul num den h
  have hpos := (scaled_pos hnum hden exponent).2
  have hunit : 0 < den * 2 ^ t := Nat.mul_pos hden (Nat.two_pow_pos t)
  generalize scaled num den exponent = quotient at hscaled hpos ⊢
  calc quotient.1 < quotient.2 * 2 ^ k ↔ quotient.1 * (den * 2 ^ t) < quotient.2 * 2 ^ k * (den * 2 ^ t) :=
        (Nat.mul_lt_mul_right hunit).symm
    _ ↔ num * 2 ^ w * quotient.2 < den * 2 ^ (t + k) * quotient.2 := by
        rw [hscaled, show quotient.2 * 2 ^ k * (den * 2 ^ t) = den * 2 ^ (t + k) * quotient.2 by ring]
    _ ↔ num * 2 ^ w < den * 2 ^ (t + k) := Nat.mul_lt_mul_right hpos

/-- The exact exponent is the place of the last of 53 digits, if enough units are taken. -/
theorem exactExponent_spec {num den w t : Nat} (hnum : 0 < num) (hden : 0 < den)
    (hw : den.log2 + 53 ≤ w) (ht : exactExponent num den + w = t) :
    num * 2 ^ w < den * 2 ^ (t + 53) ∧ den * 2 ^ (t + 52) ≤ num * 2 ^ w := by
  have hnumLow := Nat.log2_self_le hnum.ne'
  have hnumHigh := Nat.lt_log2_self (n := num)
  have hdenLow := Nat.log2_self_le hden.ne'
  have hdenHigh := Nat.lt_log2_self (n := den)
  obtain ⟨s, hs⟩ : ∃ s : Nat, ((num.log2 : Int) - (den.log2 : Int) - 52) + w = s := ⟨num.log2 + w - den.log2 - 52, by omega⟩
  -- the first estimate is at most one too high
  have hbelow : num * 2 ^ w < den * 2 ^ (s + 53) := by
    calc num * 2 ^ w < 2 ^ (num.log2 + 1) * 2 ^ w := Nat.mul_lt_mul_of_pos_right hnumHigh (Nat.two_pow_pos w)
      _ = 2 ^ den.log2 * 2 ^ (s + 53) := by
        rw [← Nat.pow_add, ← Nat.pow_add]
        congr 1
        omega
      _ ≤ den * 2 ^ (s + 53) := Nat.mul_le_mul_right _ hdenLow
  have habove : den * 2 ^ (s + 51) < num * 2 ^ w := by
    calc den * 2 ^ (s + 51) < 2 ^ (den.log2 + 1) * 2 ^ (s + 51) :=
          Nat.mul_lt_mul_of_pos_right hdenHigh (Nat.two_pow_pos _)
      _ = 2 ^ num.log2 * 2 ^ w := by
        rw [← Nat.pow_add, ← Nat.pow_add]
        congr 1
        omega
      _ ≤ num * 2 ^ w := Nat.mul_le_mul_right _ hnumLow
  rw [exactExponent] at ht
  dsimp only at ht
  rw [Nat.pow_eq] at ht
  split at ht
  · rename_i hlt
    obtain rfl : s = t + 1 := by omega
    exact ⟨(scaled_lt_iff hnum hden hs 52).mp hlt, habove.le⟩
  · rename_i hge
    obtain rfl : s = t := by omega
    exact ⟨hbelow, Nat.le_of_not_lt fun hlt => hge ((scaled_lt_iff hnum hden hs 52).mpr hlt)⟩

/-- The place of a quotient in units, by its exponent. -/
theorem isPlace_exponent {num den u : Nat} (hnum : 0 < num) (hden : 0 < den)
    (hu : max (exactExponent num den) minExponent + 1074 = u) : IsPlace (num * unitsOfOne) den u := by
  -- so many units of one that the exact exponent is not below the least
  obtain ⟨w, hw⟩ : ∃ w : Nat, w = 1074 + (den.log2 + num.log2 + 60) := ⟨_, rfl⟩
  have hestimate : (num.log2 : Int) - den.log2 - 53 ≤ exactExponent num den := by
    rw [exactExponent]
    dsimp only
    split <;> omega
  obtain ⟨t, ht⟩ : ∃ t : Nat, exactExponent num den + w = t := ⟨(exactExponent num den + w).toNat, by omega⟩
  obtain ⟨hlt, hle⟩ := exactExponent_spec hnum hden (by omega) ht
  have hunits : num * unitsOfOne * 2 ^ (den.log2 + num.log2 + 60) = num * 2 ^ w := by
    rw [hw, unitsOfOne, Nat.pow_add _ 1074, Nat.mul_assoc]
  rw [minExponent] at hu
  constructor
  · refine Nat.lt_of_mul_lt_mul_right (a := 2 ^ (den.log2 + num.log2 + 60)) ?_
    rw [hunits]
    calc num * 2 ^ w < den * 2 ^ (t + 53) := hlt
      _ ≤ den * 2 ^ (u + 53 + (den.log2 + num.log2 + 60)) :=
        Nat.mul_le_mul_left den (Nat.pow_le_pow_right (by decide) (by omega))
      _ = den * 2 ^ (u + 53) * 2 ^ (den.log2 + num.log2 + 60) := by rw [Nat.pow_add _ (u + 53), Nat.mul_assoc]
  · rcases Nat.eq_zero_or_pos u with hzero | hpos
    · exact .inl hzero
    · right
      refine Nat.le_of_mul_le_mul_right (c := 2 ^ (den.log2 + num.log2 + 60)) ?_ (Nat.two_pow_pos _)
      rw [hunits]
      calc den * 2 ^ (u + 52) * 2 ^ (den.log2 + num.log2 + 60)
          = den * 2 ^ (u + 52 + (den.log2 + num.log2 + 60)) := by rw [Nat.pow_add _ (u + 52), Nat.mul_assoc]
        _ ≤ den * 2 ^ (t + 52) := Nat.mul_le_mul_left den (Nat.pow_le_pow_right (by decide) (by omega))
        _ ≤ num * 2 ^ w := hle

/-- A quotient in double precision, by its rounded digits and their place. -/
theorem ofRatio_eq {num den u : Nat} (hnum : 0 < num) (hden : 0 < den)
    (hu : max (exactExponent num den) minExponent = u + minExponent) (negative : Bool) :
    ofRatio negative num den =
      ofRounded negative (roundDiv (num * unitsOfOne) (den * 2 ^ u)) (u + minExponent) := by
  have hround : roundDiv (scaled num den (u + minExponent)).1 (scaled num den (u + minExponent)).2 =
      roundDiv (num * unitsOfOne) (den * 2 ^ u) := by
    rw [unitsOfOne]
    exact roundDiv_congr (scaled_pos hnum hden _).2 (Nat.mul_pos hden (Nat.two_pow_pos u))
      (scaled_mul num den (by rw [minExponent]; omega))
  have hpos : ¬ (num == 0 || den == 0) = true := by simp [hnum.ne', hden.ne']
  rw [ofRatio, if_neg hpos, hu]
  dsimp only
  rw [hround]

/-- With 53 digits at a place beyond the last one a number is too large. -/
theorem bounded_eq {k v : Nat} (hk : 2 ^ 52 ≤ k) (hlt : k * 2 ^ v < unitsOfOverflow) (negative : Bool) :
    bounded negative k (v + minExponent) = .finite negative k (v + minExponent) := by
  have hpow : 2 ^ (52 + v) < 2 ^ 2098 := by
    rw [unitsOfOverflow] at hlt
    calc 2 ^ (52 + v) = 2 ^ 52 * 2 ^ v := Nat.pow_add ..
      _ ≤ k * 2 ^ v := Nat.mul_le_mul_right _ hk
      _ < 2 ^ 2098 := hlt
  have hexponent := (Nat.pow_lt_pow_iff_right (by decide)).mp hpow
  rw [bounded, if_neg]
  rw [maxExponent, minExponent]
  omega

/-- A quotient in double precision is the nearest number, unless that is too large. -/
theorem exists_ofRatio_eq {num den : Nat} (hden : 0 < den) (h : nearest (num * unitsOfOne) den < unitsOfOverflow)
    (negative : Bool) :
    ∃ m u : Nat, ofRatio negative num den = .finite negative m (u + minExponent) ∧
      m * 2 ^ u = nearest (num * unitsOfOne) den := by
  rcases Nat.eq_zero_or_pos num with rfl | hnum
  · have hpos : 0 < den * 2 ^ place 0 den := Nat.mul_pos hden (Nat.two_pow_pos _)
    refine ⟨0, 0, rfl, ?_⟩
    rw [Nat.zero_mul, Nat.zero_mul, nearest]
    have hzero := roundDiv_mul_self hpos 0
    rw [Nat.zero_mul] at hzero
    rw [hzero, Nat.zero_mul]
  obtain ⟨u, hu⟩ : ∃ u : Nat, max (exactExponent num den) minExponent = u + minExponent :=
    ⟨(max (exactExponent num den) minExponent + 1074).toNat, by rw [minExponent]; omega⟩
  have hplace := isPlace_exponent hnum hden (u := u) (by rw [hu, minExponent]; omega)
  have hnearest : nearest (num * unitsOfOne) den = roundDiv (num * unitsOfOne) (den * 2 ^ u) * 2 ^ u := by
    rw [nearest, ← hplace.eq_place hden]
  rw [ofRatio_eq hnum hden hu]
  rw [hnearest] at h ⊢
  have hfull := hplace.le_roundDiv hden
  generalize roundDiv (num * unitsOfOne) (den * 2 ^ u) = mantissa at h hfull ⊢
  rw [ofRounded, Nat.pow_eq, Nat.pow_eq]
  by_cases hmantissa : mantissa = 2 ^ 53
  · have hcarry : 2 ^ 52 * 2 ^ (u + 1) = mantissa * 2 ^ u := by
      rw [hmantissa]
      ring
    have hnext : (u : Int) + minExponent + 1 = (u + 1 : Nat) + minExponent := by omega
    rw [if_pos (beq_iff_eq.mpr hmantissa), hnext, bounded_eq Nat.le.refl (hcarry ▸ h)]
    exact ⟨_, _, rfl, hcarry⟩
  · rw [if_neg (mt beq_iff_eq.mp hmantissa)]
    rcases Nat.eq_zero_or_pos u with rfl | hpos
    · exact ⟨_, _, rfl, rfl⟩
    · rw [bounded_eq (hfull hpos.ne') h]
      exact ⟨_, _, rfl, rfl⟩

end Binary64
end Phrasebook.Decimal
