import Phrasebook.Catalog.Coverage
import Phrasebook.Console.Message
import Phrasebook.Proofs.Nearest

/-!
# What coverage tells

A coverage is a percentage rounded to one place, so that it tells a complete catalog from one that is not, and an empty
one from one that is not, only as far as that place goes. Where the ends are is said exactly: for every number of texts.

Results:
1. `tenthsOf_mono`: more translations never give a lower coverage.
2. `tenthsOf_eq_thousand_iff` and `tenthsOf_eq_zero_iff`: when a coverage is 100.0, and when it is 0.0.
3. `describes_ofCatalog`: what the coverage of a catalog tells. From 2000 entries on its ends are not exact (`ends_of_almost`).
-/

namespace Phrasebook.Coverage

open Decimal Binary64

/-! ## 1. Tenths of a percent -/

/-- The tenths of a percent of a number of units. -/
def tenthsOfUnits (units : Nat) : Nat := roundDiv (10 * nearest (units * 100) 1) unitsOfOne

theorem tenthsOfUnits_mono {units units' : Nat} (h : units ≤ units') : tenthsOfUnits units ≤ tenthsOfUnits units' := by
  refine roundDiv_mono unitsOfOne_pos unitsOfOne_pos (Nat.mul_le_mul_right _ (Nat.mul_le_mul_left 10 ?_))
  refine nearest_mono Nat.one_pos Nat.one_pos ?_
  rw [Nat.mul_one, Nat.mul_one]
  exact Nat.mul_le_mul_right 100 h

theorem nearest_unitsOfOne : nearest unitsOfOne 1 = unitsOfOne := by decide +kernel

theorem nearest_hundred : nearest (unitsOfOne * 100) 1 = unitsOfOne * 100 := by decide +kernel

theorem hundred_lt : unitsOfOne * 100 < unitsOfOverflow := by decide +kernel

/-- A part of a whole is at most one. -/
theorem nearest_le_unitsOfOne {translated total : Nat} (htotal : 0 < total) (h : translated ≤ total) :
    nearest (translated * unitsOfOne) total ≤ unitsOfOne := by
  rw [← nearest_unitsOfOne]
  refine nearest_mono htotal Nat.one_pos ?_
  rw [nearest_unitsOfOne, Nat.mul_one, Nat.mul_comm]
  exact Nat.mul_le_mul_left _ h

/-- The tenths of a percent of a part of a whole, by way of units. -/
theorem tenthsOf_eq {translated total : Nat} (htotal : 0 < total) (h : translated ≤ total) :
    tenthsOf translated total = tenthsOfUnits (nearest (translated * unitsOfOne) total) := by
  have hone := unitsOfOne_pos
  have hpart := nearest_le_unitsOfOne htotal h
  have hlt : nearest (translated * unitsOfOne) total < unitsOfOverflow := by
    have := hundred_lt
    omega
  obtain ⟨m, u, hratio, hunits⟩ := exists_ofRatio_eq htotal hlt false
  obtain ⟨hvalue, hpos⟩ := ratio_mul m u
  have hscaled : nearest ((ratio m (u + minExponent)).1 * 100 * unitsOfOne) (ratio m (u + minExponent)).2 =
      nearest (nearest (translated * unitsOfOne) total * 100) 1 := by
    refine nearest_congr hpos Nat.one_pos ?_
    rw [← hunits, Nat.mul_one, Nat.mul_right_comm, hvalue, Nat.mul_right_comm]
  have hscaledLt : nearest ((ratio m (u + minExponent)).1 * 100 * unitsOfOne) (ratio m (u + minExponent)).2 <
      unitsOfOverflow := by
    rw [hscaled]
    refine Nat.lt_of_le_of_lt ?_ hundred_lt
    rw [← nearest_hundred]
    refine nearest_mono Nat.one_pos Nat.one_pos ?_
    rw [Nat.mul_one, Nat.mul_one]
    exact Nat.mul_le_mul_right _ hpart
  obtain ⟨m', u', hratio', hunits'⟩ := exists_ofRatio_eq hpos hscaledLt false
  obtain ⟨hvalue', hpos'⟩ := ratio_mul m' u'
  rw [tenthsOf, hratio, scale]
  dsimp only
  rw [hratio']
  dsimp only
  rw [tenthsOfUnits, ← hscaled, ← hunits']
  refine roundDiv_congr hpos' hone ?_
  rw [Nat.mul_right_comm, hvalue']
  ring

/-- More translations never give a lower coverage. -/
theorem tenthsOf_mono {t n t' n' : Nat} (hn : 0 < n) (hn' : 0 < n') (ht : t ≤ n) (ht' : t' ≤ n') (h : t * n' ≤ t' * n) :
    tenthsOf t n ≤ tenthsOf t' n' := by
  rw [tenthsOf_eq hn ht, tenthsOf_eq hn' ht']
  refine tenthsOfUnits_mono (nearest_mono hn hn' ?_)
  rw [Nat.mul_right_comm, Nat.mul_right_comm t']
  exact Nat.mul_le_mul_right _ h

/-- Below the middle between a number of 53 digits and the next one a part is rounded to the number at most. -/
theorem tenthsOf_le {translated total k s : Nat} (htotal : 0 < total) (h : translated ≤ total) (hs : s ≤ 1074)
    (hk : 2 ^ 52 ≤ k) (hk' : k < 2 ^ 53) (hbelow : translated * 2 ^ (s + 1) < (2 * k + 1) * total) :
    tenthsOf translated total ≤ tenthsOfUnits (k * 2 ^ (1074 - s)) := by
  rw [tenthsOf_eq htotal h]
  refine tenthsOfUnits_mono (nearest_le htotal hk hk' ?_)
  have hunits : unitsOfOne = 2 ^ s * 2 ^ (1074 - s) := by
    rw [unitsOfOne, ← Nat.pow_add, Nat.add_sub_cancel' hs]
  calc 2 * (translated * unitsOfOne) = translated * 2 ^ (s + 1) * 2 ^ (1074 - s) := by rw [hunits, Nat.pow_succ]; ring
    _ < (2 * k + 1) * total * 2 ^ (1074 - s) := Nat.mul_lt_mul_of_pos_right hbelow (Nat.two_pow_pos _)
    _ = (2 * k + 1) * (total * 2 ^ (1074 - s)) := Nat.mul_assoc ..

/-! ## 2. The ends -/

/-- The least part of a whole that is rounded to 100.0, or above it: a little less than 1999 of 2000. -/
def IsNearlyFull (translated total : Nat) : Prop := 18005391310227243 * total ≤ translated * 2 ^ 54

/-- Below the least part of a whole that is not rounded to 0.0, which is a little less than one of 2000. -/
def IsNearlyEmpty (translated total : Nat) : Prop := translated * 2 ^ 64 < 9223372036854775 * total

theorem tenthsOf_le_thousand {translated total : Nat} (htotal : 0 < total) (h : translated ≤ total) :
    tenthsOf translated total ≤ 1000 := by
  have hwhole : tenthsOf 1 1 = 1000 := by decide +kernel
  rw [← hwhole]
  exact tenthsOf_mono htotal Nat.one_pos h Nat.le.refl (by omega)

/-- A coverage is 100.0 just if the catalog is nearly complete. -/
theorem tenthsOf_eq_thousand_iff {translated total : Nat} (htotal : 0 < total) (h : translated ≤ total) :
    tenthsOf translated total = 1000 ↔ IsNearlyFull translated total := by
  constructor
  · intro hfull
    refine Nat.le_of_not_lt fun hless => ?_
    -- the greatest number of 53 digits that is rounded to less than 100.0
    have hbound := tenthsOf_le htotal h (by decide) (by decide) (by decide)
      (show translated * 2 ^ (53 + 1) < (2 * 9002695655113621 + 1) * total from hless)
    have hunits : tenthsOfUnits (9002695655113621 * 2 ^ (1074 - 53)) = 999 := by decide +kernel
    omega
  · intro hfull
    refine Nat.le_antisymm (tenthsOf_le_thousand htotal h) ?_
    have hleast : tenthsOf 18005391310227243 (2 ^ 54) = 1000 := by decide +kernel
    rw [← hleast]
    exact tenthsOf_mono (by decide) htotal (by decide) h hfull

/-- A coverage is 0.0 just if the catalog is nearly empty. -/
theorem tenthsOf_eq_zero_iff {translated total : Nat} (htotal : 0 < total) (h : translated ≤ total) :
    tenthsOf translated total = 0 ↔ IsNearlyEmpty translated total := by
  constructor
  · intro hempty
    refine Nat.lt_of_not_le fun hmore => ?_
    have hleast : tenthsOf 9223372036854775 (2 ^ 64) = 1 := by decide +kernel
    have hreached := tenthsOf_mono (by decide) htotal (by decide) h hmore
    omega
  · intro hempty
    -- the greatest number of 53 digits that is rounded to 0.0
    have hbound := tenthsOf_le htotal h (by decide) (by decide) (by decide)
      (show translated * 2 ^ (63 + 1) < (2 * 4611686018427387 + 1) * total from hempty)
    have hunits : tenthsOfUnits (4611686018427387 * 2 ^ (1074 - 63)) = 0 := by decide +kernel
    omega

/-- In a catalog of any size that is met, nearly complete is: at most one of 2000 texts is pending. -/
theorem isNearlyFull_iff {translated pending total : Nat} (hsum : translated + pending = total) (htotal : total < 2 ^ 50) :
    IsNearlyFull translated total ↔ 2000 * pending ≤ total := by
  rw [IsNearlyFull]
  omega

/-- And nearly empty is: less than one of 2000 texts is translated. -/
theorem isNearlyEmpty_iff {translated total : Nat} (htotal : total < 2 ^ 50) :
    IsNearlyEmpty translated total ↔ 2000 * translated < total := by
  rw [IsNearlyEmpty]
  omega

/-! ## 3. What a coverage tells -/

def wholePercent : Binary64 := .ofRatio false 100 1

def zeroPercent : Binary64 := .ofRatio false 0 1

/-- The ends of the percentages are told from all others, also by their colors. -/
theorem percent_ends : ∀ tenths ≤ 1000,
    (Binary64.ofRatio false tenths 10 = wholePercent ↔ tenths = 1000) ∧
    (Binary64.ofRatio false tenths 10 = zeroPercent ↔ tenths = 0) ∧
    Console.coverageColor (.ofRatio false tenths 10) =
      if tenths = 1000 then Console.fullColor else if tenths = 0 then Console.emptyColor else Console.partialColor := by
  decide +kernel

/-- What a coverage tells of a catalog in a locale: the numbers are exact, and the percentage is at an end just if the
catalog is nearly at it. -/
structure Describes (c : Catalog) (locale : Locale) (coverage : Coverage) : Prop where
  total : coverage.total = c.length
  translated : coverage.translated = (c.filter fun entry => entry.2.translation locale.code != "").length
  pending : coverage.translated + coverage.pending = coverage.total
  of_nil : c = [] → coverage.percent = zeroPercent
  of_complete : c ≠ [] → coverage.pending = 0 → coverage.percent = wholePercent
  of_untranslated : coverage.translated = 0 → coverage.percent = zeroPercent
  whole_iff : c ≠ [] → (coverage.percent = wholePercent ↔ IsNearlyFull coverage.translated coverage.total)
  zero_iff : c ≠ [] → (coverage.percent = zeroPercent ↔ IsNearlyEmpty coverage.translated coverage.total)
  /-- Among less than `2 ^ 50` entries, one of 2000 is what the place does not tell. -/
  ends_of_lt : c ≠ [] → coverage.total < 2 ^ 50 →
    (coverage.percent = wholePercent ↔ 2000 * coverage.pending ≤ coverage.total) ∧
    (coverage.percent = zeroPercent ↔ 2000 * coverage.translated < coverage.total)
  /-- So among less than 2000 the ends are exact. -/
  exact_of_lt : c ≠ [] → coverage.total < 2000 →
    (coverage.percent = wholePercent ↔ coverage.pending = 0) ∧ (coverage.percent = zeroPercent ↔ coverage.translated = 0)
  color : Console.coverageColor coverage.percent =
    if coverage.percent = wholePercent then Console.fullColor
    else if coverage.percent = zeroPercent then Console.emptyColor else Console.partialColor

theorem translatedIn_le (c : Catalog) (locale : Locale) : translatedIn c locale ≤ c.length := List.countP_le_length

/-- For every catalog and every locale. -/
theorem describes_ofCatalog (c : Catalog) (locale : Locale) : Describes c locale (ofCatalog c locale) := by
  have hle := translatedIn_le c locale
  have hsum : translatedIn c locale + (c.length - translatedIn c locale) = c.length := by omega
  have hpos : c ≠ [] → 0 < c.length := List.length_pos_iff.mpr
  have hnil : c = [] → (ofCatalog c locale).tenths = 0 := fun hc => by
    subst hc
    rfl
  have htenths : c ≠ [] → (ofCatalog c locale).tenths = tenthsOf (translatedIn c locale) c.length := fun hc => by
    show (if c.isEmpty then 0 else _) = _
    rw [if_neg (by simpa using hc)]
  have hbound : (ofCatalog c locale).tenths ≤ 1000 := by
    by_cases hc : c = []
    · exact (hnil hc).trans_le (Nat.zero_le _)
    · rw [htenths hc]
      exact tenthsOf_le_thousand (hpos hc) hle
  obtain ⟨hwholeIff, hzeroIff, hcolor⟩ := percent_ends _ hbound
  have hfull : c ≠ [] → ((ofCatalog c locale).percent = wholePercent ↔ IsNearlyFull (translatedIn c locale) c.length) :=
    fun hc => by rw [percent, hwholeIff, htenths hc, tenthsOf_eq_thousand_iff (hpos hc) hle]
  have hempty : c ≠ [] → ((ofCatalog c locale).percent = zeroPercent ↔ IsNearlyEmpty (translatedIn c locale) c.length) :=
    fun hc => by rw [percent, hzeroIff, htenths hc, tenthsOf_eq_zero_iff (hpos hc) hle]
  have hends : c ≠ [] → c.length < 2 ^ 50 →
      ((ofCatalog c locale).percent = wholePercent ↔ 2000 * (c.length - translatedIn c locale) ≤ c.length) ∧
      ((ofCatalog c locale).percent = zeroPercent ↔ 2000 * translatedIn c locale < c.length) := fun hc hlt =>
    ⟨(hfull hc).trans (isNearlyFull_iff hsum hlt), (hempty hc).trans (isNearlyEmpty_iff hlt)⟩
  refine ⟨rfl, List.countP_eq_length_filter, hsum, ?_, ?_, ?_, hfull, hempty, hends, ?_, ?_⟩
  · exact fun hc => hzeroIff.mpr (hnil hc)
  · intro hc hpending
    change c.length - translatedIn c locale = 0 at hpending
    rw [hfull hc, IsNearlyFull]
    omega
  · intro htranslated
    change translatedIn c locale = 0 at htranslated
    by_cases hc : c = []
    · exact hzeroIff.mpr (hnil hc)
    · have := hpos hc
      rw [hempty hc, IsNearlyEmpty]
      omega
  · intro hc hlt
    change c.length < 2000 at hlt
    change (_ ↔ c.length - translatedIn c locale = 0) ∧ (_ ↔ translatedIn c locale = 0)
    have := hpos hc
    obtain ⟨hwhole, hzero⟩ := hends hc (by omega)
    rw [hwhole, hzero]
    omega
  · rw [percent, hcolor]
    simp only [hwholeIff, hzeroIff]

/-- 2001 texts: all but the last are translated into one locale, and only the first into another. -/
def almost : Catalog :=
  (List.range 2001).map fun n =>
    (toString n, Record.make "Hi" (toString n)
      [("ru", if n < 2000 then "Hi" else ""), ("pseudo", if n = 0 then "Hi" else "")] ⟨"a.jsx", "A", "p"⟩ none)

/-- From 2000 entries on the percentage does not tell an end from what is next to it: one text of 2001 is pending at
100.0, and one is translated at 0.0. -/
theorem ends_of_almost :
    ¬ ((ofCatalog almost .ru).percent = wholePercent ↔ (ofCatalog almost .ru).pending = 0) ∧
    ¬ ((ofCatalog almost .pseudo).percent = zeroPercent ↔ (ofCatalog almost .pseudo).translated = 0) := by
  decide +kernel

end Phrasebook.Coverage
