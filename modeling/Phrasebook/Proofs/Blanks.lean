import Mathlib.Data.List.TakeWhile
import Phrasebook.Text.Blank

/-!
# Trimming

What is left of a text once the blanks at its ends are cut off does not depend on how many there were.

Results:
1. `trim_eq_nil_iff`: nothing is left just of blanks.
2. `leading_append_trim_append_trailing`: of other texts the blanks at both ends are apart.
3. `trim_append`: blanks put around a text are cut off again.
-/

namespace Phrasebook.Text

theorem forall_leading (cs : List Char) : ∀ c ∈ leading cs, isBlank c = true := fun _ hc => List.mem_takeWhile_imp hc

theorem forall_trailing (cs : List Char) : ∀ c ∈ trailing cs, isBlank c = true :=
  fun _ hc => List.mem_takeWhile_imp (List.mem_reverse.mp hc)

theorem trimStart_eq_nil_iff {cs : List Char} : trimStart cs = [] ↔ ∀ c ∈ cs, isBlank c = true := by
  rw [trimStart, List.dropWhile_eq_nil_iff]

theorem trimEnd_eq_nil_iff {cs : List Char} : trimEnd cs = [] ↔ ∀ c ∈ cs, isBlank c = true := by
  rw [trimEnd, List.reverse_eq_nil_iff, List.dropWhile_eq_nil_iff]
  simp only [List.mem_reverse]

/-- Only of blanks nothing is left. -/
theorem trim_eq_nil_iff {cs : List Char} : trim cs = [] ↔ ∀ c ∈ cs, isBlank c = true := by
  rw [trim, trimEnd_eq_nil_iff]
  refine ⟨fun h => ?_, fun h c hc => h c ((List.dropWhile_suffix _).subset hc)⟩
  -- the first character that is left would be no blank
  rw [← trimStart_eq_nil_iff]
  by_contra hne
  have hhead : isBlank ((trimStart cs).head hne) = false := List.head_dropWhile_not isBlank hne
  exact absurd (h _ (List.head_mem hne)) (by rw [hhead]; exact Bool.false_ne_true)

/-- What is left was there before. -/
theorem mem_of_mem_trim {c : Char} {cs : List Char} (h : c ∈ trim cs) : c ∈ cs := by
  rw [← trim_eq cs]
  exact List.mem_append_left _ (List.mem_append_right _ h)

theorem trimStart_append {blanks : List Char} (h : ∀ c ∈ blanks, isBlank c = true) (cs : List Char) :
    trimStart (blanks ++ cs) = trimStart cs :=
  List.dropWhile_append_of_pos h

theorem trimEnd_append {blanks : List Char} (h : ∀ c ∈ blanks, isBlank c = true) (cs : List Char) :
    trimEnd (cs ++ blanks) = trimEnd cs := by
  rw [trimEnd, List.reverse_append, List.dropWhile_append_of_pos fun c hc => h c (List.mem_reverse.mp hc)]
  rfl

/-- Behind a text that is more than blanks everything else is kept. -/
theorem trimEnd_append_of_ne_nil {cs : List Char} (h : trimEnd cs ≠ []) (before : List Char) :
    trimEnd (before ++ cs) = before ++ trimEnd cs := by
  have hrest : cs.reverse.dropWhile isBlank ≠ [] := fun hnil => h (by rw [trimEnd, hnil, List.reverse_nil])
  rw [trimEnd, List.reverse_append, List.dropWhile_append, if_neg (by simpa using hrest), List.reverse_append,
    List.reverse_reverse, trimEnd]

/-- Blanks around a text are cut off. -/
theorem trim_append {before after : List Char} (hbefore : ∀ c ∈ before, isBlank c = true)
    (hafter : ∀ c ∈ after, isBlank c = true) (cs : List Char) : trim (before ++ cs ++ after) = trim cs := by
  rw [List.append_assoc, trim, trimStart_append hbefore, trim]
  rw [trimStart, List.dropWhile_append]
  split
  · rename_i hempty
    have hnil : trimStart cs = [] := List.isEmpty_iff.mp hempty
    have hafterNil : after.dropWhile isBlank = [] := List.dropWhile_eq_nil_iff.mpr hafter
    rw [hnil, hafterNil]
  · exact trimEnd_append hafter _

/-- A text that is more than blanks, with the blanks at both its ends. -/
theorem leading_append_trim_append_trailing {cs : List Char} (h : trim cs ≠ []) :
    leading cs ++ trim cs ++ trailing cs = cs := by
  have htrailing : trailing (trimStart cs) = trailing cs := by
    have hne : (trimStart cs).reverse.takeWhile isBlank ≠ (trimStart cs).reverse := by
      intro hall
      refine h (trimEnd_eq_nil_iff.mpr fun c hc => ?_)
      exact List.mem_takeWhile_imp (hall ▸ List.mem_reverse.mpr hc)
    rw [trailing, trailing]
    conv => rhs; rw [← leading_append_trimStart cs]
    rw [List.reverse_append, List.takeWhile_append, if_neg]
    exact fun hlength => hne ((List.takeWhile_prefix _).eq_of_length hlength)
  rw [← htrailing]
  exact trim_eq cs

end Phrasebook.Text
