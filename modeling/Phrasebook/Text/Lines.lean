/-!
# Line ends

Texts in which every line ends alike, and texts and bytes cut at their line ends.
-/

namespace Phrasebook.Text

/-- A text in which every line ends with a line feed alone. -/
def unifyLines : List Char → List Char
  | [] => []
  | '\r' :: '\n' :: r => '\n' :: unifyLines r
  | '\r' :: r => '\n' :: unifyLines r
  | c :: r => c :: unifyLines r

/-- The parts of a list between the items that are a separator; there is always one more than separators. -/
def splitOn {α : Type} [DecidableEq α] (separator : α) : List α → List (List α)
  | [] => [[]]
  | x :: xs =>
    match splitOn separator xs with
    | [] => [[x]]
    | part :: parts => if x = separator then [] :: part :: parts else (x :: part) :: parts

theorem splitOn_ne_nil {α : Type} [DecidableEq α] (separator : α) (xs : List α) : splitOn separator xs ≠ [] := by
  cases xs with
  | nil => simp [splitOn]
  | cons x xs => simp only [splitOn]; split <;> (try split) <;> simp

section

variable {α : Type} [DecidableEq α] {separator : α} {xs : List α}

theorem splitOn_of_not_mem (h : separator ∉ xs) : splitOn separator xs = [xs] := by
  induction xs with
  | nil => rfl
  | cons x xs ih =>
    rw [List.mem_cons, not_or] at h
    rw [splitOn, ih h.2]
    exact if_neg (Ne.symm h.1)

theorem splitOn_append (h : separator ∉ xs) (rest : List α) :
    splitOn separator (xs ++ separator :: rest) = xs :: splitOn separator rest := by
  induction xs with
  | nil =>
    rw [List.nil_append, splitOn]
    cases hrest : splitOn separator rest with
    | nil => exact absurd hrest (splitOn_ne_nil separator rest)
    | cons part parts => exact if_pos rfl
  | cons x xs ih =>
    rw [List.mem_cons, not_or] at h
    rw [List.cons_append, splitOn, ih h.2]
    exact if_neg (Ne.symm h.1)

/-- A list is one part, or a part before a separator and what follows it. -/
theorem exists_split (separator : α) (xs : List α) :
    separator ∉ xs ∨ ∃ part rest, separator ∉ part ∧ xs = part ++ separator :: rest := by
  induction xs with
  | nil => exact .inl List.not_mem_nil
  | cons x xs ih =>
    by_cases hx : x = separator
    · exact .inr ⟨[], xs, List.not_mem_nil, by rw [hx, List.nil_append]⟩
    · rcases ih with h | ⟨part, rest, hpart, rfl⟩
      · exact .inl (by simp [Ne.symm hx, h])
      · exact .inr ⟨x :: part, rest, by simp [Ne.symm hx, hpart], rfl⟩

/-- Part by part. -/
theorem splitOn_induction {motive : List α → Prop} (separator : α) (one : ∀ xs, separator ∉ xs → motive xs)
    (more : ∀ part rest, separator ∉ part → motive rest → motive (part ++ separator :: rest)) (xs : List α) :
    motive xs := by
  rcases exists_split separator xs with h | ⟨part, rest, hpart, hxs⟩
  · exact one xs h
  · rw [hxs]
    exact more part rest hpart (splitOn_induction separator one more rest)
termination_by xs.length
decreasing_by
  rw [hxs, List.length_append, List.length_cons]
  omega

/-- The parts make the list. -/
theorem eq_of_splitOn_eq (separator : α) {xs ys : List α} (h : splitOn separator xs = splitOn separator ys) :
    xs = ys := by
  induction xs using splitOn_induction separator generalizing ys with
  | one xs hxs =>
    rcases exists_split separator ys with hys | ⟨part, rest, hpart, rfl⟩
    · rw [splitOn_of_not_mem hxs, splitOn_of_not_mem hys] at h
      exact List.head_eq_of_cons_eq h
    · rw [splitOn_of_not_mem hxs, splitOn_append hpart] at h
      exact absurd (List.tail_eq_of_cons_eq h).symm (splitOn_ne_nil separator rest)
  | more part rest hpart ih =>
    rcases exists_split separator ys with hys | ⟨part', rest', hpart', rfl⟩
    · rw [splitOn_append hpart, splitOn_of_not_mem hys] at h
      exact absurd (List.tail_eq_of_cons_eq h) (splitOn_ne_nil separator rest)
    · rw [splitOn_append hpart, splitOn_append hpart'] at h
      rw [List.head_eq_of_cons_eq h, ih (List.tail_eq_of_cons_eq h)]

end

end Phrasebook.Text
