import Phrasebook.Console.Table
import Phrasebook.Proofs.Markups

/-!
# What is laid out

A text is laid out on lines, with blanks where it does not reach. Nothing else is added, and a text of characters that
take one cell each stays in one piece if it is not longer than a line.

Results:
1. `specials_wrap_le` and `specials_lines_le`: no character that is special in markup comes to a text or a cell.
2. `wrap_of_narrow`: a text that fits is on one line; `exists_line_of_narrow`: so is a cell.
-/

namespace Phrasebook

open Text (cells cellsOf cellsFrom isBlank)

namespace Console

open Markup (specials specials_append specials_nil specials_cons isSpecial)

/-! ## 1. What is on the lines -/

theorem specials_blanks (n : Nat) : specials (blanks n) = 0 := by
  rw [specials, blanks, List.countP_replicate, if_neg (by decide)]

theorem specials_reverse (cs : List Char) : specials cs.reverse = specials cs := List.countP_reverse

theorem specials_take_le (n : Nat) (cs : List Char) : specials (cs.take n) ≤ specials cs :=
  (List.take_sublist n cs).countP_le

theorem specials_trimEnd_le (cs : List Char) : specials (Text.trimEnd cs) ≤ specials cs := by
  have := congrArg specials (Text.trimEnd_append_trailing cs)
  rw [specials_append] at this
  omega

theorem specials_le_of_mem {line : List Char} {lines : List (List Char)} (h : line ∈ lines) :
    specials line ≤ specials lines.flatten :=
  (List.sublist_flatten_of_mem h).countP_le

theorem specials_flatten_map_le {f : List Char → List Char} (hf : ∀ cs, specials (f cs) ≤ specials cs)
    (lines : List (List Char)) : specials (lines.map f).flatten ≤ specials lines.flatten := by
  induction lines with
  | nil => exact Nat.le_refl 0
  | cons line lines ih =>
    have := hf line
    rw [List.map_cons, List.flatten_cons, List.flatten_cons, specials_append, specials_append]
    omega

theorem specials_splitOn {separator : Char} (h : isSpecial separator = false) (cs : List Char) :
    specials (Text.splitOn separator cs).flatten = specials cs := by
  induction cs using Text.splitOn_induction separator with
  | one cs hnot => rw [Text.splitOn_of_not_mem hnot, List.flatten_singleton]
  | more part rest hnot ih =>
    rw [Text.splitOn_append hnot, List.flatten_cons, specials_append, ih, specials_append, specials_cons, h]
    simp

theorem specials_joinTabs (position : Nat) (parts : List (List Char)) :
    specials (joinTabs position parts) = specials parts.flatten := by
  induction parts generalizing position with
  | nil => rfl
  | cons part rest ih =>
    cases rest with
    | nil => rw [joinTabs, List.flatten_singleton]
    | cons next rest =>
      rw [joinTabs, specials_append, specials_append, specials_cons, specials_blanks, ih, List.flatten_cons, specials_append]
      · simp [show isSpecial ' ' = false by decide]
      · exact nofun

theorem specials_expandTabs (line : List Char) : specials (expandTabs line) = specials line := by
  rw [expandTabs, specials_joinTabs, specials_splitOn (by decide)]

theorem wordsFrom_nil (word : List Char) (n : Nat) :
    wordsFrom word n [] = if word.all isBlank then [] else [word.reverse] := rfl

theorem wordsFrom_zero (word : List Char) (c : Char) (r : List Char) :
    wordsFrom word 0 (c :: r) = wordsFrom (c :: word) (if isBlank c then 0 else 1) r := rfl

theorem wordsFrom_one (word : List Char) (c : Char) (r : List Char) :
    wordsFrom word 1 (c :: r) = wordsFrom (c :: word) (if isBlank c then 2 else 1) r := rfl

theorem wordsFrom_add_two (word : List Char) (n : Nat) (c : Char) (r : List Char) :
    wordsFrom word (n + 2) (c :: r) =
      if isBlank c then wordsFrom (c :: word) (n + 2) r else word.reverse :: wordsFrom [c] 1 r := rfl

theorem specials_wordsFrom_le (word : List Char) (n : Nat) (line : List Char) :
    specials (wordsFrom word n line).flatten ≤ specials word + specials line := by
  induction line generalizing word n with
  | nil =>
    rw [wordsFrom_nil]
    split
    · exact Nat.zero_le _
    · rw [List.flatten_singleton, specials_reverse]
      exact Nat.le_refl _
  | cons c line ih =>
    have hcons (n : Nat) : specials (wordsFrom (c :: word) n line).flatten ≤ specials word + specials (c :: line) := by
      have := ih (c :: word) n
      rw [specials_cons] at this ⊢
      omega
    rcases n with - | - | n
    · rw [wordsFrom_zero]
      exact hcons _
    · rw [wordsFrom_one]
      exact hcons _
    · rw [wordsFrom_add_two]
      split
      · exact hcons _
      · have := ih [c] 1
        rw [List.flatten_cons, specials_append, specials_reverse]
        simp only [specials_cons, specials_nil] at this ⊢
        omega

theorem specials_chopFrom (width : Nat) (part : List Char) (size : Nat) (word : List Char) :
    specials (chopFrom width part size word).flatten = specials part + specials word := by
  induction word generalizing part size with
  | nil => rw [chopFrom, List.flatten_singleton, specials_reverse, specials_nil, Nat.add_zero]
  | cons c word ih =>
    rw [chopFrom, specials_cons]
    split
    · rw [List.flatten_cons, specials_append, specials_reverse, ih, specials_cons, specials_nil]
      omega
    · rw [ih, specials_cons]
      omega

/-- The last part of a word that is cut starts the next line. -/
theorem specials_chop (width : Nat) (word : List Char) :
    specials (chop width word).dropLast.flatten + specials ((chop width word).getLast?.getD []) = specials word := by
  have hchop : specials (chop width word).flatten = specials word := by
    rw [chop, specials_chopFrom, specials_nil, Nat.zero_add]
  rw [← hchop]
  rcases List.eq_nil_or_concat (chop width word) with hnil | ⟨before, last, hlast⟩
  · rw [hnil]
    rfl
  · rw [hlast, List.concat_eq_append, List.dropLast_concat, List.getLast?_concat, List.flatten_append, specials_append,
      List.flatten_singleton]
    rfl

theorem specials_fill (width : Nat) (line : List Char) (size : Nat) (words : List (List Char)) :
    specials (fill width line size words).flatten = specials line + specials words.flatten := by
  induction words generalizing line size with
  | nil => rw [fill, List.flatten_singleton, List.flatten_nil, specials_nil, Nat.add_zero]
  | cons word rest ih =>
    rw [fill, List.flatten_cons, specials_append]
    dsimp only
    split
    · rw [ih, specials_append]
      omega
    · split
      · have hparts := specials_chop width word
        have hline : specials (if line.isEmpty then [] else [line]).flatten = specials line := by
          cases line with
          | nil => rfl
          | cons c line => rw [List.isEmpty_cons, if_neg (by decide), List.flatten_singleton]
        rw [List.flatten_append, List.flatten_append, specials_append, specials_append, hline, ih]
        omega
      · rw [List.flatten_cons, specials_append, ih]

theorem specials_cut_le (width : Nat) (line : List Char) : specials (cut width line) ≤ specials line := by
  rw [cut, specials_append, specials_blanks]
  exact specials_take_le _ _

theorem specials_truncated_le (width : Nat) (line : List Char) : specials (truncated width line) ≤ specials line := by
  rw [truncated]
  split
  · exact specials_cut_le width line
  · exact Nat.le_refl _

theorem specials_aligned_le (width : Nat) (alignment : Alignment) (line : List Char) :
    specials (aligned width alignment line) ≤ specials line := by
  have htrimmed := Nat.le_trans (specials_truncated_le width (Text.trimEnd line)) (specials_trimEnd_le line)
  cases alignment with
  | none => exact specials_truncated_le width line
  | left =>
    rw [aligned, specials_append, specials_blanks]
    exact specials_truncated_le width line
  | center =>
    rw [aligned, specials_append, specials_append, specials_blanks, specials_blanks, Nat.zero_add]
    exact htrimmed
  | right =>
    rw [aligned, specials_append, specials_blanks, Nat.zero_add]
    exact htrimmed

theorem specials_wrapLine_le (width : Nat) (alignment : Alignment) (line : List Char) :
    specials (wrapLine width alignment line).flatten ≤ specials line := by
  have hbroken : specials (if (wordsOf (expandTabs line)).isEmpty then [expandTabs line]
      else fill width [] 0 (wordsOf (expandTabs line))).flatten ≤ specials line := by
    have hline := specials_expandTabs line
    split
    · rw [List.flatten_singleton, hline]
    · have := specials_wordsFrom_le [] 0 (expandTabs line)
      rw [specials_fill, wordsOf]
      simp only [specials_nil] at this ⊢
      omega
  rw [wrapLine]
  refine Nat.le_trans (specials_flatten_map_le (fun l => ?_) _) hbroken
  exact Nat.le_trans (specials_aligned_le _ _ _) (specials_take_le _ _)

theorem specials_wrap_le (width : Nat) (alignment : Alignment) (text : List Char) :
    specials (wrap width alignment text).flatten ≤ specials text := by
  have hlines := specials_splitOn (show isSpecial '\n' = false by decide) text
  rw [wrap, ← hlines]
  generalize Text.splitOn '\n' text = lines
  induction lines with
  | nil => exact Nat.le_refl 0
  | cons line lines ih =>
    have := specials_wrapLine_le width alignment line
    rw [List.flatMap_cons, List.flatten_append, List.flatten_cons, specials_append, specials_append]
    omega

/-- Whether a character is one of a text, and not one that fills a line up or marks what is left out. -/
def isContent (c : Char) : Bool := c != ' ' && c != '…'

end Console

open Console

/-- What a terminal shows of a cell that is wider than its column are characters of the cell in their order. -/
def Terminal.AddsNothing (terminal : Terminal) : Prop :=
  ∀ width alignment cell, ∀ line ∈ terminal.shortened width alignment cell, (line.filter isContent).Sublist cell

theorem Text.sublist_of_mem_splitOn {separator : Char} {part cs : List Char} (h : part ∈ Text.splitOn separator cs) :
    part.Sublist cs := by
  induction cs using Text.splitOn_induction separator with
  | one cs hnot =>
    rw [Text.splitOn_of_not_mem hnot, List.mem_singleton] at h
    exact h ▸ .refl _
  | more first rest hnot ih =>
    rw [Text.splitOn_append hnot, List.mem_cons] at h
    rcases h with rfl | h
    · exact List.sublist_append_left _ _
    · exact ((ih h).cons separator).trans (List.sublist_append_right _ _)

theorem Terminal.addsNothing_ofWidth (colored : Bool) (width : Nat) : (ofWidth colored width).AddsNothing := by
  intro width alignment cell line hline
  obtain ⟨part, hpart, rfl⟩ := List.mem_map.mp hline
  refine List.Sublist.trans ?_ (Text.sublist_of_mem_splitOn hpart)
  rw [shortenedLine]
  split
  · exact List.filter_sublist
  · have hblanks (n : Nat) : (blanks n).filter isContent = [] :=
      List.filter_eq_nil_iff.mpr fun c hc => by
        rw [List.eq_of_mem_replicate hc]
        decide
    rw [cut, List.filter_append, List.filter_append, hblanks, show ['…'].filter isContent = [] by decide, List.append_nil,
      List.append_nil]
    exact List.filter_sublist.trans (List.take_sublist _ _)

namespace Console

open Phrasebook.Console.Markup (specials isSpecial)

theorem specials_filter_isContent (cs : List Char) : specials (cs.filter isContent) = specials cs := by
  have hspecial : ∀ c, isSpecial c = true → isContent c = true := by
    intro c hc
    rw [isContent, Bool.and_eq_true, bne_iff_ne, bne_iff_ne]
    constructor <;> rintro rfl <;> exact absurd hc (by decide)
  rw [specials, specials, List.countP_filter]
  refine List.countP_congr fun c _ => ?_
  rw [Bool.and_eq_true]
  exact ⟨And.left, fun hc => ⟨hc, hspecial c hc⟩⟩

theorem specials_lines_le {terminal : Terminal} (h : terminal.AddsNothing) (c : Column) (cell : List Char) :
    ∀ line ∈ c.lines terminal cell, specials line ≤ specials cell := by
  intro line hline
  obtain ⟨inner, hinner, rfl⟩ := List.mem_map.mp hline
  refine Nat.le_trans (specials_aligned_le _ _ _) ?_
  split at hinner
  · exact Nat.le_trans (specials_le_of_mem hinner) (specials_wrap_le _ _ _)
  · rw [← specials_filter_isContent]
    exact (h _ _ _ _ hinner).countP_le

/-! ## 2. Texts that fit -/

/-- Every character takes one cell. So there are no tabs and no line ends. -/
def IsNarrow (cs : List Char) : Prop := ∀ c ∈ cs, cellsOf c = 1

instance (cs : List Char) : Decidable (IsNarrow cs) := List.decidableBAll (cellsOf · = 1) cs

theorem IsNarrow.not_mem {cs : List Char} (h : IsNarrow cs) {c : Char} (hc : cellsOf c = 0) : c ∉ cs := by
  intro hmem
  rw [h c hmem] at hc
  cases hc

theorem IsNarrow.append {cs ds : List Char} (h : IsNarrow cs) (h' : IsNarrow ds) : IsNarrow (cs ++ ds) :=
  fun c hc => (List.mem_append.mp hc).elim (h c) (h' c)

theorem isNarrow_blanks (n : Nat) : IsNarrow (blanks n) := by
  intro c hc
  rw [List.eq_of_mem_replicate hc]
  decide

theorem cellsFrom_cons {c : Char} (hjoiner : c ≠ Text.joiner) (hmark : c ≠ Text.presentationMark) (last : Option Char)
    (cs : List Char) : cellsFrom last (c :: cs) = cellsOf c + cellsFrom (if cellsOf c == 0 then last else some c) cs := by
  have hjoiner : (c == Text.joiner) = false := beq_false_of_ne hjoiner
  have hmark : (c == Text.presentationMark) = false := beq_false_of_ne hmark
  cases cs with
  | nil =>
    show (if c == Text.joiner then _ else if c == Text.presentationMark then _ else _) = _
    rw [hjoiner, hmark]
    rfl
  | cons d cs =>
    show (if c == Text.joiner then _ else if c == Text.presentationMark then _ else _) = _
    rw [hjoiner, hmark]
    rfl

theorem cellsFrom_of_narrow {cs : List Char} (h : IsNarrow cs) (last : Option Char) : cellsFrom last cs = cs.length := by
  induction cs generalizing last with
  | nil => rfl
  | cons c cs ih =>
    have hnot : c ≠ Text.joiner ∧ c ≠ Text.presentationMark := by
      constructor <;> rintro rfl
      · exact h.not_mem (by decide +kernel) List.mem_cons_self
      · exact h.not_mem (by decide +kernel) List.mem_cons_self
    have hone : cellsOf c = 1 := h c List.mem_cons_self
    have hrest := ih (fun d hd => h d (List.mem_cons_of_mem c hd)) (some c)
    rw [cellsFrom_cons hnot.1 hnot.2, hone, if_neg (by decide), hrest, List.length_cons, Nat.add_comm]

theorem cells_of_narrow {cs : List Char} (h : IsNarrow cs) : cells cs = cs.length := cellsFrom_of_narrow h none

/-- The words of a line that is more than blanks make the line. -/
theorem flatten_wordsFrom {word line : List Char} {n : Nat} (h : ∃ c ∈ word ++ line, isBlank c = false)
    (hword : n ≠ 0 → ∃ c ∈ word, isBlank c = false) :
    (wordsFrom word n line).flatten = word.reverse ++ line := by
  induction line generalizing word n with
  | nil =>
    obtain ⟨c, hc, hblank⟩ := h
    rw [List.append_nil] at hc
    rw [wordsFrom_nil, if_neg]
    · simp
    · intro hall
      rw [List.all_eq_true.mp hall c hc] at hblank
      cases hblank
  | cons c line ih =>
    -- the character goes to the word so far
    have hcons : ∀ {n : Nat}, (n ≠ 0 → ∃ d ∈ c :: word, isBlank d = false) →
        (wordsFrom (c :: word) n line).flatten = word.reverse ++ c :: line := fun hn => by
      obtain ⟨d, hd, hblank⟩ := h
      rw [ih ⟨d, List.perm_middle.mem_iff.mp hd, hblank⟩ hn]
      simp
    have hkept : (∃ d ∈ word, isBlank d = false) → ∃ d ∈ c :: word, isBlank d = false :=
      fun ⟨d, hd, hblank⟩ => ⟨d, List.mem_cons_of_mem c hd, hblank⟩
    rcases n with - | - | n
    · rw [wordsFrom_zero]
      cases hblank : isBlank c with
      | true => exact hcons fun hn => absurd rfl hn
      | false => exact hcons fun _ => ⟨c, List.mem_cons_self, hblank⟩
    · rw [wordsFrom_one]
      exact hcons fun _ => hkept (hword (by decide))
    · rw [wordsFrom_add_two]
      cases hblank : isBlank c with
      | true => exact hcons fun _ => hkept (hword (by omega))
      | false =>
        rw [if_neg (by decide), List.flatten_cons, ih ⟨c, by simp, hblank⟩ fun _ => ⟨c, by simp, hblank⟩]
        rfl

/-- A line without words has no other characters than blanks. -/
theorem wordsFrom_ne_nil {word line : List Char} {n : Nat} (h : ∃ c ∈ word ++ line, isBlank c = false)
    (hword : n ≠ 0 → ∃ c ∈ word, isBlank c = false) : wordsFrom word n line ≠ [] := by
  intro hnil
  have hflatten := flatten_wordsFrom h hword
  obtain ⟨c, hc, -⟩ := h
  rw [hnil, List.flatten_nil, eq_comm, List.append_eq_nil_iff, List.reverse_eq_nil_iff] at hflatten
  rw [hflatten.1, hflatten.2] at hc
  cases hc

/-- Blanks alone are no words. -/
theorem wordsFrom_of_blank {word line : List Char} (h : ∀ c ∈ word ++ line, isBlank c = true) :
    wordsFrom word 0 line = [] := by
  induction line generalizing word with
  | nil =>
    rw [List.append_nil] at h
    rw [wordsFrom_nil, if_pos (List.all_eq_true.mpr h)]
  | cons c line ih =>
    rw [wordsFrom_zero, if_pos (h c (by simp))]
    exact ih fun d hd => h d (List.perm_middle.mem_iff.mpr hd)

/-- Words that fit on a line are put on it. -/
theorem fill_of_narrow {width : Nat} {line : List Char} {size : Nat} {words : List (List Char)}
    (hnarrow : IsNarrow words.flatten) (hsize : size ≤ line.length) (hfits : (line ++ words.flatten).length ≤ width) :
    fill width line size words = [line ++ words.flatten] := by
  induction words generalizing line size with
  | nil => rw [fill, List.flatten_nil, List.append_nil]
  | cons word words ih =>
    rw [List.flatten_cons] at hnarrow hfits ⊢
    have hword : IsNarrow word := fun c hc => hnarrow c (List.mem_append_left _ hc)
    have htrimmed := Text.trimEnd_append_trailing word
    have hneeded : cells (Text.trimEnd word) = (Text.trimEnd word).length :=
      cells_of_narrow fun c hc => hword c (htrimmed ▸ List.mem_append_left _ hc)
    have hcells := cells_of_narrow hword
    have hlength := congrArg List.length htrimmed
    rw [List.length_append] at hlength
    simp only [List.length_append] at hfits
    rw [fill]
    dsimp only
    rw [if_pos (by omega), ih (fun c hc => hnarrow c (List.mem_append_right _ hc))
      (by simp only [List.length_append]; omega) (by simp only [List.length_append]; omega), List.append_assoc]

/-- A text that fits is on one line. -/
theorem wrap_of_narrow {width : Nat} {line : List Char} (hnarrow : IsNarrow line) (hfits : line.length ≤ width)
    (alignment : Alignment) : wrap width alignment line = [aligned width alignment line] := by
  have hexpand : expandTabs line = line := by
    rw [expandTabs, Text.splitOn_of_not_mem (hnarrow.not_mem (by decide)), joinTabs]
  have hbroken : (if (wordsOf line).isEmpty then [line] else fill width [] 0 (wordsOf line)) = [line] := by
    by_cases hblank : ∃ c ∈ line, isBlank c = false
    · have hwords : (wordsOf line).flatten = line := flatten_wordsFrom hblank fun h => absurd rfl h
      have hne : wordsOf line ≠ [] := wordsFrom_ne_nil hblank fun h => absurd rfl h
      rw [if_neg (by simpa using hne), fill_of_narrow (hwords.symm ▸ hnarrow) (Nat.le_refl 0)
        (by rwa [hwords, List.nil_append]), hwords, List.nil_append]
    · have hempty : wordsOf line = [] := wordsFrom_of_blank (by simpa using hblank)
      rw [hempty]
      rfl
  have htrim : trimExcess width line = line := by
    rw [trimExcess, show line.length - width = 0 by omega]
    simp
  rw [wrap, Text.splitOn_of_not_mem (hnarrow.not_mem (by decide)), List.flatMap_singleton, wrapLine, hexpand, hbroken,
    List.map_singleton, htrim]

/-- A line that fits is whole in its place, unless blanks at its end are left out there. -/
theorem aligned_of_narrow {width : Nat} {line : List Char} (hnarrow : IsNarrow line) (hfits : line.length ≤ width)
    {alignment : Alignment} (hend : alignment = .left ∨ Text.trimEnd line = line) :
    line <:+: aligned width alignment line ∧ IsNarrow (aligned width alignment line) ∧
      (aligned width alignment line).length ≤ width := by
  have hcells := cells_of_narrow hnarrow
  have htruncated : truncated width line = line := by rw [truncated, if_neg (by omega)]
  cases alignment with
  | none =>
    rw [aligned, htruncated]
    exact ⟨List.infix_rfl, hnarrow, hfits⟩
  | left =>
    rw [aligned, htruncated]
    refine ⟨List.infix_append' [] line _, hnarrow.append (isNarrow_blanks _), ?_⟩
    simp only [List.length_append, blanks, List.length_replicate]
    omega
  | center =>
    have hcells' := cells_of_narrow ((isNarrow_blanks ((width - line.length) / 2)).append hnarrow)
    rw [aligned, hend.resolve_left nofun, htruncated, hcells, hcells']
    refine ⟨List.infix_append _ line _, ((isNarrow_blanks _).append hnarrow).append (isNarrow_blanks _), ?_⟩
    simp only [List.length_append, blanks, List.length_replicate]
    omega
  | right =>
    rw [aligned, hend.resolve_left nofun, htruncated]
    refine ⟨(List.suffix_append _ line).isInfix, (isNarrow_blanks _).append hnarrow, ?_⟩
    simp only [List.length_append, blanks, List.length_replicate]
    omega

theorem widest_of_narrow {text : List Char} (h : IsNarrow text) : widest text = text.length := by
  rw [widest, Text.splitOn_of_not_mem (h.not_mem (by decide)), List.map_singleton, cells_of_narrow h]
  exact Nat.zero_max _

/-- A cell that fits in its column is whole on its line. -/
theorem exists_line_of_narrow (terminal : Terminal) {c : Column} {cell : List Char} (hnarrow : IsNarrow cell)
    (hfits : cell.length ≤ c.width) (hend : c.alignment = .left ∨ Text.trimEnd cell = cell) :
    ∃ line ∈ c.lines terminal cell, cell <:+: line := by
  have hwidest := widest_of_narrow hnarrow
  obtain ⟨hinner, hnarrow', hfits'⟩ := aligned_of_narrow hnarrow hfits hend
  refine ⟨_, ?_, hinner.trans (aligned_of_narrow hnarrow' hfits' (.inl rfl)).1⟩
  rw [Column.lines, if_pos (by omega), wrap_of_narrow hnarrow hfits]
  exact List.mem_singleton.mpr rfl

end Console
end Phrasebook
