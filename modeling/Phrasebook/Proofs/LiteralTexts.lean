import Phrasebook.Proofs.CharRefs
import Phrasebook.Proofs.Outlines
import Phrasebook.Proofs.Rules

/-!
# Texts between tags

The texts of a source are put together from plain stretches and from references that a semicolon closes. So none has a
brace in it, and all can be decoded: no reference is long enough for a number that is not read.

Results:
1. `isLiteralText_of_mem_placedTexts`: what the texts of a source are put together from.
2. `exists_shownText`: every text of a source shows something.
-/

namespace Phrasebook.CharRef

open Source.Lexeme (IsLiteralText referenceNameLimit)

theorem length_takeWhile_le {p : Char → Bool} {stop : Char} (hstop : p stop = false) (run rest : List Char) :
    ((run ++ stop :: rest).takeWhile p).length ≤ run.length := by
  induction run with
  | nil => simp [hstop]
  | cons c run ih =>
    rw [List.cons_append, List.takeWhile_cons]
    split
    · exact Nat.succ_le_succ ih
    · exact Nat.zero_le _

/-- A number that a semicolon closes soon enough is read. -/
theorem reference_ne_endless {run rest : List Char} (h : run.length ≤ referenceNameLimit) :
    reference (run ++ ';' :: rest) ≠ .endless := by
  intro hendless
  by_cases hhash : (run ++ ';' :: rest).head? = some '#'
  · cases run with
    | nil => exact absurd hhash (by simp)
    | cons c run =>
      rw [List.cons_append, List.head?_cons, Option.some.injEq] at hhash
      rw [List.cons_append, hhash, reference_number] at hendless
      split at hendless
      · split at hendless
        · rename_i hlong
          have hshort : ((run ++ ';' :: rest).takeWhile Char.isDigit).length ≤ run.length :=
            length_takeWhile_le (by decide) run rest
          rw [List.length_cons] at h
          simp only [maxDigits, referenceNameLimit] at hlong h
          omega
        · exact absurd hendless (by simp)
      · split at hendless
        · split at hendless <;> exact absurd hendless (by simp)
        · exact absurd hendless (by simp)
  · rw [reference_of_ne hhash] at hendless
    split at hendless <;> exact absurd hendless (by simp)

theorem exists_decodeFrom {cs : List Char} (h : IsLiteralText cs) (n : Nat) : ∃ shown, decodeFrom n cs = some shown := by
  induction cs generalizing n with
  | nil => exact ⟨[], by cases n <;> rfl⟩
  | cons c cs ih =>
    obtain ⟨-, hampersand, hcs⟩ := h
    cases n with
    | succ n => exact ih hcs n
    | zero =>
      rw [decodeFrom]
      split
      · rename_i hc
        obtain ⟨run, rest, rfl, hlength⟩ := hampersand (beq_iff_eq.mp hc)
        split
        · obtain ⟨shown, hshown⟩ := ih hcs 0
          exact ⟨_, Option.map_eq_some_iff.mpr ⟨shown, hshown, rfl⟩⟩
        · rename_i hendless
          exact absurd hendless (reference_ne_endless hlength)
        · rename_i length _ _
          obtain ⟨shown, hshown⟩ := ih hcs length
          exact ⟨_, Option.map_eq_some_iff.mpr ⟨shown, hshown, rfl⟩⟩
      · obtain ⟨shown, hshown⟩ := ih hcs 0
        exact ⟨_, Option.map_eq_some_iff.mpr ⟨shown, hshown, rfl⟩⟩

end Phrasebook.CharRef

namespace Phrasebook.Source

/-! ## 1. What texts are put together from -/

abbrev AreLiteral (ms : List Markup) : Prop := Markup.Each Lexeme.IsLiteralText ms

namespace Outline

open Markup Lexeme

theorem isLiteralText_extend {run : OpenRun} (hrun : IsLiteralText run.raw) {before text : List Char}
    (h : IsLiteralText (before ++ text)) (place : Nat) : IsLiteralText (run.extend place before text).raw := by
  cases run with
  | none => exact h.of_append
  | some run =>
    simp only [OpenRun.raw, OpenRun.extend, Option.map_some, Option.getD_some, List.append_assoc] at hrun ⊢
    exact hrun.append h

theorem isLiteralText_none : IsLiteralText (OpenRun.raw none) := trivial

theorem areLiteral_close {run : OpenRun} (h : IsLiteralText run.raw) : AreLiteral run.close :=
  each_close fun raw hraw => by rwa [OpenRun.raw, hraw] at h

mutual
theorem areLiteral_elementsOf (place : Nat) {t : Tree} (h : t.IsWellRead) : AreLiteral (elementsOf place t) := by
  rw [elementsOf.eq_def]
  split
  · exact each_nil
  · exact each_element (areLiteral_attributesOf place h.2)
  · obtain ⟨-, hfront, hrest⟩ := h
    exact each_element
      (each_append.mpr ⟨areLiteral_attributesOf place hfront.2, areLiteral_contentsOf _ isLiteralText_none hrest⟩)
  · exact areLiteral_elementsOfAll place h.2
theorem areLiteral_elementsOfAll (place : Nat) {ts : List Tree} (h : Tree.AreWellRead ts) :
    AreLiteral (elementsOfAll place ts) := by
  match ts with
  | [] => exact each_nil
  | t :: ts =>
    rw [elementsOfAll]
    exact each_append.mpr ⟨areLiteral_elementsOf place h.1, areLiteral_elementsOfAll _ h.2⟩
theorem areLiteral_attributesOf (place : Nat) {ts : List Tree} (h : Tree.AreWellRead ts) :
    AreLiteral (attributesOf place ts) := by
  match ts with
  | [] => exact each_nil
  | t :: ts =>
    rcases attributesOf_cons_cases place t ts with heq | ⟨-, -, heq⟩
    · rw [heq]
      exact each_append.mpr ⟨each_embedOf (areLiteral_elementsOf place h.1), areLiteral_attributesOf _ h.2⟩
    · rw [heq]
      exact areLiteral_attributesOf _ h.2
theorem areLiteral_contentsOf (place : Nat) {run : OpenRun} (hrun : IsLiteralText run.raw) {ts : List Tree}
    (h : Tree.AreWellRead ts) : AreLiteral (contentsOf place run ts) := by
  rw [contentsOf.eq_def]
  split
  · exact areLiteral_close hrun
  · obtain ⟨⟨-, htext⟩, hts⟩ := h
    exact areLiteral_contentsOf _ (isLiteralText_extend hrun htext place) hts
  · obtain ⟨⟨-, htext⟩, hts⟩ := h
    exact areLiteral_contentsOf _ (isLiteralText_extend hrun htext place) hts
  · obtain ⟨⟨-, hcs⟩, hts⟩ := h
    exact each_append.mpr
      ⟨each_append.mpr ⟨areLiteral_close hrun, each_embedOf (areLiteral_elementsOfAll place hcs)⟩,
        areLiteral_contentsOf _ isLiteralText_none hts⟩
  · exact areLiteral_close hrun
  · exact each_append.mpr
      ⟨each_append.mpr ⟨areLiteral_close hrun, areLiteral_elementsOf place h.1⟩,
        areLiteral_contentsOf _ isLiteralText_none h.2⟩
end

end Outline

section Documents

variable {dialect : Dialect} {source : List Char} {d : Document}

theorem isLiteralText_of_mem_placedTexts (h : Document.ofChars? dialect source = some d) :
    ∀ t ∈ placedTexts (Outline.ofDocument d).landmarks, Lexeme.IsLiteralText t.raw := by
  intro t ht
  have hrun := List.mem_map_of_mem (f := PlacedText.run) ht
  rw [map_run_placedTexts] at hrun
  exact Outline.areLiteral_elementsOfAll 0 (Tree.areWellRead_iff.mpr (isWellRead_of_ofChars? h)) _
    (Outline.mem_runsOf_landmarksOfAll hrun)

/-- Every text of a source can be decoded. -/
theorem exists_shownText (h : Document.ofChars? dialect source = some d) :
    ∀ t ∈ placedTexts (Outline.ofDocument d).landmarks, ∃ shown, shownText t.raw = some shown :=
  fun t ht => CharRef.exists_decodeFrom (isLiteralText_of_mem_placedTexts h t ht) 0

end Documents

end Phrasebook.Source
