import Phrasebook.Proofs.Assemblies
import Phrasebook.Proofs.Replacements

/-!
# Trimming before and after references are replaced

A text is trimmed as it is written, to find the bytes that are replaced, and it is trimmed again once its references are
replaced, to find what its record says. A reference never reaches into the blanks at the ends of a text, although its
name may run on into them; so the record says what the replaced bytes alone show, without the blanks that these show at
their ends.

Results:
1. `map_trim_shownText`: trimming first makes no difference to what is shown, once that is trimmed.
2. `isCore_trimmedSpan`: the bytes that are replaced are those of the trimmed text; they decide what the record says.
-/

namespace Phrasebook.Rewrite

open Source
open Text.Utf8 (encode encode_append)

/-! ## 1. What is shown -/

theorem trim_ne_nil_iff {cs : List Char} : Text.trim cs ≠ [] ↔ ∃ c ∈ cs, Text.isBlank c = false := by
  rw [ne_eq, Text.trim_eq_nil_iff]
  simp only [not_forall, exists_prop, Bool.not_eq_true]

/-- Trimmed before its references are replaced and after that, a text shows the same as trimmed only then; and if a
number in it is too long to be read, so it is without the blanks. -/
theorem map_trim_shownText (raw : List Char) :
    (shownText raw).map Text.trim = (shownText (Text.trim raw)).map Text.trim := by
  by_cases hne : Text.trim raw = []
  · have hblanks := Text.trim_eq_nil_iff.mp hne
    rw [hne, shownText, CharRef.decode_blanks hblanks, Option.map_some, hne]
    rfl
  · rw [shownText_eq hne, Option.map_map]
    refine congrArg (Option.map · _) (funext fun core => ?_)
    exact Text.trim_append (Text.forall_leading raw) (Text.forall_trailing raw) core

/-! ## 2. What is replaced -/

/-- The bytes of a source in a span. -/
def bytesIn (source : List Char) (span : Span) : List UInt8 :=
  ((encode source).drop span.start).take (span.stop - span.start)

/-- A span of a source that holds the characters of a run between the blanks at the ends of the run. -/
structure IsCore (source raw : List Char) (run span : Span) : Prop where
  nonempty : span.start < span.stop
  inside : run.start ≤ span.start ∧ span.stop ≤ run.stop
  boundaries : Splice.IsBoundary source span.start ∧ Splice.IsBoundary source span.stop
  bytes : bytesIn source span = encode (Text.trim raw)
  blanks_before : ∃ blanks, bytesIn source ⟨run.start, span.start⟩ = encode blanks ∧ ∀ c ∈ blanks, Text.isBlank c = true
  blanks_after : ∃ blanks, bytesIn source ⟨span.stop, run.stop⟩ = encode blanks ∧ ∀ c ∈ blanks, Text.isBlank c = true

theorem bytesIn_append (before raw after : List Char) :
    bytesIn (before ++ raw ++ after) ⟨width before, width before + width raw⟩ = encode raw := by
  rw [bytesIn, Nat.add_sub_cancel_left, List.append_assoc, encode_append, encode_append, width_eq, width_eq,
    List.drop_left, List.take_left]

theorem isBoundary_width (front back : List Char) : Splice.IsBoundary (front ++ back) (width front) :=
  Splice.isBoundary_iff.mpr ⟨front, back, rfl, (width_eq front).symm⟩

/-- The span of the trimmed characters of a run. -/
theorem trimmedSpan_eq {raw : List Char} (hne : Text.trim raw ≠ []) (place : Nat) :
    trimmedSpan raw ⟨place, place + width raw⟩ =
      ⟨place + width (Text.leading raw), place + width (Text.leading raw) + width (Text.trim raw)⟩ := by
  have hwidth := congrArg width (Text.leading_append_trim_append_trailing hne)
  rw [width_append, width_append] at hwidth
  rw [trimmedSpan, Span.mk.injEq]
  dsimp only
  omega

/-- Of a run that is more than blanks the bytes between its blanks are replaced. -/
theorem isCore_of_trim_ne (before after : List Char) {raw : List Char} (hne : Text.trim raw ≠ []) :
    IsCore (before ++ raw ++ after) raw ⟨width before, width before + width raw⟩
      (trimmedSpan raw ⟨width before, width before + width raw⟩) := by
  have hparts := Text.leading_append_trim_append_trailing hne
  have hwidth := congrArg width hparts
  rw [width_append, width_append] at hwidth
  have hsource : before ++ raw ++ after =
      before ++ Text.leading raw ++ Text.trim raw ++ (Text.trailing raw ++ after) := by
    conv => lhs; rw [← hparts]
    simp only [List.append_assoc]
  have hbefore := bytesIn_append before (Text.leading raw) (Text.trim raw ++ (Text.trailing raw ++ after))
  have hcore := bytesIn_append (before ++ Text.leading raw) (Text.trim raw) (Text.trailing raw ++ after)
  have hafter := bytesIn_append (before ++ Text.leading raw ++ Text.trim raw) (Text.trailing raw) after
  have hstart := isBoundary_width (before ++ Text.leading raw) (Text.trim raw ++ (Text.trailing raw ++ after))
  have hstop := isBoundary_width (before ++ Text.leading raw ++ Text.trim raw) (Text.trailing raw ++ after)
  rw [← List.append_assoc, ← hsource] at hbefore hstart
  rw [← hsource, width_append] at hcore
  rw [List.append_assoc, ← hsource, width_append, width_append] at hafter
  rw [width_append] at hstart
  rw [← hsource, width_append, width_append] at hstop
  have hpos := width_pos hne
  rw [trimmedSpan_eq hne]
  exact {
    nonempty := Nat.lt_add_of_pos_right hpos
    inside := by
      dsimp only
      omega
    boundaries := ⟨hstart, hstop⟩
    bytes := hcore
    blanks_before := ⟨Text.leading raw, hbefore, Text.forall_leading raw⟩
    blanks_after := by
      refine ⟨Text.trailing raw, ?_, Text.forall_trailing raw⟩
      rw [← hwidth, ← Nat.add_assoc, ← Nat.add_assoc]
      exact hafter }

/-- A run that is more than blanks and that can be read is replaced between its blanks, and what it shows without blanks
at its ends is what the replaced characters show without them; so does every run that is trimmed to these. -/
theorem isCore_trimmedSpan (before after : List Char) {raw shown : List Char} (hraw : ∃ c ∈ raw, Text.isBlank c = false)
    (hshown : shownText raw = some shown) :
    IsCore (before ++ raw ++ after) raw ⟨width before, width before + width raw⟩
        (trimmedSpan raw ⟨width before, width before + width raw⟩) ∧
      (∃ core, shownText (Text.trim raw) = some core ∧ Text.trim core = Text.trim shown) ∧
        ∀ other, Text.trim other = Text.trim raw → (shownText other).map Text.trim = some (Text.trim shown) := by
  have hcore : (shownText (Text.trim raw)).map Text.trim = some (Text.trim shown) := by
    rw [← map_trim_shownText, hshown, Option.map_some]
  refine ⟨isCore_of_trim_ne before after (trim_ne_nil_iff.mpr hraw), Option.map_eq_some_iff.mp hcore, ?_⟩
  intro other hother
  rw [map_trim_shownText, hother, hcore]

namespace Sample

/-- A text with a name that has no semicolon and that runs on, past letters of its own, into a blank. -/
def copyright : List Char := "\u3000&copyright\u00a0\n".toList

end Sample

open Sample in
theorem isCore_trimmedSpan_copyright : shownText copyright = some "\u3000\u00a9right\u00a0\n".toList ∧
    IsCore ("<p>".toList ++ copyright ++ "</p>".toList) copyright ⟨3, 19⟩ ⟨6, 16⟩ ∧
      ∃ core, shownText "&copyright".toList = some core ∧ Text.trim core = "\u00a9right".toList := by
  have hshown : shownText copyright = some "\u3000\u00a9right\u00a0\n".toList := by decide +kernel
  obtain ⟨hcore, hvalue, -⟩ :=
    isCore_trimmedSpan "<p>".toList "</p>".toList ⟨'c', by decide, by decide⟩ hshown
  exact ⟨hshown, hcore, hvalue⟩

end Phrasebook.Rewrite
