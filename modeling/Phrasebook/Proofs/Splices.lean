import Mathlib.Data.List.Nodup
import Phrasebook.Proofs.Utf8
import Phrasebook.Splice

/-!
# Splicing is assembly from left to right

A source that is cut between characters into what stays and what is replaced determines its edits: their ranges follow
from the sizes of the parts. Applied from the back to the front, whatever the order in which they are given, they leave
the parts that stay with the replacements between them.

Results:
1. `pairwise_editsFrom`: of the edits of a cut source each ends before the next one starts.
2. `foldl_apply_editsFrom`: what is left after the edits of a cut source, applied from the last to the first.
3. `apply_of_perm`: splicing gives this for the edits in any order, if no two have the same range.
-/

namespace Phrasebook.Splice

open Text.Utf8 (encode encode_append)

/-! ## 1. Cut sources -/

/-- A part that stays, the part after it, and what takes the place of the latter. -/
structure Patch where
  gap : List Char
  core : List Char
  replacement : List Char

def original (patches : List Patch) : List Char := patches.flatMap fun p => p.gap ++ p.core

def patched (patches : List Patch) : List Char := patches.flatMap fun p => p.gap ++ p.replacement

theorem original_cons (p : Patch) (ps : List Patch) : original (p :: ps) = p.gap ++ p.core ++ original ps :=
  List.flatMap_cons

theorem patched_cons (p : Patch) (ps : List Patch) : patched (p :: ps) = p.gap ++ p.replacement ++ patched ps :=
  List.flatMap_cons

def size (cs : List Char) : Nat := (encode cs).length

/-- The edits of patches that start at a place. -/
def editsFrom (place : Nat) : List Patch → List Edit
  | [] => []
  | p :: ps =>
    ⟨place + size p.gap, place + size p.gap + size p.core, p.replacement⟩ ::
      editsFrom (place + size p.gap + size p.core) ps

def Edit.range (e : Edit) : Nat × Nat := (e.start, e.stop)

theorem isBehind_iff (a b : Edit) :
    a.isBehind b = true ↔ b.start < a.start ∨ a.start = b.start ∧ b.stop ≤ a.stop := by
  simp only [Edit.isBehind, Bool.or_eq_true, Bool.and_eq_true, decide_eq_true_eq, beq_iff_eq]

theorem size_append (cs ds : List Char) : size (cs ++ ds) = size cs + size ds := by
  rw [size, encode_append, List.length_append]
  rfl

theorem size_nil : size [] = 0 := rfl

theorem size_pos {cs : List Char} (h : cs ≠ []) : 0 < size cs := by
  obtain ⟨c, cs, rfl⟩ := List.exists_cons_of_ne_nil h
  rw [size, encode, List.flatMap_cons, List.length_append, String.length_utf8EncodeChar]
  exact Nat.add_pos_left c.utf8Size_pos _

theorem le_of_mem_editsFrom {place : Nat} {ps : List Patch} {e : Edit} (h : e ∈ editsFrom place ps) :
    place ≤ e.start ∧ e.start ≤ e.stop := by
  induction ps generalizing place with
  | nil => exact absurd h List.not_mem_nil
  | cons p ps ih =>
    rcases List.mem_cons.mp h with rfl | h
    · exact ⟨Nat.le_add_right _ _, Nat.le_add_right _ _⟩
    · obtain ⟨hplace, hstop⟩ := ih h
      exact ⟨by omega, hstop⟩

theorem lt_of_mem_editsFrom {place : Nat} {ps : List Patch} (hne : ∀ p ∈ ps, p.core ≠ []) {e : Edit}
    (h : e ∈ editsFrom place ps) : e.start < e.stop := by
  induction ps generalizing place with
  | nil => exact absurd h List.not_mem_nil
  | cons p ps ih =>
    obtain ⟨hp, hps⟩ := List.forall_mem_cons.mp hne
    rcases List.mem_cons.mp h with rfl | h
    · exact Nat.lt_add_of_pos_right (size_pos hp)
    · exact ih hps h

/-- Each edit ends before the next one starts. -/
theorem pairwise_editsFrom (place : Nat) (ps : List Patch) :
    (editsFrom place ps).Pairwise fun a b => a.stop ≤ b.start := by
  induction ps generalizing place with
  | nil => exact .nil
  | cons p ps ih => exact .cons (fun e he => (le_of_mem_editsFrom he).1) (ih _)

theorem pairwise_isBehind_editsFrom (place : Nat) (ps : List Patch) :
    (editsFrom place ps).Pairwise fun a b => b.isBehind a = true := by
  refine (pairwise_editsFrom place ps).imp_of_mem fun {a b} ha hb hle => ?_
  obtain ⟨-, ha⟩ := le_of_mem_editsFrom ha
  obtain ⟨-, hb⟩ := le_of_mem_editsFrom hb
  rw [isBehind_iff]
  omega

theorem map_replacement_editsFrom (place : Nat) (ps : List Patch) :
    (editsFrom place ps).map Edit.replacement = ps.map Patch.replacement := by
  induction ps generalizing place with
  | nil => rfl
  | cons p ps ih => rw [editsFrom, List.map_cons, List.map_cons, ih]

/-- If only the first of the patches may replace nothing, their edits have different ranges. -/
theorem nodup_range_editsFrom (place : Nat) {ps : List Patch} (h : ∀ p ∈ ps.tail, p.core ≠ []) :
    ((editsFrom place ps).map Edit.range).Nodup := by
  have hstop : (editsFrom place ps).Pairwise fun a b => a.stop < b.stop := by
    cases ps with
    | nil => exact .nil
    | cons p ps =>
      refine .cons (fun e he => ?_) ((pairwise_editsFrom _ ps).imp_of_mem fun _ he hle => ?_)
      · exact Nat.lt_of_le_of_lt (le_of_mem_editsFrom he).1 (lt_of_mem_editsFrom h he)
      · exact Nat.lt_of_le_of_lt hle (lt_of_mem_editsFrom h he)
  refine List.pairwise_map.mpr (hstop.imp fun {a b} hlt heq => ?_)
  exact Nat.ne_of_lt hlt (Prod.mk.inj heq).2

/-! ## 2. From the back to the front -/

/-- One edit of whole characters puts its replacement in their place. -/
theorem edit_apply_encode (front core back replacement : List Char) :
    Edit.apply (encode (front ++ core ++ back)) ⟨size front, size front + size core, replacement⟩ =
      encode (front ++ replacement ++ back) := by
  have htake : (encode (front ++ core ++ back)).take (size front) = encode front := by
    rw [List.append_assoc, encode_append, size, List.take_left]
  have hdrop : (encode (front ++ core ++ back)).drop (size front + size core) = encode back := by
    rw [← size_append, encode_append, size, List.drop_left]
  rw [Edit.apply]
  dsimp only
  rw [Nat.max_eq_right (Nat.le_add_right _ _), htake, hdrop, ← encode_append, ← encode_append]

/-- The edits of patches, the last one first, leave what stays with the replacements in it. -/
theorem foldl_apply_editsFrom (front tail : List Char) (ps : List Patch) :
    (editsFrom (size front) ps).reverse.foldl Edit.apply (encode (front ++ original ps ++ tail)) =
      encode (front ++ patched ps ++ tail) := by
  induction ps generalizing front with
  | nil => rfl
  | cons p ps ih =>
    have hbehind := ih (front ++ p.gap ++ p.core)
    rw [size_append, size_append] at hbehind
    have horiginal : front ++ original (p :: ps) ++ tail = front ++ p.gap ++ p.core ++ original ps ++ tail := by
      rw [original_cons]
      simp only [List.append_assoc]
    have hpatched : front ++ patched (p :: ps) ++ tail = front ++ p.gap ++ p.replacement ++ (patched ps ++ tail) := by
      rw [patched_cons]
      simp only [List.append_assoc]
    rw [editsFrom, List.reverse_cons, List.foldl_append, horiginal, hbehind, hpatched, List.foldl_cons, List.foldl_nil,
      ← size_append, List.append_assoc (front ++ p.gap ++ p.core), edit_apply_encode]

/-! ## 3. Any order -/

theorem isBehind_trans (a b c : Edit) (hab : a.isBehind b = true) (hbc : b.isBehind c = true) :
    a.isBehind c = true := by
  rw [isBehind_iff] at *
  omega

theorem isBehind_total (a b : Edit) : (a.isBehind b || b.isBehind a) = true := by
  rw [Bool.or_eq_true, isBehind_iff, isBehind_iff]
  omega

/-- No edit is applied before one that is behind it. -/
theorem pairwise_isBehind_ordered (edits : List Edit) : (ordered edits).Pairwise fun a b => a.isBehind b = true :=
  List.pairwise_mergeSort isBehind_trans isBehind_total edits

/-- Edits of different ranges are applied in one order only. -/
theorem ordered_of_perm {edits sorted : List Edit} (hperm : edits.Perm sorted)
    (hsorted : sorted.Pairwise fun a b => b.isBehind a = true) (hranges : (sorted.map Edit.range).Nodup) :
    ordered edits = sorted.reverse := by
  refine List.Perm.eq_of_pairwise ?_ (pairwise_isBehind_ordered edits) (List.pairwise_reverse.mpr hsorted)
    ((List.mergeSort_perm edits _).trans (hperm.trans (List.reverse_perm sorted).symm))
  intro a b ha hb hab hba
  have hmem : ∀ e ∈ edits.mergeSort Edit.isBehind, e ∈ sorted := fun e he => hperm.mem_iff.mp (List.mem_mergeSort.mp he)
  refine List.inj_on_of_nodup_map hranges (hmem a ha) (List.mem_reverse.mp hb) ?_
  rw [isBehind_iff] at hab hba
  rw [Edit.range, Edit.range, Prod.mk.injEq]
  omega

/-- Splicing a cut source with the edits of its patches, in any order, if no two of them have the same range. -/
theorem apply_of_nodup {front : List Char} {edits : List Edit} {ps : List Patch}
    (hperm : edits.Perm (editsFrom (size front) ps)) (h : ((editsFrom (size front) ps).map Edit.range).Nodup)
    (tail : List Char) : apply (front ++ original ps ++ tail) edits = .ok (front ++ patched ps ++ tail) := by
  rw [apply, applyBytes, ordered_of_perm hperm (pairwise_isBehind_editsFrom _ ps) h, foldl_apply_editsFrom,
    Text.Utf8.decode_encode]

/-- Splicing a cut source with the edits of its patches, in any order. -/
theorem apply_of_perm {front : List Char} {edits : List Edit} {ps : List Patch}
    (hperm : edits.Perm (editsFrom (size front) ps)) (h : ∀ p ∈ ps.tail, p.core ≠ []) (tail : List Char) :
    apply (front ++ original ps ++ tail) edits = .ok (front ++ patched ps ++ tail) :=
  apply_of_nodup hperm (nodup_range_editsFrom _ h) tail

end Phrasebook.Splice
