import Phrasebook.Proofs.Splices

/-!
# Edits that are apart

Edits that are given in any order have one order from the left to the right, if no two of them overlap and no two have
the same range. An edit of an empty range may touch others: it comes after one that ends at its place and before one
that starts there. Splicing leaves the gaps between the ranges with the replacements between them in this order, and
never cuts a character.

Results:
1. `pairwise_ascending`: from the left to the right each edit ends before the next one starts.
2. `exists_patches_of_pairwise`: such edits cut the source.
3. `apply_of_areApart`: splicing is assembly from the left to the right, in whatever order the edits are given.
-/

namespace Phrasebook.Splice

open Text.Utf8 (encode encode_append)

/-! ## 1. From the left to the right -/

/-- A place between two characters of a source, or at one of its ends. -/
def IsBoundary (source : List Char) (place : Nat) : Prop := ∃ n ≤ source.length, size (source.take n) = place

instance (source : List Char) (place : Nat) : Decidable (IsBoundary source place) :=
  inferInstanceAs (Decidable (∃ n ≤ source.length, size (source.take n) = place))

/-- Edits of whole characters of a source of which no two overlap and no two have the same range. One of an empty range
may stand where others start or end, but not within them. -/
structure AreApart (source : List Char) (edits : List Edit) : Prop where
  forward : ∀ e ∈ edits, e.start ≤ e.stop
  starts : ∀ e ∈ edits, IsBoundary source e.start
  stops : ∀ e ∈ edits, IsBoundary source e.stop
  apart : edits.Pairwise fun a b => a.stop ≤ b.start ∨ b.stop ≤ a.start
  distinct : (edits.map Edit.range).Nodup

def ascending (edits : List Edit) : List Edit := (ordered edits).reverse

theorem ascending_perm (edits : List Edit) : (ascending edits).Perm edits :=
  (List.reverse_perm _).trans (List.mergeSort_perm edits _)

variable {source : List Char} {edits : List Edit}

/-- Of edits that are apart each ends before the next one starts. -/
theorem pairwise_ascending (h : AreApart source edits) : (ascending edits).Pairwise fun a b => a.stop ≤ b.start := by
  have hperm := ascending_perm edits
  have hapart : (ascending edits).Pairwise fun a b => a.stop ≤ b.start ∨ b.stop ≤ a.start :=
    hperm.symm.pairwise h.apart fun hab => hab.symm
  have hbehind : (ascending edits).Pairwise fun a b => b.isBehind a = true :=
    List.pairwise_reverse.mpr (pairwise_isBehind_ordered edits)
  refine (hapart.and hbehind).imp_of_mem fun {a b} ha hb hab => ?_
  have hforward := h.forward b (hperm.mem_iff.mp hb)
  rw [isBehind_iff] at hab
  omega

/-! ## 2. The source between them -/

theorem isBoundary_iff {place : Nat} :
    IsBoundary source place ↔ ∃ front back, source = front ++ back ∧ size front = place := by
  constructor
  · rintro ⟨n, -, hsize⟩
    exact ⟨source.take n, source.drop n, (List.take_append_drop n source).symm, hsize⟩
  · rintro ⟨front, back, rfl, hsize⟩
    refine ⟨front.length, by rw [List.length_append]; exact Nat.le_add_right _ _, ?_⟩
    rwa [List.take_left]

/-- A place that is not before some characters is within or after the rest. -/
theorem IsBoundary.split {front back : List Char} {place : Nat} (h : IsBoundary (front ++ back) place)
    (hle : size front ≤ place) : ∃ gap rest, back = gap ++ rest ∧ size front + size gap = place := by
  obtain ⟨front', back', hsource, hsize⟩ := isBoundary_iff.mp h
  rcases List.append_eq_append_iff.mp hsource with ⟨gap, rfl, hback⟩ | ⟨gap, rfl, hback⟩
  · exact ⟨gap, back', hback, by rw [← size_append, hsize]⟩
  · -- what is between the two has no bytes
    rw [size_append] at hle
    have hgap : gap = [] := by
      by_contra hne
      have := size_pos hne
      omega
    refine ⟨[], back, rfl, ?_⟩
    rw [hgap, List.append_nil, size_nil, Nat.add_zero, hsize]

/-- Edits of whole characters of which each ends before the next one starts cut the source into patches. -/
theorem exists_patches_of_pairwise (front back : List Char)
    (hforward : ∀ e ∈ edits, size front ≤ e.start ∧ e.start ≤ e.stop)
    (hplaces : ∀ e ∈ edits, IsBoundary (front ++ back) e.start ∧ IsBoundary (front ++ back) e.stop)
    (hpairwise : edits.Pairwise fun a b => a.stop ≤ b.start) :
    ∃ patches tail, back = original patches ++ tail ∧ editsFrom (size front) patches = edits := by
  induction edits generalizing front back with
  | nil => exact ⟨[], back, rfl, rfl⟩
  | cons e es ih =>
    obtain ⟨⟨hfront, hstop⟩, hforward⟩ := List.forall_mem_cons.mp hforward
    obtain ⟨⟨hstartPlace, hstopPlace⟩, hplaces⟩ := List.forall_mem_cons.mp hplaces
    obtain ⟨hlater, hpairwise⟩ := List.pairwise_cons.mp hpairwise
    obtain ⟨gap, rest, rfl, hgap⟩ := hstartPlace.split hfront
    rw [← List.append_assoc] at hstopPlace hplaces
    obtain ⟨core, rest, rfl, hcore⟩ := hstopPlace.split (by rw [size_append, hgap]; exact hstop)
    rw [← List.append_assoc] at hplaces
    rw [size_append, hgap] at hcore
    have hsize : size (front ++ gap ++ core) = e.stop := by rw [size_append, size_append, hgap, hcore]
    obtain ⟨patches, tail, rfl, hedits⟩ :=
      ih (front ++ gap ++ core) rest (fun e' he' => ⟨hsize ▸ hlater e' he', (hforward e' he').2⟩) hplaces hpairwise
    refine ⟨⟨gap, core, e.replacement⟩ :: patches, tail, ?_, ?_⟩
    · rw [original_cons]
      simp only [List.append_assoc]
    · rw [size_append, size_append, hgap, hcore] at hedits
      rw [editsFrom, hgap, hcore, hedits]

/-! ## 3. Assembly -/

/-- Bytes from a place on with the ranges of edits replaced, one after the other. -/
def assembled (bytes : List UInt8) (place : Nat) : List Edit → List UInt8
  | [] => bytes.drop place
  | e :: es => (bytes.drop place).take (e.start - place) ++ encode e.replacement ++ assembled bytes e.stop es

/-- What is assembled is a source with the gaps between edits as they are and the replacements between them: from the
left to the right each edit ends before the next one starts. -/
def IsAssembly (source : List Char) (edits : List Edit) (spliced : List Char) : Prop :=
  ∃ sorted : List Edit, sorted.Perm edits ∧ (sorted.Pairwise fun a b => a.stop ≤ b.start) ∧
    encode spliced = assembled (encode source) 0 sorted

theorem assembled_editsFrom (front tail : List Char) (ps : List Patch) :
    assembled (encode (front ++ original ps ++ tail)) (size front) (editsFrom (size front) ps) =
      encode (patched ps ++ tail) := by
  induction ps generalizing front with
  | nil =>
    rw [editsFrom, assembled, List.append_assoc, encode_append, size, List.drop_left]
    rfl
  | cons p ps ih =>
    have hrest := ih (front ++ p.gap ++ p.core)
    have hsource : front ++ original (p :: ps) ++ tail = front ++ (p.gap ++ (p.core ++ original ps ++ tail)) := by
      rw [original_cons]
      simp only [List.append_assoc]
    have hgap :
        ((encode (front ++ original (p :: ps) ++ tail)).drop (size front)).take (size p.gap) = encode p.gap := by
      rw [hsource, encode_append, encode_append, size, size, List.drop_left, List.take_left]
    have hnext : front ++ original (p :: ps) ++ tail = front ++ p.gap ++ p.core ++ original ps ++ tail := by
      rw [hsource]
      simp only [List.append_assoc]
    rw [size_append, size_append, ← hnext] at hrest
    rw [editsFrom, assembled]
    dsimp only
    rw [Nat.add_sub_cancel_left, hgap, hrest, patched_cons, encode_append, encode_append, encode_append, encode_append]
    simp only [List.append_assoc]

/-- Splicing never cuts a character: it leaves what is assembled from the left to the right, and the same for the edits
in every order. -/
theorem apply_of_areApart (h : AreApart source edits) :
    ∃ spliced, IsAssembly source edits spliced ∧
      ∀ given : List Edit, given.Perm edits → apply source given = .ok spliced := by
  have hperm := ascending_perm edits
  have hpairwise := pairwise_ascending h
  obtain ⟨patches, tail, hsource, hedits⟩ : ∃ patches tail, source = original patches ++ tail ∧
      editsFrom (size []) patches = ascending edits := by
    refine exists_patches_of_pairwise [] source (fun e he => ?_) (fun e he => ?_) hpairwise
    · exact ⟨Nat.zero_le _, h.forward e (hperm.mem_iff.mp he)⟩
    · exact ⟨h.starts e (hperm.mem_iff.mp he), h.stops e (hperm.mem_iff.mp he)⟩
  have hranges : ((editsFrom (size []) patches).map Edit.range).Nodup := by
    rw [hedits]
    exact (hperm.map Edit.range).nodup_iff.mpr h.distinct
  refine ⟨patched patches ++ tail, ⟨ascending edits, hperm, hpairwise, ?_⟩, fun given hgiven => ?_⟩
  · rw [← hedits, hsource]
    exact (assembled_editsFrom [] tail patches).symm
  · have hcut : given.Perm (editsFrom (size []) patches) := by
      rw [hedits]
      exact hgiven.trans hperm.symm
    have happly := apply_of_nodup hcut hranges tail
    rw [List.nil_append, List.nil_append] at happly
    rw [hsource]
    exact happly

namespace Sample

/-- A letter of two bytes is replaced, with insertions that touch it at both its ends, and one at the end of all. -/
def touching : List Edit := [⟨2, 4, ['u', 'e']⟩, ⟨7, 7, ['!']⟩, ⟨4, 4, [']']⟩, ⟨2, 2, ['[']⟩]

/-- The source cut by these from the left to the right. -/
def cut : List Patch :=
  [⟨['G', 'r'], [], ['[']⟩, ⟨[], ['\u00fc'], ['u', 'e']⟩, ⟨[], [], [']']⟩, ⟨['\u00df', 'e'], [], ['!']⟩]

end Sample

open Sample in
theorem apply_of_areApart_touching : AreApart "Gr\u00fc\u00dfe".toList touching ∧
    ∀ given : List Edit, given.Perm touching → apply "Gr\u00fc\u00dfe".toList given = .ok "Gr[ue]\u00dfe!".toList := by
  have happly : apply "Gr\u00fc\u00dfe".toList touching = .ok "Gr[ue]\u00dfe!".toList :=
    @apply_of_nodup [] touching cut (by decide +kernel) (by decide +kernel) []
  have hapart : AreApart "Gr\u00fc\u00dfe".toList touching :=
    ⟨by decide, by decide +kernel, by decide +kernel, by decide, by decide⟩
  obtain ⟨spliced, -, hall⟩ := apply_of_areApart hapart
  refine ⟨hapart, fun given hgiven => ?_⟩
  rw [hall given hgiven, ← hall touching (List.Perm.refl _), happly]

end Phrasebook.Splice
