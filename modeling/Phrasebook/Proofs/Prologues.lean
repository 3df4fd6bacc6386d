import Phrasebook.Proofs.Cuts
import Phrasebook.Proofs.Imports

/-!
# What an import is put after

A source may start with the first line of a script and with directives, and comments may stand between them. An import that
is added comes after this prologue. Two things go wrong: a comment that an arrow opens ends the prologue, whatever directives
come after it; and an import is added although one of the other form, which requires a module, binds the name already.

Results:
1. `isPrologue_charsOf`: what comes before an import that is added is a prologue.
2. `endsBy_prologueEnd_iff`: all directives at the start are in it just if none comes after a comment that an arrow opens.
3. `le_of_stands`: no markup starts in it.
4. `frontTexts_of_sourceBecomes` and `endsBy_of_stands`: a rewrite leaves the directives as they are, before every import.
5. `keepsPrologue_iff`: when a rewrite keeps all of this and imports the lookup function once.
-/

namespace Phrasebook.Source

open Lexeme (IsTrivia IsLiteral IsHashbang)
open Phrasebook.Source.Tree (Stands)

/-! ## 1. Statements at the start -/

/-- The first line of a script as written, with blanks and comments before it. -/
def IsScriptLine (cs : List Char) : Prop := ∃ before line, cs = before ++ line ∧ IsTrivia before line ∧ IsHashbang line

/-- A directive as written: a string literal with or without a semicolon, and blanks and comments before both. -/
def IsDirectiveText (cs : List Char) : Prop :=
  ∃ before literal between stop, cs = before ++ literal ++ (between ++ stop) ∧ IsTrivia before literal ∧
    IsLiteral literal ∧ IsTrivia between stop ∧ (stop = [] ∨ stop = [';'])

/-- A prologue as written: the first line of a script, or none, and directives. -/
def IsPrologue (cs : List Char) : Prop :=
  ∃ (line : List Char) (directives : List (List Char)), cs = line ++ directives.flatten ∧ (line = [] ∨ IsScriptLine line) ∧
    ∀ directive ∈ directives, IsDirectiveText directive

theorem Lexeme.ne_nil_of_isLiteral {text : List Char} (h : IsLiteral text) : text ≠ [] := by
  obtain ⟨cs, rest, hsplit⟩ := h
  rintro rfl
  rw [string.eq_def] at hsplit
  split at hsplit
  · exact absurd (head?_of_map_ahead hsplit) (by simp)
  · exact absurd (head?_of_map_ahead hsplit) (by simp)
  · cases hsplit

namespace Outline

/-- Whether a tree is a comment that an arrow opens, in the place of a statement. -/
def isArrowComment : Tree → Bool
  | .leaf _ .token _ text => (Lexeme.arrowComment text).isSome
  | _ => false

/-- Whether a tree belongs to the run of hashbang line, comments and directives at the start of a source. -/
def isLeading (t : Tree) : Bool := isFrontal t || isArrowComment t

/-- A hashbang line, or the string of a directive. -/
def frontText (t : Tree) : List Char := ((t.part .value).getD t).text

/-- The hashbang line and the directives in the leading run, in their order. -/
def frontTexts (ts : List Tree) : List (List Char) := ((ts.takeWhile isLeading).filter isFrontal).map frontText

/-- The hashbang line and every directive of the leading run end at a byte, or before it. -/
def EndsBy (ts : List Tree) (bound : Nat) : Prop :=
  ∀ front t rest, ts = front ++ t :: rest → (∀ u ∈ front, isLeading u = true) → isFrontal t = true →
    Tree.sizeOf (front ++ [t]) ≤ bound

/-- No directive comes after a comment that an arrow opens. -/
def IsUnbroken (ts : List Tree) : Prop := ∀ t ∈ (ts.dropWhile isFrontal).takeWhile isLeading, isFrontal t = false

variable {t : Tree} {ts : List Tree}

/-- A hashbang line is a leaf. -/
theorem exists_leaf_of_hashbang (h : t.IsWellRead) (hk : t.kind = .hashbang) :
    ∃ r before line, t = .leaf r .hashbang before line ∧ IsTrivia before line ∧ IsHashbang line := by
  cases t with
  | leaf r k before line =>
    obtain rfl : k = .hashbang := hk
    exact ⟨r, before, line, rfl, h.1, h.2⟩
  | node r k cs =>
    obtain rfl : k = .hashbang := hk
    exact absurd h.1 Bool.false_ne_true

/-- A directive has two leaves. -/
theorem exists_leaves_of_isDirective (h : t.IsWellRead) (hdirective : isDirective t = true) :
    ∃ r before literal between stop,
      t = .node r .expressionStatement [.leaf .value .string before literal, .leaf .plain .token between stop] ∧
        IsTrivia before literal ∧ IsLiteral literal ∧ IsTrivia between stop ∧ (stop = [] ∨ stop = [';']) := by
  cases t with
  | leaf r k before text =>
    rw [isDirective, Bool.and_eq_true] at hdirective
    cases hdirective.2
  | node r k cs =>
    rw [isDirective, Bool.and_eq_true] at hdirective
    obtain rfl : k = .expressionStatement := beq_iff_eq.mp hdirective.1
    obtain ⟨⟨value, last, rfl, hvalue, hplain, hstop⟩, hparts⟩ := h
    obtain ⟨hvalueRead, hlastRead, -⟩ := hparts
    have hpart : (Tree.node r .expressionStatement [value, last]).part .value = some value :=
      Tree.inRole_cons_of_eq hvalue _
    rw [hpart] at hdirective
    have hstring : value.kind = .string := beq_iff_eq.mp hdirective.2
    cases value with
    | node r' k' cs =>
      obtain rfl : k' = .string := hstring
      exact absurd hvalueRead.1 Bool.false_ne_true
    | leaf r' k' before literal =>
      obtain rfl : k' = .string := hstring
      obtain rfl : r' = .value := hvalue
      cases last with
      | node _ _ _ => cases hstop
      | leaf r' k' between stop =>
        obtain rfl : r' = .plain := hplain
        obtain ⟨rfl, hstop⟩ := hstop
        exact ⟨r, before, literal, between, stop, rfl, hvalueRead.1, hvalueRead.2, hlastRead.1, hstop⟩

/-- What may stand before an import is a hashbang line or a directive. -/
theorem isFrontal_iff : isFrontal t = true ↔ t.kind = .hashbang ∨ isDirective t = true := by
  rw [isFrontal, Bool.or_eq_true, beq_iff_eq]

theorem isLeading_of_isFrontal (h : isFrontal t = true) : isLeading t = true := by
  rw [isLeading, h, Bool.true_or]

theorem size_pos_of_isFrontal (h : t.IsWellRead) (hfrontal : isFrontal t = true) : 0 < t.size := by
  rcases isFrontal_iff.mp hfrontal with hk | hdirective
  · obtain ⟨r, before, line, rfl, -, body, rfl, -⟩ := exists_leaf_of_hashbang h hk
    rw [Tree.size, width_cons]
    have hpos := Char.utf8Size_pos '#'
    omega
  · obtain ⟨r, before, literal, between, stop, rfl, -, hliteral, -⟩ := exists_leaves_of_isDirective h hdirective
    obtain ⟨c, cs, rfl⟩ := List.exists_cons_of_ne_nil (Lexeme.ne_nil_of_isLiteral hliteral)
    rw [Tree.size, Tree.sizeOf, Tree.size, width_cons]
    have hpos := c.utf8Size_pos
    omega

/-! ## 2. The prologue as written -/

theorem charsOf_eq_flatten (ts : List Tree) : Tree.charsOf ts = (ts.map Tree.chars).flatten := by
  induction ts with
  | nil => rfl
  | cons t ts ih => rw [Tree.charsOf, ih, List.map_cons, List.flatten_cons]

theorem isDirectiveText_of_isDirective (h : t.IsWellRead) (hdirective : isDirective t = true) : IsDirectiveText t.chars := by
  obtain ⟨r, before, literal, between, stop, rfl, hbefore, hliteral, hbetween, hstop⟩ :=
    exists_leaves_of_isDirective h hdirective
  refine ⟨before, literal, between, stop, ?_, hbefore, hliteral, hbetween, hstop⟩
  rw [Tree.chars, Tree.charsOf, Tree.charsOf, Tree.charsOf, Tree.chars, Tree.chars, List.append_nil]

/-- What may stand before an import, if only the first of it is a hashbang line, is a prologue. -/
theorem isPrologue_charsOf {line rest : List Tree} (hread : ∀ t ∈ line ++ rest, t.IsWellRead) (hlength : line.length ≤ 1)
    (hline : ∀ t ∈ line, t.kind = .hashbang) (hrest : ∀ t ∈ rest, t.kind ≠ .hashbang) :
    IsPrologue (Tree.charsOf ((line ++ rest).takeWhile isFrontal)) := by
  obtain ⟨hreadLine, hreadRest⟩ := List.forall_mem_append.mp hread
  rw [List.takeWhile_append_of_pos fun t ht => isFrontal_iff.mpr (.inl (hline t ht)), Tree.charsOf_append]
  refine ⟨Tree.charsOf line, (rest.takeWhile isFrontal).map Tree.chars, by rw [charsOf_eq_flatten (rest.takeWhile _)], ?_, ?_⟩
  · match line, hlength with
    | [], _ => exact .inl rfl
    | [t], _ =>
      obtain ⟨r, before, text, rfl, htrivia, hhashbang⟩ :=
        exists_leaf_of_hashbang (hreadLine t List.mem_cons_self) (hline t List.mem_cons_self)
      exact .inr ⟨before, text, List.append_nil _, htrivia, hhashbang⟩
  · intro directive hdirective
    obtain ⟨t, ht, rfl⟩ := List.mem_map.mp hdirective
    have hmem : t ∈ rest := (List.takeWhile_sublist _).mem ht
    have hfrontal : isFrontal t = true := List.mem_takeWhile_imp ht
    exact isDirectiveText_of_isDirective (hreadRest t hmem) ((isFrontal_iff.mp hfrontal).resolve_left (hrest t hmem))

/-! ## 3. Where the prologue ends -/

/-- The leading run is the prologue and what comes before the next statement that is neither directive nor comment. -/
theorem takeWhile_isLeading (ts : List Tree) :
    ts.takeWhile isLeading = ts.takeWhile isFrontal ++ (ts.dropWhile isFrontal).takeWhile isLeading := by
  conv => lhs; rw [← @List.takeWhile_append_dropWhile _ isFrontal ts]
  exact List.takeWhile_append_of_pos fun t ht => isLeading_of_isFrontal (List.mem_takeWhile_imp ht)

theorem takeWhile_isLeading_append {front : List Tree} (hfront : ∀ u ∈ front, isLeading u = true)
    (hfrontal : isFrontal t = true) (rest : List Tree) :
    (front ++ t :: rest).takeWhile isLeading = front ++ [t] ++ rest.takeWhile isLeading := by
  rw [List.append_cons]
  refine List.takeWhile_append_of_pos (List.forall_mem_append.mpr ⟨hfront, ?_⟩)
  exact List.forall_mem_singleton.mpr (isLeading_of_isFrontal hfrontal)

theorem endsBy_of_le {bound : Nat} (h : Tree.sizeOf (ts.takeWhile isLeading) ≤ bound) : EndsBy ts bound := by
  rintro front t rest rfl hfront hfrontal
  rw [takeWhile_isLeading_append hfront hfrontal, Tree.sizeOf_append] at h
  omega

/-- A directive after a comment that an arrow opens ends after the prologue. -/
theorem isUnbroken_of_endsBy (hread : ∀ t ∈ ts, t.IsWellRead) (h : EndsBy ts (Tree.sizeOf (ts.takeWhile isFrontal))) :
    IsUnbroken ts := by
  intro t ht
  rw [Bool.eq_false_iff]
  intro hfrontal
  obtain ⟨before, after, hrun⟩ := List.append_of_mem ht
  have hsplit : ts = (ts.takeWhile isFrontal ++ before) ++ t :: (after ++ (ts.dropWhile isFrontal).dropWhile isLeading) := by
    rw [List.append_assoc, ← List.cons_append, ← List.append_assoc before, ← hrun, List.takeWhile_append_dropWhile,
      List.takeWhile_append_dropWhile]
  have hleading : ∀ u ∈ ts.takeWhile isFrontal ++ before, isLeading u = true := fun u hu => by
    have hmem : u ∈ ts.takeWhile isLeading := by
      rw [takeWhile_isLeading, hrun, ← List.append_assoc]
      exact List.mem_append_left _ hu
    exact List.mem_takeWhile_imp hmem
  have hle := h _ t _ hsplit hleading hfrontal
  rw [Tree.sizeOf_append, Tree.sizeOf_append, Tree.sizeOf, Tree.sizeOf] at hle
  have hpos := size_pos_of_isFrontal (hread t (hsplit ▸ List.mem_append_right _ List.mem_cons_self)) hfrontal
  omega

/-- If there is none, the prologue has all directives of the leading run. -/
theorem endsBy_of_isUnbroken (h : IsUnbroken ts) : EndsBy ts (Tree.sizeOf (ts.takeWhile isFrontal)) := by
  rintro front t rest rfl hfront hfrontal
  have hrun := takeWhile_isLeading (front ++ t :: rest)
  rw [takeWhile_isLeading_append hfront hfrontal] at hrun
  rcases List.append_eq_append_iff.mp hrun with ⟨more, hprologue, -⟩ | ⟨more, hprologue, hrest⟩
  · rw [hprologue, Tree.sizeOf_append (front ++ [t])]
    exact Nat.le_add_right _ _
  · -- what comes after the prologue has no directive, so the last one is in it
    rcases List.eq_nil_or_concat more with rfl | ⟨init, last, rfl⟩
    · exact le_of_eq (congrArg Tree.sizeOf (hprologue.trans (List.append_nil _)))
    · rw [List.concat_eq_append, ← List.append_assoc] at hprologue
      obtain rfl : t = last := List.singleton_inj.mp (List.append_inj_right' hprologue rfl)
      have hmem : t ∈ ((front ++ t :: rest).dropWhile isFrontal).takeWhile isLeading := by
        rw [hrest, List.concat_eq_append]
        exact List.mem_append_left _ (List.mem_append_right _ List.mem_cons_self)
      exact absurd hfrontal (Bool.eq_false_iff.mp (h t hmem))

/-- The prologue has every directive of the leading run just if none comes after a comment that an arrow opens. -/
theorem endsBy_prologueEnd_iff (hread : ∀ t ∈ ts, t.IsWellRead) :
    EndsBy ts (prologueEndOf 0 0 ts) ↔ IsUnbroken ts := by
  rw [prologueEndOf_eq, Nat.zero_add]
  exact ⟨isUnbroken_of_endsBy hread, endsBy_of_isUnbroken⟩

example :
    (Document.ofChars? (Rewrite.dialectOf "a.jsx") "<!-- c\n'use client';\n<p>Hi</p>".toList).any (fun d =>
      frontTexts d.trees == ["'use client'".toList] && prologueEndOf 0 0 d.trees == 0) = true := by
  decide +kernel

/-! ## 4. What stands in the leading run -/

/-- A tree stands in the front of a row, or it comes after that. -/
theorem stands_append {passes : Kind → Bool} {place q : Nat} {front rest : List Tree} {address : List Nat} {s : Tree}
    (h : Stands passes place (front ++ rest) address q s) :
    Stands passes place front address q s ∨ place + Tree.sizeOf front ≤ q := by
  induction front generalizing place address with
  | nil => exact .inr h.bounds.1
  | cons t front ih =>
    cases h with
    | here => exact .inl (.here _ _ _)
    | inside hk h => exact .inl (.inside hk h)
    | later h =>
      refine (ih h).imp .later fun hle => ?_
      rw [Tree.sizeOf, ← Nat.add_assoc]
      exact hle

/-- What is in the leading run is a leaf, or a directive. -/
theorem isDirective_or_isLeaf (h : t.IsWellRead) (hleading : isLeading t = true) :
    isDirective t = true ∨ t.isLeaf = true ∧ (t.kind = .hashbang ∨ t.kind = .token) := by
  rw [isLeading, Bool.or_eq_true, isFrontal_iff] at hleading
  rcases hleading with (hk | hdirective) | hcomment
  · obtain ⟨r, before, line, rfl, -⟩ := exists_leaf_of_hashbang h hk
    exact .inr ⟨rfl, .inl rfl⟩
  · exact .inl hdirective
  · rw [isArrowComment.eq_def] at hcomment
    split at hcomment
    · exact .inr ⟨rfl, .inr rfl⟩
    · cases hcomment

/-- Neither markup nor an import stands in the leading run. -/
theorem kind_of_stands {passes : Kind → Bool} {place q : Nat} {address : List Nat} {s : Tree}
    (h : Stands passes place ts address q s) (hread : ∀ t ∈ ts, t.IsWellRead) (hleading : ∀ t ∈ ts, isLeading t = true) :
    s.isElement = false ∧ s.kind ≠ .importStatement := by
  induction h with
  | here place t ts =>
    obtain ⟨hone, -⟩ := List.forall_mem_cons.mp hread
    obtain ⟨hfirst, -⟩ := List.forall_mem_cons.mp hleading
    rcases isDirective_or_isLeaf hone hfirst with hdirective | ⟨-, hk⟩
    · obtain ⟨r, before, literal, between, stop, rfl, -⟩ := exists_leaves_of_isDirective hone hdirective
      exact ⟨rfl, (by decide : Kind.expressionStatement ≠ .importStatement)⟩
    · rw [Tree.isElement]
      rcases hk with hk | hk <;> rw [hk] <;> decide
  | later _ ih => exact ih (List.forall_mem_cons.mp hread).2 (List.forall_mem_cons.mp hleading).2
  | inside _ hin _ =>
    obtain ⟨hone, -⟩ := List.forall_mem_cons.mp hread
    obtain ⟨hfirst, -⟩ := List.forall_mem_cons.mp hleading
    rcases isDirective_or_isLeaf hone hfirst with hdirective | ⟨hleaf, -⟩
    · obtain ⟨r, before, literal, between, stop, heq, -⟩ := exists_leaves_of_isDirective hone hdirective
      obtain ⟨-, -, rfl⟩ := Tree.node.inj heq
      cases hin with
      | here => exact ⟨rfl, (by decide : Kind.string ≠ .importStatement)⟩
      | later hin =>
        cases hin with
        | here => exact ⟨rfl, (by decide : Kind.token ≠ .importStatement)⟩
        | later hin => cases hin
    · cases hleaf

/-- No markup starts before the end of the prologue. -/
theorem le_of_stands {q : Nat} {address : List Nat} {s : Tree} (hread : ∀ t ∈ ts, t.IsWellRead)
    (h : Stands (fun _ => true) 0 ts address q s) (helement : s.isElement = true) : prologueEndOf 0 0 ts ≤ q := by
  rw [← @List.takeWhile_append_dropWhile _ isFrontal ts] at h
  rcases stands_append h with hin | hle
  · have hkind := kind_of_stands hin (fun t ht => hread t ((List.takeWhile_sublist _).mem ht))
      fun t ht => isLeading_of_isFrontal (List.mem_takeWhile_imp ht)
    rw [hkind.1] at helement
    cases helement
  · rwa [prologueEndOf_eq]

/-- All directives of the leading run come before every import. -/
theorem endsBy_of_stands {q : Nat} {address : List Nat} {s : Tree} (hread : ∀ t ∈ ts, t.IsWellRead)
    (h : Stands (fun _ => true) 0 ts address q s) (himport : s.kind = .importStatement) : EndsBy ts q := by
  rw [← @List.takeWhile_append_dropWhile _ isLeading ts] at h
  rcases stands_append h with hin | hle
  · have hkind := kind_of_stands hin (fun t ht => hread t ((List.takeWhile_sublist _).mem ht))
      fun t ht => List.mem_takeWhile_imp ht
    exact absurd himport hkind.2
  · rw [Nat.zero_add] at hle
    exact endsBy_of_le hle

/-! ## 5. What becomes of the leading run -/

open Phrasebook.Source.Tree (Turns)

variable {u : Tree} {us : List Tree}

theorem isDirective_eq (h : Turns t u) : isDirective t = isDirective u := by
  rw [isDirective, isDirective, ← h.kind_eq]
  by_cases hk : t.kind = .expressionStatement
  · have hparts := Tree.inRole_of_forall₂ (h.forall₂_children (by rw [hk]; decide)) .value
    rw [Tree.part, Tree.part]
    rcases hparts with ⟨ht, hu⟩ | ⟨v, w, hv, hw, hone⟩
    · rw [ht, hu]
    · rw [hv, hw, Option.any_some, Option.any_some, hone.kind_eq]
  · rw [beq_false_of_ne hk, Bool.false_and, Bool.false_and]

theorem isFrontal_eq (h : Turns t u) : isFrontal t = isFrontal u := by
  rw [isFrontal, isFrontal, ← h.kind_eq, isDirective_eq h]

/-- A hashbang line stays as it is, and so does the string of a directive. -/
theorem frontText_eq (h : Turns t u) (hfrontal : isFrontal t = true) : frontText t = frontText u := by
  rcases isFrontal_iff.mp hfrontal with hk | hdirective
  · obtain ⟨r, before, line, rfl, -⟩ := exists_leaf_of_hashbang h.isWellRead hk
    obtain ⟨_, _, _, _, _, -, rfl⟩ | ⟨_, _, _, heq, -⟩ | ⟨_, _, _, _, heq, -, -⟩ := Tree.becomes_cases h.becomes
    · exact h.text_eq rfl
    · cases heq
    · cases heq
  · obtain ⟨r, before, literal, between, stop, rfl, -⟩ := exists_leaves_of_isDirective h.isWellRead hdirective
    have hparts := Tree.inRole_of_forall₂ (h.forall₂_children (by decide : Kind.expressionStatement ≠ .element)) .value
    rcases hparts with ⟨hnone, -⟩ | ⟨v, w, hv, hw, hone⟩
    · cases hnone
    · obtain rfl : Tree.leaf .value .string before literal = v := Option.some.inj hv
      rw [frontText, frontText, Tree.part, Tree.part, hv, hw]
      exact hone.text_eq rfl

theorem isLeading_eq (h : Turns t u) : isLeading t = isLeading u := by
  have hcomment : isArrowComment t = isArrowComment u := by
    obtain ⟨_, k, _, _, _, rfl, rfl⟩ | ⟨_, _, _, rfl, rfl⟩ | ⟨_, _, _, _, rfl, rfl, -⟩ := Tree.becomes_cases h.becomes
    · cases k <;> rfl
    · rfl
    · rfl
  rw [isLeading, isLeading, isFrontal_eq h, hcomment]

theorem frontTexts_eq (h : List.Forall₂ Turns ts us) : frontTexts ts = frontTexts us := by
  unfold frontTexts
  induction h with
  | nil => rfl
  | cons hone _ ih =>
    rw [List.takeWhile_cons, List.takeWhile_cons, ← isLeading_eq hone]
    split
    · rw [List.filter_cons, List.filter_cons, ← isFrontal_eq hone]
      split
      · rename_i hfrontal
        rw [List.map_cons, List.map_cons, frontText_eq hone hfrontal, ih]
      · exact ih
    · rfl

theorem forall_isFrontal_of_forall₂ (h : List.Forall₂ Turns ts us) (hfrontal : ∀ t ∈ ts, isFrontal t = true) :
    ∀ u ∈ us, isFrontal u = true := by
  induction h with
  | nil => exact fun _ hu => absurd hu List.not_mem_nil
  | cons hone _ ih =>
    obtain ⟨ht, hts⟩ := List.forall_mem_cons.mp hfrontal
    exact List.forall_mem_cons.mpr ⟨isFrontal_eq hone ▸ ht, ih hts⟩

/-- Directives are all in front, if the leading run has none after that. -/
theorem frontTexts_append {front rest : List Tree} (hfront : ∀ t ∈ front, isFrontal t = true)
    (hrest : ∀ t ∈ rest.takeWhile isLeading, isFrontal t = false) : frontTexts (front ++ rest) = frontTexts front := by
  have hleading : ∀ t ∈ front, isLeading t = true := fun t ht => isLeading_of_isFrontal (hfront t ht)
  have hnone : (rest.takeWhile isLeading).filter isFrontal = [] :=
    List.filter_eq_nil_iff.mpr fun t ht => Bool.eq_false_iff.mp (hrest t ht)
  rw [frontTexts, List.takeWhile_append_of_pos hleading, List.filter_append, hnone, List.append_nil, frontTexts,
    List.takeWhile_eq_self_iff.mpr hleading]

/-- The hashbang line and the directives of the leading run stay as they are, in their order. -/
theorem frontTexts_of_sourceBecomes {needsImport : Bool} (hread : ∀ t ∈ ts, t.IsWellRead) (hunbroken : IsUnbroken ts)
    (h : Tree.sourceBecomes needsImport ts us = true) : frontTexts us = frontTexts ts := by
  cases needsImport with
  | false => exact (frontTexts_eq (Tree.forall₂_of_rowBecomes hread h)).symm
  | true =>
    obtain ⟨front, added, rest, rfl, -, himport, hfront, -⟩ := exists_added hread h
    have hfrontal : ∀ t ∈ ts.takeWhile isFrontal, isFrontal t = true := fun t ht => List.mem_takeWhile_imp ht
    have hadded : isLeading added = false := by
      rw [isLeading, isFrontal, isDirective, himport]
      cases added with
      | leaf r k before text =>
        obtain rfl : k = .importStatement := himport
        rfl
      | node r k cs => rfl
    have hnone : ∀ t ∈ (added :: rest).takeWhile isLeading, isFrontal t = false := by
      rw [List.takeWhile_cons_of_neg (Bool.eq_false_iff.mp hadded)]
      exact fun _ ht => absurd ht List.not_mem_nil
    have hbefore := frontTexts_append hfrontal hunbroken
    rw [List.takeWhile_append_dropWhile] at hbefore
    rw [frontTexts_append (forall_isFrontal_of_forall₂ hfront hfrontal) hnone, hbefore, frontTexts_eq hfront]

end Outline

/-- There is one start of some characters with a given width. -/
theorem eq_of_width_eq {xs ys zs ws : List Char} (h : xs ++ ys = zs ++ ws) (hwidth : width xs = width zs) : xs = zs := by
  rcases List.append_eq_append_iff.mp h with ⟨more, rfl, -⟩ | ⟨more, rfl, -⟩
  · rcases eq_or_ne more [] with rfl | hne
    · exact (List.append_nil _).symm
    · rw [width_append] at hwidth
      have hpos := width_pos hne
      omega
  · rcases eq_or_ne more [] with rfl | hne
    · exact List.append_nil _
    · rw [width_append] at hwidth
      have hpos := width_pos hne
      omega

end Phrasebook.Source

/-! ## 6. What a rewrite keeps -/

namespace Phrasebook.Rewrite

open Source

variable {settings : Settings} {file source : String} {d : Document} {r : Rewritten}

/-- How the code of a rewrite is read: as what the source becomes, where an import that has come to it binds the name of the
lookup function. -/
structure ReadsBack (settings : Settings) (file : String) (d : Document) (code : String) (d' : Document) : Prop where
  read : Document.ofChars? (dialectOf file) code.toList = some d'
  becomes : Tree.sourceBecomes (!importsName (Outline.ofDocument d).landmarks settings.lookupFunction) d.trees d'.trees = true
  added : importsName (Outline.ofDocument d).landmarks settings.lookupFunction = false →
    ∀ t, d'.trees[(d.trees.takeWhile Outline.isFrontal).length]? = some t →
      Outline.clauseNames t = [settings.lookupFunction]

/-- A rewrite keeps what an import is put after. -/
structure KeepsPrologue (settings : Settings) (file : String) (d : Document) (r : Rewritten) : Prop where
  /-- Before the end of the prologue there are only a hashbang line, directives, comments and blanks; the code starts with
  them. -/
  prologue : ∃ prologue rest, d.source = prologue ++ rest ∧ width prologue = (Outline.ofDocument d).prologueEnd ∧
    IsPrologue prologue ∧ prologue <+: r.code.toList
  /-- There are the hashbang line and every directive of the leading run. -/
  directives : Outline.EndsBy d.trees (Outline.ofDocument d).prologueEnd
  /-- No markup starts there. -/
  markup : ∀ address q t, Tree.Stands (fun _ => true) 0 d.trees address q t → t.isElement = true →
    (Outline.ofDocument d).prologueEnd ≤ q
  /-- Where texts have been taken out, the code is read with the same hashbang line and directives before every import, and
  one import binds the name of the lookup function if none did, else as many as before. -/
  output : r.records ≠ [] → ∃ d', Document.ofChars? (dialectOf file) r.code.toList = some d' ∧
    Outline.frontTexts d'.trees = Outline.frontTexts d.trees ∧
      (∀ address q t, Tree.Stands (fun _ => true) 0 d'.trees address q t → t.kind = .importStatement →
        Outline.EndsBy d'.trees q) ∧
        Outline.importCount settings.lookupFunction d'.trees =
          if Outline.importCount settings.lookupFunction d.trees = 0 then 1
          else Outline.importCount settings.lookupFunction d.trees

/-- What comes before an import that is added is a prologue, and the code starts with it. -/
theorem exists_prologue (h : Document.ofChars? (dialectOf file) source.toList = some d)
    (hr : rewrite settings file source = .ok r) :
    ∃ prologue rest, d.source = prologue ++ rest ∧ width prologue = (Outline.ofDocument d).prologueEnd ∧
      IsPrologue prologue ∧ prologue <+: r.code.toList := by
  obtain ⟨line, rest, htrees, hlength, hline, hrest⟩ := exists_line_of_ofChars? h
  have hread := isWellRead_of_ofChars? h
  rw [htrees] at hread
  have hprologue := Outline.isPrologue_charsOf hread hlength hline hrest
  rw [← htrees] at hprologue
  have hsplit : d.source = Tree.charsOf (d.trees.takeWhile Outline.isFrontal) ++
      Tree.charsOf (d.trees.dropWhile Outline.isFrontal) := by
    rw [← Tree.charsOf_append, List.takeWhile_append_dropWhile, d.chars_eq]
  have hwidth : width (Tree.charsOf (d.trees.takeWhile Outline.isFrontal)) = (Outline.ofDocument d).prologueEnd := by
    rw [Outline.ofDocument, Outline.prologueEndOf_eq, Nat.zero_add, Tree.sizeOf_eq]
  refine ⟨_, _, hsplit, hwidth, hprologue, ?_⟩
  obtain ⟨hsource, -⟩ := exists_sourceRule_of_ofChars? h
  by_cases hrecords : r.records = []
  · rw [code_of_records_eq_nil hr hrecords, ← hsource, hsplit]
    exact List.prefix_append _ _
  · obtain ⟨o, prologue, patches, tail, ho, hcut⟩ := isCut_of_rewrite hr hrecords
    rw [outline_of_ofChars? h, Except.ok.injEq] at ho
    have heq : Tree.charsOf (d.trees.takeWhile Outline.isFrontal) ++ Tree.charsOf (d.trees.dropWhile Outline.isFrontal) =
        prologue ++ (Splice.original patches ++ tail) := by
      rw [← hsplit, hsource, hcut.source_eq, List.append_assoc]
    rw [eq_of_width_eq heq (by rw [hwidth, hcut.prologue_width, ho]), hcut.code_eq, List.append_assoc, List.append_assoc]
    exact List.prefix_append _ _

/-- As many imports bind the name of the lookup function in the code as in the source, and the one that is added. -/
theorem ReadsBack.importCount_eq {code : String} {d' : Document} (h : ReadsBack settings file d code d')
    (hread : ∀ t ∈ d.trees, t.IsWellRead) :
    Outline.importCount settings.lookupFunction d'.trees = Outline.importCount settings.lookupFunction d.trees +
      if importsName (Outline.ofDocument d).landmarks settings.lookupFunction then 0 else 1 := by
  have hcount := Outline.importCount_of_sourceBecomes hread h.becomes fun hneeds added hadded => by
    rw [Bool.not_eq_true'] at hneeds
    rw [h.added hneeds added hadded]
    exact List.mem_cons_self
  rw [hcount]
  cases importsName (Outline.ofDocument d).landmarks settings.lookupFunction <;> rfl

/-- A rewrite keeps the prologue just if no directive of the leading run comes after a comment that an arrow opens, and if it
adds no import where another one binds the name of the lookup function. -/
theorem keepsPrologue_iff (h : Document.ofChars? (dialectOf file) source.toList = some d)
    (hr : rewrite settings file source = .ok r) (hback : r.records ≠ [] → ∃ d', ReadsBack settings file d r.code d') :
    KeepsPrologue settings file d r ↔
      Outline.IsUnbroken d.trees ∧
        (r.records = [] ∨ Outline.importCount settings.lookupFunction d.trees = 0 ∨
          importsName (Outline.ofDocument d).landmarks settings.lookupFunction = true) := by
  have hread := isWellRead_of_ofChars? h
  constructor
  · intro hkeeps
    refine ⟨(Outline.endsBy_prologueEnd_iff hread).mp hkeeps.directives, ?_⟩
    by_contra hnot
    obtain ⟨hrecords, hcount, himports⟩ : r.records ≠ [] ∧ Outline.importCount settings.lookupFunction d.trees ≠ 0 ∧
        ¬ importsName (Outline.ofDocument d).landmarks settings.lookupFunction = true := by
      simpa only [not_or] using hnot
    obtain ⟨d', hd', -, -, hkept⟩ := hkeeps.output hrecords
    obtain ⟨d'', hreads⟩ := hback hrecords
    obtain rfl : d' = d'' := Option.some.inj (hd'.symm.trans hreads.read)
    -- one import has come to those that bind the name
    rw [hreads.importCount_eq hread, if_neg himports, if_neg hcount] at hkept
    omega
  · rintro ⟨hunbroken, himports⟩
    refine ⟨exists_prologue h hr, (Outline.endsBy_prologueEnd_iff hread).mpr hunbroken,
      fun _ _ _ hstands => Outline.le_of_stands hread hstands, fun hrecords => ?_⟩
    obtain ⟨d', hreads⟩ := hback hrecords
    have hread' := isWellRead_of_ofChars? hreads.read
    refine ⟨d', hreads.read, Outline.frontTexts_of_sourceBecomes hread hunbroken hreads.becomes,
      fun _ _ _ hstands => Outline.endsBy_of_stands hread' hstands, ?_⟩
    rw [hreads.importCount_eq hread]
    rcases himports.resolve_left hrecords with hnone | hbinds
    · have hunbound : ¬ importsName (Outline.ofDocument d).landmarks settings.lookupFunction = true :=
        fun hbinds => Outline.importCount_ne_zero hbinds hnone
      rw [hnone, if_neg hunbound, if_pos rfl]
    · rw [if_pos hbinds, if_neg (Outline.importCount_ne_zero hbinds), Nat.add_zero]

/-! A source that requires a module under the name of the lookup function. -/

namespace Sample

def requiredCode : String :=
  "import \x7b t \x7d from 'textmark/runtime';\nimport t = require('x');\n" ++
    "export default () => <p>\x7bt('30e73e9394ffda8d')\x7d</p>;\n"

def requiredCuts : List Splice.Patch :=
  [⟨"import t = require('x');\nexport default () => <p>".toList, "Hi".toList, "\x7bt('30e73e9394ffda8d')\x7d".toList⟩]

/-- Whether a code is read as what the source becomes. -/
def isReadBack (d d' : Document) : Bool :=
  Tree.sourceBecomes true d.trees d'.trees &&
    (d'.trees[(d.trees.takeWhile Outline.isFrontal).length]?).all fun t => Outline.clauseNames t == ["t"]

theorem exists_required : ∃ d, Document.ofChars? (dialectOf "a.tsx") required.toList = some d ∧
    decide (importsName (Outline.ofDocument d).landmarks "t" = false ∧ Outline.importCount "t" d.trees = 1 ∧
      (Outline.ofDocument d).prologueEnd = 0 ∧
        Splice.editsFrom 0 requiredCuts =
          (insertionsOf Settings.standard "a.tsx" (Outline.ofDocument d)).map (·.edit) ∧
            importText Settings.standard (Outline.ofDocument d) ++ Splice.patched requiredCuts ++ "</p>;\n".toList =
              requiredCode.toList ∧
                (Document.ofChars? (dialectOf "a.tsx") requiredCode.toList).any (isReadBack d) = true) = true :=
  Option.any_eq_true _ _ |>.mp (by decide +kernel)

end Sample

open Sample in
theorem not_keepsPrologue_of_required :
    ∃ d r, Document.ofChars? (dialectOf "a.tsx") required.toList = some d ∧
      rewrite Settings.standard "a.tsx" required = .ok r ∧ r.code = requiredCode ∧
        ¬ KeepsPrologue Settings.standard "a.tsx" d r := by
  obtain ⟨d, hd, hchecks⟩ := exists_required
  obtain ⟨hnone, hcount, hend, hedits, hparts, hreads⟩ := of_decide_eq_true hchecks
  obtain ⟨r, hr⟩ := exists_rewrite Settings.standard (outline_of_ofChars? hd)
  obtain ⟨hrecords, hcode⟩ := @code_of_cuts Settings.standard "a.tsx" required d r [] "</p>;\n".toList requiredCuts hd hr
    hend.symm hedits (by decide) (by decide) rfl
  have hcode' : r.code = requiredCode := String.toList_inj.mp (hcode.trans hparts)
  have hback : ∃ d', ReadsBack Settings.standard "a.tsx" d r.code d' := by
    obtain ⟨d', hd', hbecomes⟩ := Option.any_eq_true _ _ |>.mp hreads
    rw [isReadBack, Bool.and_eq_true, Option.all_eq_true] at hbecomes
    refine ⟨d', hcode' ▸ hd', ?_, fun _ t ht => beq_iff_eq.mp (hbecomes.2 t ht)⟩
    rw [show Settings.standard.lookupFunction = "t" from rfl, hnone]
    exact hbecomes.1
  refine ⟨d, r, hd, hr, hcode', fun hkeeps => ?_⟩
  obtain ⟨-, hnil | hzero | hbinds⟩ := (keepsPrologue_iff hd hr fun _ => hback).mp hkeeps
  · exact hrecords hnil
  · exact absurd (hzero.symm.trans hcount) (by decide)
  · exact absurd (hnone.symm.trans hbinds) (by decide)

end Phrasebook.Rewrite
