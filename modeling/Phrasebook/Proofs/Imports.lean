import Mathlib.Data.List.Forall2
import Phrasebook.Proofs.Scopes

/-!
# What import statements bind

An import statement binds the names of its clause; one of another form binds the name that a required module gets. What a
rewrite does to a source leaves the import statements outside markup as they are, but for the one that it adds.

Results:
1. `bindsName_eq`: what an import statement becomes binds the same names.
2. `importCount_of_sourceBecomes`: as many import statements bind a name as before, or one more.
3. `importCount_ne_zero`: one binds a name that a source tells is imported.
-/

namespace Phrasebook.Source

/-! ## 1. Rows of trees and what they become -/

namespace Tree

/-- There are three ways to become a tree: a leaf, an element, or a node part by part. -/
theorem becomes_cases {t u : Tree} (h : t.becomes u = true) :
    (∃ r k before before' text, t = .leaf r k before text ∧ u = .leaf r k before' text) ∨
      (∃ r cs cs', t = .node r .element cs ∧ u = .node r .element cs') ∨
        ∃ r k cs cs', t = .node r k cs ∧ u = .node r k cs' ∧ rowBecomes cs cs' = true := by
  rw [becomes.eq_def] at h
  split at h
  · simp only [Bool.and_eq_true, beq_iff_eq] at h
    obtain ⟨⟨rfl, rfl⟩, rfl⟩ := h
    exact .inl ⟨_, _, _, _, _, rfl, rfl⟩
  · simp only [Bool.and_eq_true, beq_iff_eq] at h
    obtain ⟨⟨⟨rfl, -⟩, -⟩, -⟩ := h
    exact .inr (.inl ⟨_, _, _, rfl, rfl⟩)
  · simp only [Bool.and_eq_true, beq_iff_eq] at h
    obtain ⟨⟨rfl, rfl⟩, hrow⟩ := h
    exact .inr (.inr ⟨_, _, _, _, rfl, rfl, hrow⟩)
  · cases h

/-- A tree as readers make it, and one that it may become. -/
structure Turns (t u : Tree) : Prop where
  isWellRead : t.IsWellRead
  becomes : t.becomes u = true

theorem forall₂_of_rowBecomes {ts us : List Tree} (hread : ∀ t ∈ ts, t.IsWellRead) (h : rowBecomes ts us = true) :
    List.Forall₂ Turns ts us := by
  induction ts generalizing us with
  | nil =>
    cases us with
    | nil => exact .nil
    | cons u us => cases h
  | cons t ts ih =>
    cases us with
    | nil => cases h
    | cons u us =>
      obtain ⟨ht, hts⟩ := List.forall_mem_cons.mp hread
      rw [rowBecomes, Bool.and_eq_true] at h
      exact .cons ⟨ht, h.1⟩ (ih hts h.2)

/-- Names are leaves. -/
theorem isLeaf_of_identifier {t : Tree} (h : t.IsWellRead) (hk : t.kind = .identifier) : t.isLeaf = true := by
  refine isLeaf_of_isWellRead h ?_
  rw [hk]
  exact fun _ => Bool.false_ne_true

/-- So are the parts of a name in the braces of an import. -/
theorem isLeaf_of_importSpecifier {t : Tree} (h : t.IsWellRead) (hk : t.kind = .importSpecifier) :
    ∀ c ∈ t.children, c.isLeaf = true := by
  cases t with
  | leaf r k before text => exact fun _ hc => absurd hc List.not_mem_nil
  | node r k cs =>
    obtain rfl : k = .importSpecifier := hk
    exact h.1

theorem text_leaf (r : Role) (k : Kind) (before text : List Char) : (leaf r k before text).text = text := List.drop_left

namespace Turns

variable {t u : Tree}

theorem role_eq (h : Turns t u) : t.role = u.role := by
  obtain ⟨_, _, _, _, _, rfl, rfl⟩ | ⟨_, _, _, rfl, rfl⟩ | ⟨_, _, _, _, rfl, rfl, -⟩ := becomes_cases h.becomes <;> rfl

theorem kind_eq (h : Turns t u) : t.kind = u.kind := by
  obtain ⟨_, _, _, _, _, rfl, rfl⟩ | ⟨_, _, _, rfl, rfl⟩ | ⟨_, _, _, _, rfl, rfl, -⟩ := becomes_cases h.becomes <;> rfl

/-- A leaf keeps its characters. -/
theorem text_eq (h : Turns t u) (hleaf : t.isLeaf = true) : t.text = u.text := by
  obtain ⟨_, _, _, _, _, rfl, rfl⟩ | ⟨_, _, _, rfl, rfl⟩ | ⟨_, _, _, _, rfl, rfl, -⟩ := becomes_cases h.becomes
  · rw [text_leaf, text_leaf]
  · cases hleaf
  · cases hleaf

theorem word_eq (h : Turns t u) (hleaf : t.isLeaf = true) : t.word = u.word := congrArg String.ofList (h.text_eq hleaf)

/-- What is no element becomes something part by part. -/
theorem forall₂_children (h : Turns t u) (hk : t.kind ≠ .element) : List.Forall₂ Turns t.children u.children := by
  obtain ⟨_, _, _, _, _, rfl, rfl⟩ | ⟨_, _, _, rfl, rfl⟩ | ⟨_, _, _, _, rfl, rfl, hrow⟩ := becomes_cases h.becomes
  · exact .nil
  · exact absurd rfl hk
  · exact forall₂_of_rowBecomes (areWellRead_iff.mp h.isWellRead.2) hrow

end Turns

/-- The parts of a kind become parts of this kind. -/
theorem forall₂_filter {ts us : List Tree} (h : List.Forall₂ Turns ts us) (k : Kind) :
    List.Forall₂ Turns (ts.filter (·.kind == k)) (us.filter (·.kind == k)) := by
  induction h with
  | nil => exact .nil
  | cons hone _ ih =>
    rw [List.filter_cons, List.filter_cons, ← hone.kind_eq]
    split
    · exact .cons hone ih
    · exact ih

/-- The first part in a role becomes the first in this role. -/
theorem inRole_of_forall₂ {ts us : List Tree} (h : List.Forall₂ Turns ts us) (r : Role) :
    inRole r ts = none ∧ inRole r us = none ∨ ∃ t u, inRole r ts = some t ∧ inRole r us = some u ∧ Turns t u := by
  induction h with
  | nil => exact .inl ⟨rfl, rfl⟩
  | @cons t u ts us hone _ ih =>
    rw [inRole, inRole, List.find?_cons, List.find?_cons, ← hone.role_eq]
    split
    · exact .inr ⟨t, u, rfl, rfl, hone⟩
    · exact ih

theorem map_word_inRole_eq {ts us : List Tree} (h : List.Forall₂ Turns ts us) (hleaves : ∀ t ∈ ts, t.isLeaf = true)
    (r : Role) : (inRole r ts).map word = (inRole r us).map word := by
  rcases inRole_of_forall₂ h r with ⟨hts, hus⟩ | ⟨t, u, ht, hu, hone⟩
  · rw [hts, hus]
  · rw [ht, hu, Option.map_some, Option.map_some, hone.word_eq (hleaves t (List.mem_of_find?_eq_some ht))]

/-- What is found in each tree of a row is found in what the row becomes, if that is so for each tree. -/
theorem flatMap_eq_of_forall₂ {α : Type} {ts us : List Tree} {f : Tree → List α} (h : List.Forall₂ Turns ts us)
    (heach : ∀ t ∈ ts, ∀ u, Turns t u → f t = f u) : ts.flatMap f = us.flatMap f := by
  induction h with
  | nil => rfl
  | cons hone _ ih =>
    obtain ⟨ht, hts⟩ := List.forall_mem_cons.mp heach
    rw [List.flatMap_cons, List.flatMap_cons, ht _ hone, ih hts]

end Tree

/-! ## 2. Names that are bound -/

namespace Outline

open Phrasebook.Source.Tree (Turns)

/-- The names that the clause of an import statement binds. -/
def clauseNames (t : Tree) : List String :=
  (t.children.filter (·.kind == .importClause)).flatMap fun c => c.children.flatMap importedNames

/-- Whether a tree is an import statement that binds a name. -/
def bindsName (name : String) (t : Tree) : Bool :=
  t.kind == .importStatement && (clauseNames t ++ requiredNames t).contains name

/-- The number of import statements outside markup that bind a name. -/
def importCount (name : String) (ts : List Tree) : Nat :=
  (Tree.nodesFrom isOpen 0 0 ts).countP fun n => bindsName name n.2.2

variable {name : String}

theorem map_word_eq_of_forall₂ {ts us : List Tree} (h : List.Forall₂ Turns ts us) :
    (ts.filter (·.kind == .identifier)).map Tree.word = (us.filter (·.kind == .identifier)).map Tree.word := by
  rw [List.map_eq_flatMap, List.map_eq_flatMap]
  refine Tree.flatMap_eq_of_forall₂ (Tree.forall₂_filter h _) fun t ht u hone => ?_
  have hkind : t.kind = .identifier := beq_iff_eq.mp (List.mem_filter.mp ht).2
  rw [hone.word_eq (Tree.isLeaf_of_identifier hone.isWellRead hkind)]

theorem importedNames_eq {t u : Tree} (h : Turns t u) : importedNames t = importedNames u := by
  rw [importedNames.eq_def, importedNames.eq_def u, ← h.kind_eq]
  split
  · rename_i hk
    rw [h.word_eq (Tree.isLeaf_of_identifier h.isWellRead hk)]
  · rename_i hk
    exact map_word_eq_of_forall₂ (h.forall₂_children (by rw [hk]; decide))
  · rename_i hk
    have hspecifiers := Tree.forall₂_filter (h.forall₂_children (by rw [hk]; decide)) .importSpecifier
    rw [List.filterMap_eq_flatMap_toList, List.filterMap_eq_flatMap_toList]
    refine Tree.flatMap_eq_of_forall₂ hspecifiers fun s hs v hone => ?_
    have hkind : s.kind = .importSpecifier := beq_iff_eq.mp (List.mem_filter.mp hs).2
    have hparts := Tree.map_word_inRole_eq (hone.forall₂_children (by rw [hkind]; decide))
      (Tree.isLeaf_of_importSpecifier hone.isWellRead hkind)
    rw [Option.map_or, Option.map_or, Tree.part, Tree.part, Tree.part, Tree.part, hparts, hparts]
  · rfl

/-- An import statement binds the same names in a rewritten source. -/
theorem bindsName_eq {t u : Tree} (h : Turns t u) : bindsName name t = bindsName name u := by
  rw [bindsName, bindsName, ← h.kind_eq]
  by_cases hk : t.kind = .importStatement
  · have hchildren := h.forall₂_children (by rw [hk]; decide)
    have hclause : clauseNames t = clauseNames u :=
      Tree.flatMap_eq_of_forall₂ (Tree.forall₂_filter hchildren _) fun c hc d hone => by
        have hkind : c.kind = .importClause := beq_iff_eq.mp (List.mem_filter.mp hc).2
        exact Tree.flatMap_eq_of_forall₂ (hone.forall₂_children (by rw [hkind]; decide)) fun _ _ _ => importedNames_eq
    have hrequired : requiredNames t = requiredNames u :=
      Tree.flatMap_eq_of_forall₂ (Tree.forall₂_filter hchildren _) fun c hc d hone => by
        have hkind : c.kind = .phrase := beq_iff_eq.mp (List.mem_filter.mp hc).2
        exact map_word_eq_of_forall₂ (List.forall₂_take 1 (hone.forall₂_children (by rw [hkind]; decide)))
    rw [hclause, hrequired]
  · rw [beq_false_of_ne hk, Bool.false_and, Bool.false_and]

/-! ## 3. Import statements that bind a name -/

theorem ne_element_of_isOpen {k : Kind} (h : isOpen k = true) : k ≠ .element := by
  rintro rfl
  cases h

mutual
/-- What stands outside markup in a tree becomes what stands there, in the same order. -/
theorem forall₂_nodesAt {t u : Tree} (h : Turns t u) (place i place' i' : Nat) :
    List.Forall₂ (fun n m => Turns n.2.2 m.2.2) (Tree.nodesAt isOpen place i t) (Tree.nodesAt isOpen place' i' u) := by
  cases t with
  | leaf r k before text =>
    obtain ⟨_, _, _, _, _, heq, rfl⟩ | ⟨_, _, _, heq, -⟩ | ⟨_, _, _, _, heq, -, -⟩ := Tree.becomes_cases h.becomes
    · exact .cons h .nil
    · cases heq
    · cases heq
  | node r k cs =>
    cases u with
    | leaf r' k' before' text' =>
      obtain ⟨_, _, _, _, _, heq, -⟩ | ⟨_, _, _, -, heq⟩ | ⟨_, _, _, _, -, heq, -⟩ := Tree.becomes_cases h.becomes <;>
        cases heq
    | node r' k' cs' =>
      obtain rfl : k = k' := h.kind_eq
      rw [Tree.nodesAt, Tree.nodesAt]
      refine .cons h ?_
      rw [List.forall₂_map_left_iff, List.forall₂_map_right_iff]
      split
      · rename_i hopen
        exact forall₂_nodesFrom (h.forall₂_children (ne_element_of_isOpen hopen)) _ _ _ _
      · exact .nil
theorem forall₂_nodesFrom {ts us : List Tree} (h : List.Forall₂ Turns ts us) (place i place' i' : Nat) :
    List.Forall₂ (fun n m => Turns n.2.2 m.2.2) (Tree.nodesFrom isOpen place i ts) (Tree.nodesFrom isOpen place' i' us) := by
  cases ts with
  | nil =>
    obtain rfl := List.forall₂_nil_left_iff.mp h
    exact .nil
  | cons t ts =>
    obtain ⟨u, us, hone, hmore, rfl⟩ := List.forall₂_cons_left_iff.mp h
    rw [Tree.nodesFrom, Tree.nodesFrom]
    exact List.rel_append (forall₂_nodesAt hone _ _ _ _) (forall₂_nodesFrom hmore _ _ _ _)
end

theorem countP_nodesFrom_eq {ts us : List Tree} (h : List.Forall₂ Turns ts us) (place i place' i' : Nat) :
    ((Tree.nodesFrom isOpen place i ts).countP fun n => bindsName name n.2.2) =
      (Tree.nodesFrom isOpen place' i' us).countP fun n => bindsName name n.2.2 := by
  have hnodes := forall₂_nodesFrom h place i place' i'
  generalize Tree.nodesFrom isOpen place i ts = ns, Tree.nodesFrom isOpen place' i' us = ms at hnodes ⊢
  induction hnodes with
  | nil => rfl
  | cons hone _ ih => rw [List.countP_cons, List.countP_cons, ih, bindsName_eq hone]

theorem nodesFrom_append (passes : Kind → Bool) (place i : Nat) (ts us : List Tree) :
    Tree.nodesFrom passes place i (ts ++ us) =
      Tree.nodesFrom passes place i ts ++ Tree.nodesFrom passes (place + Tree.sizeOf ts) (i + ts.length) us := by
  induction ts generalizing place i with
  | nil => rfl
  | cons t ts ih =>
    rw [List.cons_append, Tree.nodesFrom, Tree.nodesFrom, ih, List.append_assoc, Tree.sizeOf, List.length_cons, Nat.add_assoc,
      Nat.add_right_comm i, Nat.add_assoc]

/-- Where an import is needed, it comes after what may stand before it, and nothing else comes to the source. -/
theorem exists_added {ts us : List Tree} (hread : ∀ t ∈ ts, t.IsWellRead) (h : Tree.sourceBecomes true ts us = true) :
    ∃ front added rest, us = front ++ added :: rest ∧ us[(ts.takeWhile isFrontal).length]? = some added ∧
      added.kind = .importStatement ∧ List.Forall₂ Turns (ts.takeWhile isFrontal) front ∧
        List.Forall₂ Turns (ts.dropWhile isFrontal) rest := by
  rw [Tree.sourceBecomes, if_pos rfl] at h
  dsimp only at h
  rw [Bool.and_eq_true, Option.any_eq_true] at h
  obtain ⟨⟨added, hadded, himport⟩, hrow⟩ := h
  generalize hplace : (ts.takeWhile isFrontal).length = place at hadded hrow ⊢
  obtain ⟨hlt, hget⟩ := List.getElem?_eq_some_iff.mp hadded
  have hrows := Tree.forall₂_of_rowBecomes hread hrow
  have hlength : (us.take place).length = (ts.takeWhile isFrontal).length := by
    rw [hplace]
    exact List.length_take_of_le hlt.le
  rw [List.eraseIdx_eq_take_drop_succ] at hrows
  have hfront := List.forall₂_take_append _ _ _ hrows
  have hrest := List.forall₂_drop_append _ _ _ hrows
  rw [hlength] at hfront hrest
  have hsplit : ts.takeWhile isFrontal ++ ts.dropWhile isFrontal = ts := List.takeWhile_append_dropWhile
  rw [(congrArg (List.take _) hsplit.symm).trans List.take_left] at hfront
  rw [(congrArg (List.drop _) hsplit.symm).trans List.drop_left] at hrest
  refine ⟨us.take place, added, us.drop (place + 1), ?_, hadded, beq_iff_eq.mp himport, hfront, hrest⟩
  rw [← hget, ← List.drop_eq_getElem_cons, List.take_append_drop]

/-- As many import statements bind a name as before, and the one that is added. -/
theorem importCount_of_sourceBecomes {needsImport : Bool} {ts us : List Tree} (hread : ∀ t ∈ ts, t.IsWellRead)
    (h : Tree.sourceBecomes needsImport ts us = true)
    (hadded : needsImport = true → ∀ added, us[(ts.takeWhile isFrontal).length]? = some added → name ∈ clauseNames added) :
    importCount name us = importCount name ts + if needsImport then 1 else 0 := by
  cases needsImport with
  | false =>
    have hrows := Tree.forall₂_of_rowBecomes hread h
    exact (countP_nodesFrom_eq hrows 0 0 0 0).symm
  | true =>
    obtain ⟨front, added, rest, rfl, hplace, hkind, hfront, hrest⟩ := exists_added hread h
    have hts : ts.takeWhile isFrontal ++ ts.dropWhile isFrontal = ts := List.takeWhile_append_dropWhile
    have hone (place i : Nat) : ((Tree.nodesAt isOpen place i added).countP fun n => bindsName name n.2.2) = 1 := by
      have hbinds : bindsName name added = true := by
        rw [bindsName, hkind, List.contains_append, List.contains_iff_mem.mpr (hadded rfl added hplace)]
        rfl
      cases added with
      | leaf r k before text =>
        rw [Tree.nodesAt, List.countP_singleton, if_pos hbinds]
      | node r k cs =>
        obtain rfl : k = .importStatement := hkind
        rw [Tree.nodesAt, if_neg (by decide), List.map_nil, List.countP_singleton, if_pos hbinds]
    rw [importCount, importCount, ← hts, nodesFrom_append, nodesFrom_append, Tree.nodesFrom, List.countP_append,
      List.countP_append, List.countP_append, hone]
    rw [countP_nodesFrom_eq hfront 0 0 0 0,
      countP_nodesFrom_eq hrest _ _ (0 + Tree.sizeOf front + added.size) (0 + front.length + 1), if_pos rfl]
    omega

theorem mem_clauseNames_iff {t : Tree} :
    name ∈ clauseNames t ↔
      ∃ clause ∈ t.children, clause.kind = .importClause ∧ ∃ part ∈ clause.children, PartBinds name part := by
  rw [clauseNames, List.mem_flatMap]
  simp only [List.mem_filter, beq_iff_eq, List.mem_flatMap, mem_importedNames_iff, and_assoc]

/-- An import statement binds a name that a source tells is imported. -/
theorem importCount_ne_zero {ts : List Tree} (h : importsName (landmarksOfAll 0 ts) name = true) :
    importCount name ts ≠ 0 := by
  obtain ⟨address, q, t, hstands, hk, hclause⟩ := importsName_landmarksOfAll_iff.mp h
  have hbinds : bindsName name t = true := by
    rw [bindsName, hk, List.contains_append, List.contains_iff_mem.mpr (mem_clauseNames_iff.mpr hclause)]
    rfl
  rw [importCount, ← Nat.pos_iff_ne_zero, List.countP_pos_iff]
  exact ⟨_, Tree.mem_nodesFrom_zero.mpr hstands, hbinds⟩

end Outline
end Phrasebook.Source
