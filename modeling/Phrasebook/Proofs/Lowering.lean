import Phrasebook.Proofs.TextGroups

/-!
# Which texts are found

The texts of a source are the groups of its elements, in any element, however deep it is in others, in attributes, in
expressions or in functions. Only what stands in an import statement outside all elements is passed over. Each group is
found once, and in the order of the source; and so are all landmarks.

Results:
1. `Tree.IsFoundAt.unique`: a group is known by its bytes.
2. `Outline.exists_isFoundAt`, `Outline.mem_runsOf_of_isFoundAt`: what is found are the groups that are reached.
3. `isLowering_of_allFollowGrammar`: which texts are found in a source, and in which order; and so of all landmarks.
-/

namespace Phrasebook.Source

/-! ## 1. Where texts are found -/

namespace Tree

variable {passes : Kind → Bool} {place q : Nat} {t s : Tree} {ts : List Tree} {address : List Nat} {run : Run}

theorem Stands.append {p : Nat} {root : Tree} {rest : List Nat} (h : Stands passes place ts address p root)
    (h' : Stands passes p [root] (0 :: rest) q s) : Stands passes place ts (address ++ rest) q s := by
  induction h with
  | here place t ts =>
    cases h' with
    | here => exact .here _ _ _
    | inside hk h' => exact .inside hk h'
  | later _ ih => exact .later (ih h')
  | inside hk _ ih => exact .inside hk (ih h')

/-- The part of a row that comes after another part of it. -/
theorem stands_append_cons (passes : Kind → Bool) (place : Nat) (before after : List Tree) (t : Tree) :
    Stands passes place (before ++ t :: after) [before.length] (place + sizeOf before) t := by
  induction before generalizing place with
  | nil => exact .here _ _ _
  | cons u before ih =>
    have hnext := ih (place + u.size)
    rw [Nat.add_assoc, ← sizeOf] at hnext
    exact .later hnext

/-- What stands in trees that follow the grammar follows it as well. -/
theorem Stands.followsGrammar (h : Stands passes place ts address q s) (hfollow : allFollowGrammar ts = true) :
    s.followsGrammar = true := by
  induction h with
  | here place t ts =>
    rw [allFollowGrammar, Bool.and_eq_true] at hfollow
    exact hfollow.1
  | later _ ih =>
    rw [allFollowGrammar, Bool.and_eq_true] at hfollow
    exact ih hfollow.2
  | inside _ _ ih =>
    rw [allFollowGrammar, Bool.and_eq_true, Tree.followsGrammar, Bool.and_eq_true] at hfollow
    exact ih hfollow.1.2

/-- Nothing stands in a leaf. -/
theorem Stands.eq_nil_of_leaf {p : Nat} {r : Role} {k : Kind} {before text : List Char} {rest : List Nat}
    (h : Stands passes place ts address p (leaf r k before text)) (h' : Stands passes place ts (address ++ rest) q s) :
    rest = [] := by
  generalize hleaf : leaf r k before text = u at h
  induction h with
  | here place t ts =>
    subst hleaf
    cases h' with
    | here => rfl
  | later _ ih =>
    cases h' with
    | later h' => exact ih h' hleaf
  | inside _ hin ih =>
    obtain ⟨i, tail, rfl⟩ := List.exists_cons_of_ne_nil hin.ne_nil
    cases h' with
    | inside _ h' => exact ih h' hleaf

/-- No part of a text is empty. -/
theorem ne_nil_of_followsGrammar {r : Role} {k : Kind} {before text : List Char}
    (h : (leaf r k before text).followsGrammar = true) (hpart : (leaf r k before text).isPart = true) : text ≠ [] := by
  rw [isPart, isSome_textPart?_leaf, Bool.or_eq_true, beq_iff_eq, beq_iff_eq] at hpart
  rintro rfl
  rcases hpart with rfl | rfl <;> exact absurd h (by simp [followsGrammar])

/-- There is markup in which a tree stands, or which it is, and there is no import statement around that. -/
def IsReached (place : Nat) (ts : List Tree) (address : List Nat) (q : Nat) (s : Tree) : Prop :=
  ∃ outer p root rest, Stands (· != .importStatement) place ts outer p root ∧ root.isElement = true ∧
    Stands (fun _ => true) p [root] (0 :: rest) q s ∧ address = outer ++ rest

/-- A text is that of a group in an element that is reached; the first part of the group has the address. -/
def IsFoundAt (place : Nat) (ts : List Tree) (address : List Nat) (run : Run) : Prop :=
  ∃ element q r cs, IsReached place ts element q (.node r .element cs) ∧
    ∃ g : Group cs, run = g.run q ∧ address = element ++ [g.before.length]

theorem IsReached.stands (h : IsReached place ts address q s) : Stands (fun _ => true) place ts address q s := by
  obtain ⟨outer, p, root, rest, hroot, -, hin, rfl⟩ := h
  exact (hroot.mono fun _ _ => rfl).append hin

/-- The first part of a text that is found holds its first byte. -/
theorem IsFoundAt.exists_leaf (h : IsFoundAt place ts address run) (hfollow : allFollowGrammar ts = true) :
    run.1 ≠ [] ∧ ∃ q r k before text, Stands (fun _ => true) place ts address q (leaf r k before text) ∧
      q ≤ run.2.start ∧ run.2.start < q + (leaf r k before text).size := by
  obtain ⟨element, p, r, cs, hreached, g, rfl, rfl⟩ := h
  obtain ⟨t, parts, hparts⟩ := List.exists_cons_of_ne_nil g.ne_nil
  have hpart := g.areParts t (hparts ▸ List.mem_cons_self)
  obtain ⟨r', k, before, text, rfl, -⟩ := exists_leaf_of_isPart hpart
  have hchild : Stands (fun _ => true) p [node r .element cs] (0 :: [g.before.length]) (p + sizeOf g.before)
      (leaf r' k before text) := by
    refine .inside rfl ?_
    have hstands := stands_append_cons (fun _ => true) p g.before (parts ++ g.after) (leaf r' k before text)
    rwa [← List.cons_append, ← hparts, ← List.append_assoc, ← g.splits] at hstands
  have hstands := hreached.stands.append hchild
  have htext := ne_nil_of_followsGrammar (hstands.followsGrammar hfollow) hpart
  have hwidth := width_pos htext
  rw [Group.run, hparts, Outline.groupRun_leaf_cons]
  refine ⟨fun hnil => htext (List.append_eq_nil_iff.mp hnil).1, _, r', k, before, text, hstands, ?_⟩
  rw [size]
  dsimp only
  omega

/-- A text is found in one place. -/
theorem IsFoundAt.unique {address' : List Nat} (h : IsFoundAt place ts address run) (h' : IsFoundAt place ts address' run)
    (hfollow : allFollowGrammar ts = true) : address = address' := by
  obtain ⟨-, q, r, k, before, text, hstands, hstart, hstop⟩ := h.exists_leaf hfollow
  obtain ⟨-, q', r', k', before', text', hstands', hstart', hstop'⟩ := h'.exists_leaf hfollow
  rcases lt_trichotomy address address' with hlt | heq | hlt
  · rcases hstands.apart hstands' hlt with ⟨rest, rfl⟩ | hends
    · rw [hstands.eq_nil_of_leaf hstands', List.append_nil]
    · omega
  · exact heq
  · rcases hstands'.apart hstands hlt with ⟨rest, rfl⟩ | hends
    · rw [hstands'.eq_nil_of_leaf hstands, List.append_nil]
    · omega

end Tree

namespace Outline

open Phrasebook.Source.Tree

variable {place q : Nat} {s : Tree} {ts : List Tree} {address : List Nat} {run : Run}

/-- Around an element that is reached there is an outermost one. -/
theorem exists_outermost (h : Stands (· != .importStatement) place ts address q s) (hs : s.isElement = true) :
    ∃ outer p root rest, Stands isOpen place ts outer p root ∧ root.isElement = true ∧
      Stands (fun _ => true) p [root] (0 :: rest) q s ∧ address = outer ++ rest := by
  induction h with
  | here place t ts => exact ⟨_, _, _, _, .here _ _ _, hs, .here _ _ _, rfl⟩
  | later _ ih =>
    obtain ⟨outer, p, root, rest, hroot, helement, hin, heq⟩ := ih hs
    obtain ⟨i, tail, rfl⟩ := List.exists_cons_of_ne_nil hroot.ne_nil
    obtain ⟨rfl, rfl⟩ := List.cons.inj heq
    exact ⟨_, _, _, _, .later hroot, helement, hin, rfl⟩
  | @inside place r k cs ts address q s hk hin ih =>
    by_cases helement : (k == .element || k == .selfClosing) = true
    · exact ⟨[0], place, node r k cs, address, .here _ _ _, helement, .inside rfl (hin.mono fun _ _ => rfl), rfl⟩
    · obtain ⟨outer, p, root, rest, hroot, hrootElement, hstands, rfl⟩ := ih hs
      have hopen : isOpen k = true := by
        rw [Bool.or_eq_true, not_or] at helement
        rw [isOpen, bne, bne, Bool.eq_false_iff.mpr helement.1, Bool.eq_false_iff.mpr helement.2]
        exact hk
      exact ⟨_, _, _, _, .inside hopen hroot, hrootElement, hstands, rfl⟩

/-- What an outermost element tells are its texts; nothing else tells of any. -/
theorem mem_runsOf_ownLandmarks {t : Tree} :
    run ∈ Markup.runsOf (rootsOf (ownLandmarks place t)) ↔ t.isElement = true ∧ run ∈ Markup.runsOf (elementsOf place t) := by
  cases t with
  | leaf r k before text => simp [ownLandmarks, rootsOf, elementsOf, Markup.runsOf]
  | node r k cs =>
    rw [ownLandmarks, Tree.isElement, Tree.kind]
    split
    · rename_i helement
      rw [rootsOf_markup, and_iff_right helement]
    · rename_i helement
      rw [rootsOf_ofConstruct]
      exact ⟨fun h => absurd h List.not_mem_nil, fun h => absurd h.1 helement⟩

/-- The texts among landmarks are those of the outermost elements. -/
theorem mem_runsOf_rootsOf :
    run ∈ Markup.runsOf (rootsOf (landmarksOfAll place ts)) ↔
      ∃ outer p root, Stands isOpen place ts outer p root ∧ root.isElement = true ∧
        run ∈ Markup.runsOf (elementsOf p root) := by
  have hnodes : run ∈ Markup.runsOf (rootsOf (landmarksOfAll place ts)) ↔
      ∃ n ∈ nodesFrom isOpen place 0 ts, run ∈ Markup.runsOf (rootsOf (ownLandmarks n.2.1 n.2.2)) := by
    rw [landmarksOfAll_eq place 0 ts]
    induction nodesFrom isOpen place 0 ts with
    | nil => simp [rootsOf, Markup.runsOf]
    | cons n ns ih => rw [List.flatMap_cons, rootsOf_append, Markup.runsOf_append, List.mem_append, ih,
      List.exists_mem_cons_iff]
  rw [hnodes]
  constructor
  · rintro ⟨⟨outer, p, root⟩, hmem, hrun⟩
    exact ⟨outer, p, root, mem_nodesFrom_zero.mp hmem, mem_runsOf_ownLandmarks.mp hrun⟩
  · rintro ⟨outer, p, root, hroot, hrun⟩
    exact ⟨(outer, p, root), mem_nodesFrom_zero.mpr hroot, mem_runsOf_ownLandmarks.mpr hrun⟩

/-- Every text of a source is found in its trees. -/
theorem exists_isFoundAt (h : run ∈ Markup.runsOf (rootsOf (landmarksOfAll place ts))) :
    ∃ address, IsFoundAt place ts address run := by
  obtain ⟨outer, p, root, hroot, helement, hrun⟩ := mem_runsOf_rootsOf.mp h
  obtain ⟨inner, q, r, cs, hin, g, hg⟩ := hasGroup_of_mem_elementsOf p root run hrun
  have houter : Stands (· != .importStatement) place ts outer p root := by
    refine hroot.mono fun k hk => ?_
    rw [isOpen, Bool.and_eq_true] at hk
    exact hk.2
  obtain ⟨rest, rfl⟩ : ∃ rest, inner = 0 :: rest := by
    cases hin with
    | here => exact ⟨_, rfl⟩
    | inside => exact ⟨_, rfl⟩
    | later hin => cases hin
  exact ⟨_, _, q, r, cs, ⟨outer, p, root, rest, houter, helement, hin, rfl⟩, g, hg, rfl⟩

/-- Where trees follow the grammar, every text that is found in them is one of the source. -/
theorem mem_runsOf_of_isFoundAt (hfollow : allFollowGrammar ts = true) (h : IsFoundAt place ts address run) :
    run ∈ Markup.runsOf (rootsOf (landmarksOfAll place ts)) := by
  obtain ⟨element, q, r, cs, ⟨outer, p, root, rest, hroot, helement, hin, rfl⟩, g, hg, rfl⟩ := h
  obtain ⟨outermost, p', root', rest', hroot', helement', hin', rfl⟩ := exists_outermost hroot helement
  have hgroup : HasGroup p' [root'] run := ⟨_, q, r, cs, hin'.append hin, g, hg⟩
  exact mem_runsOf_rootsOf.mpr
    ⟨outermost, p', root', hroot', helement', (mem_runsOf_elementsOf (hroot'.followsGrammar hfollow)).mpr hgroup⟩

/-! ## 2. All landmarks -/

/-- What the landmarks of a source must be, so that no text of its trees is lost or listed twice. -/
structure IsLowering (place : Nat) (ts : List Tree) (landmarks : List Landmark) : Prop where
  /-- Each text is that of one group in an element that is reached. -/
  isFound : ∀ run ∈ (placedTexts landmarks).map PlacedText.run, ∃! address, IsFoundAt place ts address run
  /-- Each such group is a text. -/
  isListed : ∀ address run, IsFoundAt place ts address run → run ∈ (placedTexts landmarks).map PlacedText.run
  /-- Each text comes before the next one in the source. -/
  inSourceOrder : ((placedTexts landmarks).map PlacedText.run).Pairwise fun a b =>
    a.2.start < b.2.start ∧ a.2.stop ≤ b.2.start
  /-- The landmarks are what constructs and outermost elements give, in the order of the document. -/
  inDocumentOrder : ∃ nodes : List Placed, (nodes.Pairwise fun a b => a.1 < b.1) ∧
    (∀ address q s, (address, q, s) ∈ nodes ↔ Stands isOpen place ts address q s) ∧
    landmarks = nodes.flatMap fun n => ownLandmarks n.2.1 n.2.2

/-- Texts that are not empty and stand one after the other start one after the other. -/
theorem pairwise_of_occur {cs : List Char} {runs : List Run} (h : Occur place cs runs) (hne : ∀ run ∈ runs, run.1 ≠ []) :
    (∀ run ∈ runs, place ≤ run.2.start) ∧ runs.Pairwise fun a b => a.2.start < b.2.start ∧ a.2.stop ≤ b.2.start := by
  induction runs generalizing place cs with
  | nil => exact ⟨fun _ hrun => absurd hrun List.not_mem_nil, List.Pairwise.nil⟩
  | cons run rest ih =>
    obtain ⟨before, after, -, hspan, hrest⟩ := h
    obtain ⟨hrun, hmore⟩ := List.forall_mem_cons.mp hne
    obtain ⟨hstarts, hpairwise⟩ := ih hrest hmore
    have hwidth := width_pos hrun
    rw [List.forall_mem_cons, List.pairwise_cons, hspan]
    refine ⟨⟨Nat.le_add_right place _, fun other hother => ?_⟩, fun other hother => ?_, hpairwise⟩
    · have hother := hstarts other hother
      omega
    · have hother := hstarts other hother
      dsimp only
      omega

/-- The landmarks of trees that follow the grammar lose no text and list none twice. -/
theorem isLowering_of_allFollowGrammar (place : Nat) {ts : List Tree} (hfollow : allFollowGrammar ts = true) :
    IsLowering place ts (landmarksOfAll place ts) := by
  have hunique {run : Run} (h : run ∈ (placedTexts (landmarksOfAll place ts)).map PlacedText.run) :
      ∃! address, IsFoundAt place ts address run := by
    rw [map_run_placedTexts] at h
    obtain ⟨address, hfound⟩ := exists_isFoundAt h
    exact ⟨address, hfound, fun _ hother => hother.unique hfound hfollow⟩
  refine ⟨fun run h => hunique h, fun address run h => ?_, ?_, nodesFrom isOpen place 0 ts, pairwise_nodesFrom place 0 ts,
    fun _ _ _ => mem_nodesFrom_zero, landmarksOfAll_eq place 0 ts⟩
  · rw [map_run_placedTexts]
    exact mem_runsOf_of_isFoundAt hfollow h
  · have hoccur := occur_landmarksOfAll place ts
    rw [← map_run_placedTexts] at hoccur
    refine (pairwise_of_occur hoccur fun run hrun => ?_).2
    obtain ⟨address, hfound, -⟩ := hunique hrun
    exact (hfound.exists_leaf hfollow).1

end Outline

/-! An element with an element in an attribute of its tag; and an element in an import, of which there is nothing. -/

open Phrasebook.Source.Tree Outline

namespace Sample

def word (text : String) : Tree := .leaf .plain .token [] text.toList

def spaced (text : String) : Tree := .leaf .plain .token [' '] text.toList

def name (role : Role) (text : String) : Tree := .leaf role .identifier [] text.toList

/-- An element with a text and what else stands in its opening tag. -/
def element (tag text : String) (attributes : List Tree) : Tree :=
  .node .plain .element
    [.node .plain .opening ([word "<", name .name tag] ++ attributes ++ [word ">"]),
      .leaf .plain .text [] text.toList,
      .node .plain .phrase [word "</", name .plain tag, word ">"]]

def titled : List Tree :=
  [.node .plain .expressionStatement
    [element "p" "Yo"
      [.node .plain .attribute (.leaf .plain .identifier [' '] "title".toList :: word "=" ::
        [.node .plain .embed [word "\x7b", element "b" "Hi" [], word "\x7d"]])]]]

/-- The trees of `import x from 'y' with {a:<p>Hi</p>};`. -/
def importing : List Tree :=
  [.node .plain .importStatement
    [word "import", .node .plain .importClause [.leaf .plain .identifier [' '] "x".toList], spaced "from",
      .leaf .source .string [' '] "'y'".toList, spaced "with",
      .node .plain .phrase
        [spaced "\x7b", .node .plain .phrase [name .plain "a", word ":", element "p" "Hi" []], word "\x7d"],
      word ";"]]

/-- The text of an element that has no other is a group. -/
theorem exists_group_element (tag text : String) (attributes : List Tree) (place : Nat) :
    ∃ g : Group (element tag text attributes).children,
      g.run place = groupRun (place + Tree.sizeOf ((element tag text attributes).children.take 1))
        [.leaf .plain .text [] text.toList] :=
  ⟨⟨[_], [_], [_], rfl, by simp, by simp [Tree.isPart, textPart?], by simp [Tree.isPart, textPart?],
    by simp [Tree.isPart, textPart?]⟩, rfl⟩

end Sample

open Sample in
theorem isLowering_titled :
    allFollowGrammar titled = true ∧
      (placedTexts (landmarksOfAll 0 titled)).map PlacedText.run =
        [("Hi".toList, ⟨13, 15⟩), ("Yo".toList, ⟨21, 23⟩)] ∧
      IsLowering 0 titled (landmarksOfAll 0 titled) :=
  have hfollow : allFollowGrammar titled = true := by decide
  ⟨hfollow, by decide, isLowering_of_allFollowGrammar 0 hfollow⟩

open Sample in
theorem hasGroup_importing :
    Tree.charsOf importing = "import x from 'y' with \x7ba:<p>Hi</p>\x7d;".toList ∧ allFollowGrammar importing = true ∧
      HasGroup 0 importing ("Hi".toList, ⟨29, 31⟩) ∧ placedTexts (landmarksOfAll 0 importing) = [] ∧
      (Rewrite.rewrite Settings.standard "a.jsx" (String.ofList (Tree.charsOf importing))).toOption.map (·.records.length) =
        some 0 := by
  have hproperty : Stands (fun _ => true) 24 [name .plain "a", word ":", element "p" "Hi" []] [2] 26 (element "p" "Hi" []) :=
    .later (.later (.here _ _ _))
  have hstands : Stands (fun _ => true) 0 importing [0, 5, 1, 2] 26 (element "p" "Hi" []) :=
    .inside rfl (.later (.later (.later (.later (.later (.inside rfl (.later (.inside rfl hproperty))))))))
  obtain ⟨g, hg⟩ := exists_group_element "p" "Hi" [] 26
  exact ⟨by decide, by decide, ⟨_, _, _, _, hstands, g, hg ▸ by decide⟩, by decide, by decide +kernel⟩

end Phrasebook.Source
