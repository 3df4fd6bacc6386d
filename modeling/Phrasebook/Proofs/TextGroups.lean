import Phrasebook.Proofs.Places

/-!
# Texts as groups of parts

In the trees of a source a text is a longest group of literal texts and references that stand side by side in an element.
The markup of a tree is made by several functions that hand over to each other: at each element, at its tags, at each
expression in it, and at each part of a text, which goes on with the run before it. Where trees follow the grammar of
markup, these functions together find the groups of all elements, however deep they are in others, in attributes or in
expressions, and they find nothing else.

Results:
1. `exists_group_append_cons`: the groups of a row are those before and those after what is no text.
2. `hasGroup_node`: the groups in a node are its own and those of the elements in it.
3. `mem_runsOf_elementsOf`: the texts in a tree are the groups of its elements.
-/

namespace Phrasebook.Source

namespace Tree

/-! ## 1. Groups of a row -/

/-- Whether a tree is a part of a text: literal text or a reference. -/
def isPart (t : Tree) : Bool := t.textPart?.isSome

/-- The text of some parts that start at a place: their characters without the blanks before them. -/
def groupRun (place : Nat) (parts : List Tree) : Run :=
  ((charsOf parts).drop (leadOf parts).length, ⟨place + width (leadOf parts), place + sizeOf parts⟩)

/-- A longest group of parts that stand side by side in a row. -/
structure Group (row : List Tree) where
  before : List Tree
  parts : List Tree
  after : List Tree
  splits : row = before ++ parts ++ after
  ne_nil : parts ≠ []
  areParts : ∀ t ∈ parts, t.isPart = true
  starts : ∀ t, before.getLast? = some t → t.isPart = false
  stops : ∀ t, after.head? = some t → t.isPart = false

/-- The text of a group in a row that starts at a place. -/
def Group.run {row : List Tree} (g : Group row) (place : Nat) : Run := groupRun (place + sizeOf g.before) g.parts

variable {place : Nat} {t : Tree} {parts row : List Tree} {run : Run}

theorem exists_leaf_of_isPart (h : t.isPart = true) :
    ∃ r k before text, t = leaf r k before text ∧ t.textPart? = some (before, text) := by
  cases t with
  | leaf r k before text =>
    refine ⟨r, k, before, text, rfl, ?_⟩
    cases k <;> first | rfl | exact absurd h (by simp [isPart, textPart?])
  | node r k cs => exact absurd h (by simp [isPart, textPart?])

/-- Parts are all that a row goes on with until something else comes. -/
theorem takeWhile_append_of_areParts (h : ∀ t ∈ parts, t.isPart = true) (hrow : ∀ t, row.head? = some t → t.isPart = false) :
    (parts ++ row).takeWhile isPart = parts := by
  rw [List.takeWhile_append_of_pos h]
  cases row with
  | nil => rw [List.takeWhile_nil, List.append_nil]
  | cons t row => rw [List.takeWhile_cons_of_neg (by simp [hrow t rfl]), List.append_nil]

/-- There is no group in an empty row. -/
theorem not_exists_group_nil : ¬ ∃ g : Group [], run = g.run place := by
  rintro ⟨g, -⟩
  have hsplits := g.splits
  rw [eq_comm, List.append_eq_nil_iff, List.append_eq_nil_iff] at hsplits
  exact g.ne_nil hsplits.1.2

/-- All of a row that is made of parts is one group. -/
theorem exists_group_of_areParts (h : ∀ t ∈ parts, t.isPart = true) :
    (∃ g : Group parts, run = g.run place) ↔ parts ≠ [] ∧ run = groupRun place parts := by
  constructor
  · rintro ⟨⟨before, found, after, hsplits, hne, -, hstarts, hstops⟩, rfl⟩
    have hbefore : before = [] := by
      cases hlast : before.getLast? with
      | none => exact List.getLast?_eq_none_iff.mp hlast
      | some u =>
        have hmem : u ∈ parts := hsplits ▸ by simp [List.mem_of_getLast? hlast]
        exact absurd (h u hmem) (by simp [hstarts u hlast])
    have hafter : after = [] := by
      cases hhead : after.head? with
      | none => exact List.head?_eq_none_iff.mp hhead
      | some u =>
        have hmem : u ∈ parts := hsplits ▸ by simp [List.mem_of_head? hhead]
        exact absurd (h u hmem) (by simp [hstops u hhead])
    subst hbefore hafter
    rw [List.nil_append, List.append_nil] at hsplits
    subst hsplits
    exact ⟨hne, rfl⟩
  · rintro ⟨hne, rfl⟩
    exact ⟨⟨[], parts, [], by simp, hne, h, by simp, by simp⟩, rfl⟩

/-- The groups of a row are the parts that it starts with, if there are any, and the groups after the next other tree. -/
theorem exists_group_append_cons (hparts : ∀ t ∈ parts, t.isPart = true) (ht : t.isPart = false) :
    (∃ g : Group (parts ++ t :: row), run = g.run place) ↔
      (parts ≠ [] ∧ run = groupRun place parts) ∨ ∃ g : Group row, run = g.run (place + sizeOf parts + t.size) := by
  constructor
  · rintro ⟨⟨before, found, after, hsplits, hne, hfound, hstarts, hstops⟩, rfl⟩
    rw [List.append_assoc] at hsplits
    rcases List.append_eq_append_iff.mp hsplits with ⟨more, rfl, hrest⟩ | ⟨more, rfl, hrest⟩
    · right
      cases more with
      | nil =>
        obtain ⟨u, us, rfl⟩ := List.exists_cons_of_ne_nil hne
        obtain ⟨rfl, -⟩ := List.cons.inj hrest
        exact absurd (hfound t List.mem_cons_self) (by simp [ht])
      | cons u more =>
        obtain ⟨rfl, rfl⟩ := List.cons.inj hrest
        refine ⟨⟨more, found, after, (List.append_assoc ..).symm, hne, hfound, fun v hv => hstarts v ?_, hstops⟩, ?_⟩
        · rw [List.getLast?_append, List.getLast?_cons, hv]
          rfl
        · rw [Group.run, Group.run]
          dsimp only
          rw [sizeOf_append, sizeOf, Nat.add_assoc, Nat.add_assoc]
    · left
      have hbefore : before = [] := by
        cases hlast : before.getLast? with
        | none => exact List.getLast?_eq_none_iff.mp hlast
        | some u =>
          have hu := hparts u (List.mem_append_left more (List.mem_of_getLast? hlast))
          exact absurd hu (by simp [hstarts u hlast])
      subst hbefore
      have hall : found = more := by
        have hhead : ∀ u, (t :: row).head? = some u → u.isPart = false := fun u hu => Option.some.inj hu ▸ ht
        have htake := congrArg (List.takeWhile isPart) hrest
        rw [List.nil_append] at hparts
        rwa [takeWhile_append_of_areParts hfound hstops, takeWhile_append_of_areParts hparts hhead] at htake
      subst hall
      exact ⟨hne, rfl⟩
  · rintro (⟨hne, rfl⟩ | ⟨⟨before, found, after, rfl, hne, hfound, hstarts, hstops⟩, rfl⟩)
    · refine ⟨⟨[], parts, t :: row, rfl, hne, hparts, by simp, ?_⟩, rfl⟩
      rintro u hu
      rw [List.head?_cons, Option.some.injEq] at hu
      exact hu ▸ ht
    · refine ⟨⟨parts ++ t :: before, found, after, by simp, hne, hfound, ?_, hstops⟩, ?_⟩
      · intro u hu
        rw [List.getLast?_append, List.getLast?_cons] at hu
        cases hlast : before.getLast? with
        | none =>
          rw [hlast] at hu
          exact Option.some.inj hu ▸ ht
        | some v =>
          rw [hlast] at hu
          exact Option.some.inj hu ▸ hstarts v hlast
      · rw [Group.run, Group.run]
        dsimp only
        rw [sizeOf_append, sizeOf, Nat.add_assoc, Nat.add_assoc]

/-! ## 2. Groups anywhere in a row -/

/-- A text is that of a group in one of the elements that stand in a row. -/
def HasGroup (place : Nat) (ts : List Tree) (run : Run) : Prop :=
  ∃ address q r cs, Stands (fun _ => true) place ts address q (.node r .element cs) ∧ ∃ g : Group cs, run = g.run q

theorem not_hasGroup_nil : ¬ HasGroup place [] run := by
  rintro ⟨address, q, r, cs, h, -⟩
  cases h

theorem hasGroup_cons {ts : List Tree} :
    HasGroup place (t :: ts) run ↔ HasGroup place [t] run ∨ HasGroup (place + t.size) ts run := by
  constructor
  · rintro ⟨address, q, r, cs, h, hgroup⟩
    cases h with
    | here => exact .inl ⟨_, _, _, _, .here _ _ _, hgroup⟩
    | inside hk h => exact .inl ⟨_, _, _, _, .inside hk h, hgroup⟩
    | later h => exact .inr ⟨_, _, _, _, h, hgroup⟩
  · rintro (⟨address, q, r, cs, h, hgroup⟩ | ⟨address, q, r, cs, h, hgroup⟩)
    · cases h with
      | here => exact ⟨_, _, _, _, .here _ _ _, hgroup⟩
      | inside hk h => exact ⟨_, _, _, _, .inside hk h, hgroup⟩
      | later h => cases h
    · obtain ⟨i, rest, rfl⟩ := List.exists_cons_of_ne_nil h.ne_nil
      exact ⟨_, _, _, _, .later h, hgroup⟩

theorem not_hasGroup_leaf {r : Role} {k : Kind} {before text : List Char} :
    ¬ HasGroup place [leaf r k before text] run := by
  rintro ⟨address, q, r, cs, h, -⟩
  cases h with
  | later h => cases h

/-- The texts of a node are those of its own groups, if it is an element, and those of the elements in it. -/
theorem hasGroup_node {r : Role} {k : Kind} {cs : List Tree} :
    HasGroup place [node r k cs] run ↔ (k = .element ∧ ∃ g : Group cs, run = g.run place) ∨ HasGroup place cs run := by
  constructor
  · rintro ⟨address, q, r, cs, h, hgroup⟩
    cases h with
    | here => exact .inl ⟨rfl, hgroup⟩
    | inside hk h => exact .inr ⟨_, _, _, _, h, hgroup⟩
    | later h => cases h
  · rintro (⟨rfl, hgroup⟩ | ⟨address, q, r, cs, h, hgroup⟩)
    · exact ⟨_, _, _, _, .here _ _ _, hgroup⟩
    · exact ⟨_, _, _, _, .inside rfl h, hgroup⟩

mutual
theorem not_hasGroup_of_isMarkupFree (place : Nat) (t : Tree) (run : Run) (h : t.isMarkupFree = true) :
    ¬ HasGroup place [t] run := by
  cases t with
  | leaf r k before text => exact not_hasGroup_leaf
  | node r k cs =>
    rw [isMarkupFree, Bool.and_eq_true, Bool.and_eq_true, bne_iff_ne] at h
    rw [hasGroup_node]
    rintro (⟨hk, -⟩ | hcs)
    · exact h.1.1 hk
    · exact not_hasGroup_of_areMarkupFree place cs run h.2 hcs
theorem not_hasGroup_of_areMarkupFree (place : Nat) (ts : List Tree) (run : Run) (h : areMarkupFree ts = true) :
    ¬ HasGroup place ts run := by
  cases ts with
  | nil => exact not_hasGroup_nil
  | cons t ts =>
    rw [areMarkupFree, Bool.and_eq_true] at h
    rw [hasGroup_cons]
    rintro (ht | hts)
    · exact not_hasGroup_of_isMarkupFree place t run h.1 ht
    · exact not_hasGroup_of_areMarkupFree _ ts run h.2 hts
end

/-! ## 3. Trees that follow the grammar -/

/-- Whether a tree may stand in a tag: what is no attribute and no expression holds no element. -/
def isInTag : Tree → Bool
  | node _ .attribute _ => true
  | node _ .embed _ => true
  | t => t.isMarkupFree

/-- Whether a tree that stands in an element is its closing tag. -/
def isClosing : Tree → Bool
  | node _ .phrase _ => true
  | _ => false

/-- Whether a tree may stand between the tags of an element: texts, references, expressions and elements may. -/
def isContent : Tree → Bool
  | leaf _ _ _ _ => true
  | node _ k _ => k == .embed || k == .element || k == .selfClosing

/-- Whether a row is what may stand after the opening tag of an element, with the closing tag at its end. -/
def closesElement : List Tree → Bool
  | [] => false
  | t :: ts => if t.isClosing then t.isMarkupFree && ts.isEmpty else t.isContent && closesElement ts

/-- Whether a row is what a construct of a kind may be made of. -/
def isRowOf : Kind → List Tree → Bool
  | .element, node _ .opening _ :: rest => closesElement rest
  | .element, _ => false
  | .opening, cs => cs.all isInTag
  | .selfClosing, cs => cs.all isInTag
  | _, _ => true

mutual
/-- Whether a tree follows the grammar of markup: no text in it is empty, an element has its tags around its contents, and
a tag holds elements only in its attributes and expressions. -/
def followsGrammar : Tree → Bool
  | leaf _ k _ text => (k != .text && k != .reference) || !text.isEmpty
  | node _ k cs => isRowOf k cs && allFollowGrammar cs
/-- Whether all trees of a row follow the grammar of markup. -/
def allFollowGrammar : List Tree → Bool
  | [] => true
  | t :: ts => followsGrammar t && allFollowGrammar ts
end

end Tree

/-! ## 4. Texts of elements -/

namespace Outline

open Phrasebook.Source.Tree

variable {place : Nat} {t : Tree} {parts row : List Tree} {run : Run}

def runAfter (place : Nat) (parts : List Tree) : OpenRun :=
  if parts.isEmpty then none else some ((groupRun place parts).2.start, (groupRun place parts).1)

theorem groupRun_leaf_cons (place : Nat) (r : Role) (k : Kind) (before text : List Char) (parts : List Tree) :
    groupRun place (leaf r k before text :: parts) =
      (text ++ charsOf parts, ⟨place + width before, place + width before + width (text ++ charsOf parts)⟩) := by
  rw [groupRun, charsOf, chars, leadOf, lead, Tree.sizeOf, size, List.append_assoc, List.drop_left, width_append,
    ← Tree.sizeOf_eq, Nat.add_assoc, Nat.add_assoc]

/-- A run that parts leave open goes on with the next part. -/
theorem runAfter_concat (place : Nat) (h : ∀ t ∈ parts, t.isPart = true) (r : Role) (k : Kind) (before text : List Char) :
    (runAfter place parts).extend (place + Tree.sizeOf parts) before text = runAfter place (parts ++ [leaf r k before text]) := by
  cases parts with
  | nil =>
    rw [runAfter, runAfter, List.nil_append, groupRun_leaf_cons]
    simp [OpenRun.extend, Tree.sizeOf, charsOf]
  | cons u us =>
    obtain ⟨r', k', before', text', rfl, -⟩ := exists_leaf_of_isPart (h u List.mem_cons_self)
    rw [runAfter, runAfter, List.cons_append, groupRun_leaf_cons, groupRun_leaf_cons, charsOf_append]
    simp [OpenRun.extend, charsOf, chars]

theorem place_concat (place : Nat) (parts : List Tree) (r : Role) (k : Kind) (before text : List Char) :
    place + Tree.sizeOf parts + width before + width text = place + Tree.sizeOf (parts ++ [leaf r k before text]) := by
  rw [sizeOf_append, Tree.sizeOf, Tree.sizeOf, size]
  omega

/-- The text of an open run is that of its parts. -/
theorem mem_runsOf_close (h : ∀ t ∈ parts, t.isPart = true) :
    run ∈ Markup.runsOf (runAfter place parts).close ↔ parts ≠ [] ∧ run = groupRun place parts := by
  cases parts with
  | nil => simp [runAfter, OpenRun.close, Markup.runsOf]
  | cons u us =>
    obtain ⟨r, k, before, text, rfl, -⟩ := exists_leaf_of_isPart (h u List.mem_cons_self)
    rw [runAfter, groupRun_leaf_cons]
    simp [OpenRun.close, Markup.runsOf, Markup.runs]

/-- Nothing that comes after the closing tag belongs to an element. -/
theorem contentsOf_of_isClosing (h : t.isClosing = true) (place : Nat) (ts : List Tree) :
    contentsOf place none (t :: ts) = [] := by
  unfold isClosing at h
  split at h
  · rw [contentsOf]
    rfl
  · cases h

/-- What is no part of a text and no closing tag adds its elements. -/
theorem runsOf_contentsOf_cons (hpart : t.isPart = false) (hclosing : t.isClosing = false) (place : Nat) (ts : List Tree) :
    Markup.runsOf (contentsOf place none (t :: ts)) =
      Markup.runsOf (elementsOf place t) ++ Markup.runsOf (contentsOf (place + t.size) none ts) := by
  rw [contentsOf.eq_def]
  split
  · rename_i heq
    cases heq
  · rename_i heq
    cases heq
    cases hpart
  · rename_i heq
    cases heq
    cases hpart
  · rename_i r cs ts' heq
    obtain ⟨rfl, rfl⟩ := List.cons.inj heq
    rw [Markup.runsOf_append, Markup.runsOf_append, Markup.runsOf_embedOf]
    rfl
  · rename_i heq
    cases heq
    cases hclosing
  · rename_i heq
    obtain ⟨rfl, rfl⟩ := List.cons.inj heq
    rw [Markup.runsOf_append, Markup.runsOf_append]
    rfl

mutual
/-- The texts in the elements of a tree are texts of groups. -/
theorem hasGroup_of_mem_elementsOf (place : Nat) (t : Tree) (run : Run) (h : run ∈ Markup.runsOf (elementsOf place t)) :
    HasGroup place [t] run := by
  rw [elementsOf.eq_def] at h
  split at h
  · cases h
  · rename_i cs
    rw [Markup.runsOf_singleton, Markup.runs] at h
    exact hasGroup_node.mpr (.inr (hasGroup_of_mem_attributesOf place cs run h))
  · rename_i r ro front rest
    rw [Markup.runsOf_singleton, Markup.runs, Markup.runsOf_append, List.mem_append] at h
    rw [hasGroup_node, hasGroup_cons, hasGroup_node]
    rcases h with h | h
    · exact .inr (.inl (.inr (hasGroup_of_mem_attributesOf place front run h)))
    · rcases hasGroup_of_mem_contentsOf (place + Tree.sizeOf front) [] rest run (List.forall_mem_nil _) h with hgroup | hinner
      · exact .inl ⟨rfl, (exists_group_append_cons (List.forall_mem_nil _) rfl).mpr (.inr hgroup)⟩
      · exact .inr (.inr hinner)
  · rename_i r k cs _ _
    exact hasGroup_node.mpr (.inr (hasGroup_of_mem_elementsOfAll place cs run h))
theorem hasGroup_of_mem_elementsOfAll (place : Nat) (ts : List Tree) (run : Run)
    (h : run ∈ Markup.runsOf (elementsOfAll place ts)) : HasGroup place ts run := by
  match ts with
  | [] => cases h
  | t :: ts =>
    rw [elementsOfAll, Markup.runsOf_append, List.mem_append] at h
    exact hasGroup_cons.mpr (h.imp (hasGroup_of_mem_elementsOf place t run) (hasGroup_of_mem_elementsOfAll _ ts run))
theorem hasGroup_of_mem_attributesOf (place : Nat) (ts : List Tree) (run : Run)
    (h : run ∈ Markup.runsOf (attributesOf place ts)) : HasGroup place ts run := by
  match ts with
  | [] => cases h
  | t :: ts =>
    rw [hasGroup_cons]
    rcases attributesOf_cons_cases place t ts with heq | ⟨-, -, heq⟩
    · rw [heq, Markup.runsOf_append, Markup.runsOf_embedOf, List.mem_append] at h
      exact h.imp (hasGroup_of_mem_elementsOf place t run) (hasGroup_of_mem_attributesOf _ ts run)
    · rw [heq] at h
      exact .inr (hasGroup_of_mem_attributesOf _ ts run h)
theorem hasGroup_of_mem_contentsOf (place : Nat) (parts ts : List Tree) (run : Run) (hparts : ∀ t ∈ parts, t.isPart = true)
    (h : run ∈ Markup.runsOf (contentsOf (place + Tree.sizeOf parts) (runAfter place parts) ts)) :
    (∃ g : Group (parts ++ ts), run = g.run place) ∨ HasGroup (place + Tree.sizeOf parts) ts run := by
  match ts with
  | [] =>
    rw [contentsOf, mem_runsOf_close hparts] at h
    rw [List.append_nil]
    exact .inl ((exists_group_of_areParts hparts).mpr h)
  | t :: ts =>
    cases hpart : t.isPart with
    | true =>
      obtain ⟨r, k, before, text, rfl, htext⟩ := exists_leaf_of_isPart hpart
      have hmore : ∀ u ∈ parts ++ [leaf r k before text], u.isPart = true :=
        List.forall_mem_append.mpr ⟨hparts, List.forall_mem_singleton.mpr hpart⟩
      rw [contentsOf_cons_of_text htext, runAfter_concat place hparts r k before text, place_concat] at h
      have hnext := hasGroup_of_mem_contentsOf place (parts ++ [leaf r k before text]) ts run hmore h
      rw [List.append_assoc, List.singleton_append] at hnext
      refine hnext.imp_right fun hinner => hasGroup_cons.mpr (.inr ?_)
      rw [← place_concat, Nat.add_assoc _ (width before)] at hinner
      exact hinner
    | false =>
      have hother : t.textPart? = none := Option.isNone_iff_eq_none.mp (Option.isSome_eq_false_iff.mp hpart)
      rw [contentsOf_cons_of_other hother, Markup.runsOf_append, List.mem_append, mem_runsOf_close hparts] at h
      rw [exists_group_append_cons hparts hpart, hasGroup_cons]
      rcases h with h | h
      · exact .inl (.inl h)
      · cases hclosing : t.isClosing with
        | true =>
          rw [contentsOf_of_isClosing hclosing] at h
          cases h
        | false =>
          rw [runsOf_contentsOf_cons hpart hclosing, List.mem_append] at h
          rcases h with h | h
          · exact .inr (.inl (hasGroup_of_mem_elementsOf _ t run h))
          · have hnext := hasGroup_of_mem_contentsOf (place + Tree.sizeOf parts + t.size) [] ts run
              (List.forall_mem_nil _) h
            exact hnext.imp .inr .inr
end

theorem exists_opening_of_isRowOf {cs : List Tree} (h : isRowOf .element cs = true) :
    ∃ r front rest, cs = node r .opening front :: rest ∧ closesElement rest = true := by
  unfold isRowOf at h
  split at h
  · exact ⟨_, _, _, rfl, h⟩
  all_goals contradiction

mutual
/-- Where trees follow the grammar, the texts of all groups in a tree are texts in its elements. -/
theorem mem_elementsOf_of_hasGroup (place : Nat) (t : Tree) (run : Run) (hfollows : t.followsGrammar = true)
    (h : HasGroup place [t] run) : run ∈ Markup.runsOf (elementsOf place t) := by
  match t with
  | .leaf r k before text => exact absurd h not_hasGroup_leaf
  | .node r k cs =>
    rw [followsGrammar, Bool.and_eq_true] at hfollows
    obtain ⟨hrow, hall⟩ := hfollows
    rw [hasGroup_node] at h
    by_cases helement : k = .element
    · subst helement
      obtain ⟨ro, front, rest, rfl, hcloses⟩ := exists_opening_of_isRowOf hrow
      rw [allFollowGrammar, Bool.and_eq_true, followsGrammar, Bool.and_eq_true] at hall
      obtain ⟨⟨htag, hfront⟩, hrest⟩ := hall
      rw [elementsOf, Markup.runsOf_singleton, Markup.runs, Markup.runsOf_append, List.mem_append]
      rw [hasGroup_cons, hasGroup_node] at h
      rcases h with ⟨-, h⟩ | (⟨hkind, -⟩ | h) | h
      · rcases (exists_group_append_cons (List.forall_mem_nil _) rfl).mp h with ⟨hne, -⟩ | h
        · exact absurd rfl hne
        · exact .inr (mem_contentsOf_of_hasGroup _ [] rest run (List.forall_mem_nil _) hcloses hrest (.inl h))
      · cases hkind
      · exact .inl (mem_attributesOf_of_hasGroup place front run htag hfront h)
      · exact .inr (mem_contentsOf_of_hasGroup _ [] rest run (List.forall_mem_nil _) hcloses hrest (.inr h))
    · replace h := h.resolve_left fun h => helement h.1
      by_cases hself : k = .selfClosing
      · subst hself
        rw [elementsOf, Markup.runsOf_singleton, Markup.runs]
        exact mem_attributesOf_of_hasGroup place cs run hrow hall h
      · rw [elementsOf]
        · exact mem_elementsOfAll_of_hasGroup place cs run hall h
        · exact hself
        · exact fun _ _ _ h => absurd h helement
theorem mem_elementsOfAll_of_hasGroup (place : Nat) (ts : List Tree) (run : Run) (hfollow : allFollowGrammar ts = true)
    (h : HasGroup place ts run) : run ∈ Markup.runsOf (elementsOfAll place ts) := by
  match ts with
  | [] => exact absurd h not_hasGroup_nil
  | t :: ts =>
    rw [allFollowGrammar, Bool.and_eq_true] at hfollow
    rw [elementsOfAll, Markup.runsOf_append, List.mem_append]
    exact (hasGroup_cons.mp h).imp (mem_elementsOf_of_hasGroup place t run hfollow.1)
      (mem_elementsOfAll_of_hasGroup _ ts run hfollow.2)
theorem mem_attributesOf_of_hasGroup (place : Nat) (ts : List Tree) (run : Run) (htag : ts.all isInTag = true)
    (hfollow : allFollowGrammar ts = true) (h : HasGroup place ts run) : run ∈ Markup.runsOf (attributesOf place ts) := by
  match ts with
  | [] => exact absurd h not_hasGroup_nil
  | t :: ts =>
    rw [List.all_cons, Bool.and_eq_true] at htag
    rw [allFollowGrammar, Bool.and_eq_true] at hfollow
    have hlater := mem_attributesOf_of_hasGroup (place + t.size) ts run htag.2 hfollow.2
    rw [hasGroup_cons] at h
    rcases attributesOf_cons_cases place t ts with heq | ⟨hattribute, hembed, heq⟩
    · rw [heq, Markup.runsOf_append, Markup.runsOf_embedOf, List.mem_append]
      exact h.imp (mem_elementsOf_of_hasGroup place t run hfollow.1) hlater
    · have hfree : t.isMarkupFree = true := by
        rw [isInTag] at htag
        · exact htag.1
        · exact hattribute
        · exact hembed
      rw [heq]
      exact hlater (h.resolve_left (not_hasGroup_of_isMarkupFree place t run hfree))
theorem mem_contentsOf_of_hasGroup (place : Nat) (parts ts : List Tree) (run : Run) (hparts : ∀ t ∈ parts, t.isPart = true)
    (hcloses : closesElement ts = true) (hfollow : allFollowGrammar ts = true)
    (h : (∃ g : Group (parts ++ ts), run = g.run place) ∨ HasGroup (place + Tree.sizeOf parts) ts run) :
    run ∈ Markup.runsOf (contentsOf (place + Tree.sizeOf parts) (runAfter place parts) ts) := by
  match ts with
  | [] => cases hcloses
  | t :: ts =>
    rw [closesElement] at hcloses
    rw [allFollowGrammar, Bool.and_eq_true] at hfollow
    cases hpart : t.isPart with
    | true =>
      obtain ⟨r, k, before, text, rfl, htext⟩ := exists_leaf_of_isPart hpart
      have hmore : ∀ u ∈ parts ++ [leaf r k before text], u.isPart = true :=
        List.forall_mem_append.mpr ⟨hparts, List.forall_mem_singleton.mpr hpart⟩
      rw [show (leaf r k before text).isClosing = false from rfl, if_neg Bool.false_ne_true, Bool.and_eq_true] at hcloses
      rw [contentsOf_cons_of_text htext, runAfter_concat place hparts r k before text, place_concat]
      refine mem_contentsOf_of_hasGroup place (parts ++ [leaf r k before text]) ts run hmore hcloses.2 hfollow.2 ?_
      rw [List.append_assoc, List.singleton_append, ← place_concat]
      refine h.imp_right fun h => ?_
      rw [Nat.add_assoc _ (width before)]
      exact (hasGroup_cons.mp h).resolve_left not_hasGroup_leaf
    | false =>
      have hother : t.textPart? = none := Option.isNone_iff_eq_none.mp (Option.isSome_eq_false_iff.mp hpart)
      rw [contentsOf_cons_of_other hother, Markup.runsOf_append, List.mem_append, mem_runsOf_close hparts]
      rw [exists_group_append_cons hparts hpart, hasGroup_cons] at h
      cases hclosing : t.isClosing with
      | true =>
        rw [hclosing, if_pos rfl, Bool.and_eq_true, List.isEmpty_iff] at hcloses
        obtain ⟨hfree, rfl⟩ := hcloses
        rcases h with (h | h) | h | h
        · exact .inl h
        · exact absurd h not_exists_group_nil
        · exact absurd h (not_hasGroup_of_isMarkupFree _ t run hfree)
        · exact absurd h not_hasGroup_nil
      | false =>
        rw [hclosing, if_neg Bool.false_ne_true, Bool.and_eq_true] at hcloses
        have hnext := mem_contentsOf_of_hasGroup (place + Tree.sizeOf parts + t.size) [] ts run
          (List.forall_mem_nil _) hcloses.2 hfollow.2
        rw [runsOf_contentsOf_cons hpart hclosing, List.mem_append]
        rcases h with (h | h) | h | h
        · exact .inl h
        · exact .inr (.inr (hnext (.inl h)))
        · exact .inr (.inl (mem_elementsOf_of_hasGroup _ t run hfollow.1 h))
        · exact .inr (.inr (hnext (.inr h)))
end

/-- Where a tree follows the grammar, the texts in its elements are those of the groups in it. -/
theorem mem_runsOf_elementsOf (hfollows : t.followsGrammar = true) :
    run ∈ Markup.runsOf (elementsOf place t) ↔ HasGroup place [t] run :=
  ⟨hasGroup_of_mem_elementsOf place t run, mem_elementsOf_of_hasGroup place t run hfollows⟩

end Outline

end Phrasebook.Source
