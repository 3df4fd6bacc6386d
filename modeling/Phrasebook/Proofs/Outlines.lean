import Phrasebook.Proofs.Utf8
import Phrasebook.Source.Analysis

/-!
# Where the texts of an outline stand

A tree keeps every character, so the places of an outline are those of the source: each text that is found stands there
at its span, as written, and the texts come one after the other.

Results:
1. `size_eq`: the size of a tree is the number of its bytes.
2. `occur_landmarksOfAll`: the texts in a row of trees stand in its characters in their order.
3. `occur_placedTexts`: so do the texts of a source with their paths.
-/

namespace Phrasebook.Source

/-! ## 1. Widths -/

theorem foldl_utf8Size (n : Nat) (cs : List Char) : cs.foldl (fun n c => n + c.utf8Size) n = n + width cs := by
  induction cs generalizing n with
  | nil => rfl
  | cons c cs ih =>
    rw [width, List.foldl_cons, List.foldl_cons, ih, ih, Nat.zero_add, Nat.add_assoc]

theorem width_cons (c : Char) (cs : List Char) : width (c :: cs) = c.utf8Size + width cs := by
  rw [width, List.foldl_cons, foldl_utf8Size, Nat.zero_add]

theorem width_append (cs ds : List Char) : width (cs ++ ds) = width cs + width ds := by
  rw [width, List.foldl_append, foldl_utf8Size]
  rfl

theorem width_pos {cs : List Char} (h : cs ≠ []) : 0 < width cs := by
  obtain ⟨c, cs, rfl⟩ := List.exists_cons_of_ne_nil h
  rw [width_cons]
  exact Nat.add_pos_left c.utf8Size_pos _

/-- The width of characters is the number of their bytes. -/
theorem width_eq (cs : List Char) : width cs = (Text.Utf8.encode cs).length := by
  induction cs with
  | nil => rfl
  | cons c cs ih =>
    rw [width_cons, Text.Utf8.encode, List.flatMap_cons, ← Text.Utf8.encode, List.length_append,
      String.length_utf8EncodeChar, ih]

namespace Tree

mutual
/-- The size of a tree is the width of its characters. -/
theorem size_eq (t : Tree) : t.size = width t.chars := by
  match t with
  | leaf r k before text => exact (width_append before text).symm
  | node r k cs => exact sizeOf_eq cs
theorem sizeOf_eq (ts : List Tree) : sizeOf ts = width (charsOf ts) := by
  match ts with
  | [] => rfl
  | t :: ts => rw [sizeOf, charsOf, width_append, size_eq t, sizeOf_eq ts]
end

theorem charsOf_append (ts us : List Tree) : charsOf (ts ++ us) = charsOf ts ++ charsOf us := by
  induction ts with
  | nil => rfl
  | cons t ts ih => rw [List.cons_append, charsOf, charsOf, ih, List.append_assoc]

theorem sizeOf_append (ts us : List Tree) : sizeOf (ts ++ us) = sizeOf ts + sizeOf us := by
  rw [sizeOf_eq, charsOf_append, width_append, ← sizeOf_eq, ← sizeOf_eq]

end Tree

/-! ## 2. Texts one after the other -/

/-- A text as written, and its span. -/
abbrev Run := List Char × Span

namespace Markup

mutual
def runs : Markup → List Run
  | text raw span => [(raw, span)]
  | element _ children => runsOf children
  | embed elements => runsOf elements
def runsOf : List Markup → List Run
  | [] => []
  | m :: ms => runs m ++ runsOf ms
end

theorem runsOf_append (ms ns : List Markup) : runsOf (ms ++ ns) = runsOf ms ++ runsOf ns := by
  induction ms with
  | nil => rfl
  | cons m ms ih => rw [List.cons_append, runsOf, runsOf, ih, List.append_assoc]

theorem runsOf_singleton (m : Markup) : runsOf [m] = m.runs := by
  rw [runsOf, runsOf, List.append_nil]

theorem runsOf_embedOf (elements : List Markup) : runsOf (Outline.embedOf elements) = runsOf elements := by
  rw [Outline.embedOf]
  split
  · rename_i hempty
    rw [List.isEmpty_iff.mp hempty]
  · rw [runsOf_singleton, runs]

/-- What every text in a row of markup is. -/
def Each (P : List Char → Prop) (ms : List Markup) : Prop := ∀ run ∈ runsOf ms, P run.1

variable {P : List Char → Prop}

theorem each_nil : Each P [] := fun _ h => absurd h List.not_mem_nil

theorem each_append {ms ns : List Markup} : Each P (ms ++ ns) ↔ Each P ms ∧ Each P ns := by
  simp only [Each, runsOf_append, List.forall_mem_append]

theorem each_embedOf {elements : List Markup} (h : Each P elements) : Each P (Outline.embedOf elements) := by
  intro run hrun
  rw [runsOf_embedOf] at hrun
  exact h run hrun

theorem each_element {tag : Tag} {children : List Markup} (h : Each P children) : Each P [.element tag children] := by
  intro run hrun
  rw [runsOf_singleton, runs] at hrun
  exact h run hrun

theorem each_close {run : Outline.OpenRun} (h : ∀ raw, run.map Prod.snd = some raw → P raw) : Each P run.close := by
  cases run with
  | none => exact each_nil
  | some run =>
    intro r hr
    rw [Outline.OpenRun.close, runsOf_singleton, runs, List.mem_singleton] at hr
    rw [hr]
    exact h run.2 rfl

end Markup

/-- Texts stand in characters that start at a place, one after the other. -/
def Occur : Nat → List Char → List Run → Prop
  | _, _, [] => True
  | place, cs, run :: rest =>
    ∃ before after, cs = before ++ run.1 ++ after ∧
      run.2 = ⟨place + width before, place + width before + width run.1⟩ ∧
        Occur (place + width before + width run.1) after rest

namespace Occur

theorem nil (place : Nat) (cs : List Char) : Occur place cs [] := trivial

/-- Characters before the texts move them. -/
theorem prepend {place : Nat} {before cs : List Char} {runs : List Run} (h : Occur (place + width before) cs runs) :
    Occur place (before ++ cs) runs := by
  cases runs with
  | nil => exact nil _ _
  | cons run rest =>
    obtain ⟨gap, after, rfl, hspan, hrest⟩ := h
    refine ⟨before ++ gap, after, by simp only [List.append_assoc], ?_, ?_⟩
    · rw [hspan, width_append, Nat.add_assoc]
    · rwa [width_append, ← Nat.add_assoc]

theorem append {place : Nat} {cs ds : List Char} {runs more : List Run} (h : Occur place cs runs)
    (h' : Occur (place + width cs) ds more) : Occur place (cs ++ ds) (runs ++ more) := by
  induction runs generalizing place cs with
  | nil => exact h'.prepend
  | cons run rest ih =>
    obtain ⟨gap, after, rfl, hspan, hrest⟩ := h
    refine ⟨gap, after ++ ds, by simp only [List.append_assoc], hspan, ih hrest ?_⟩
    rwa [width_append, width_append, ← Nat.add_assoc, ← Nat.add_assoc] at h'

/-- A text alone. -/
theorem singleton (place : Nat) (raw : List Char) : Occur place raw [(raw, ⟨place, place + width raw⟩)] :=
  ⟨[], [], by rw [List.nil_append, List.append_nil], rfl, nil _ _⟩

end Occur

/-! ## 3. Texts of trees -/

namespace Outline

/-- Where the characters of an open run start, if there is one. -/
def OpenRun.start (run : OpenRun) (place : Nat) : Nat := (run.map Prod.fst).getD place

def OpenRun.raw (run : OpenRun) : List Char := (run.map Prod.snd).getD []

theorem OpenRun.start_extend (run : OpenRun) {place : Nat} (h : run.start place + width run.raw = place)
    (before text : List Char) :
    (run.extend place before text).start (place + width before + width text) +
      width (run.extend place before text).raw = place + width before + width text := by
  cases run with
  | none => rfl
  | some run =>
    simp only [start, raw, extend, Option.map_some, Option.getD_some, width_append] at h ⊢
    omega

/-- What stands in a run that was added to stands in the run and what was added. -/
theorem OpenRun.occur_extend (run : OpenRun) {place next : Nat} {before text cs : List Char} {runs : List Run}
    (h : Occur ((run.extend place before text).start next) ((run.extend place before text).raw ++ cs) runs) :
    Occur (run.start place) (run.raw ++ (before ++ text ++ cs)) runs := by
  cases run with
  | none =>
    have hafter : Occur (place + width before) (text ++ cs) runs := h
    rw [List.append_assoc]
    show Occur place (before ++ (text ++ cs)) runs
    exact hafter.prepend
  | some run =>
    simp only [raw, extend, Option.map_some, Option.getD_some, List.append_assoc] at h ⊢
    exact h

/-- The text of a run that has ended stands where its characters are. -/
theorem OpenRun.occur_close (run : OpenRun) {place : Nat} (h : run.start place + width run.raw = place)
    {cs : List Char} {runs : List Run} (hruns : Occur place cs runs) :
    Occur (run.start place) (run.raw ++ cs) (Markup.runsOf run.close ++ runs) := by
  cases run with
  | none => exact hruns
  | some run =>
    refine Occur.append ?_ (h.symm ▸ hruns)
    exact Occur.singleton run.1 run.2

theorem OpenRun.occur_close_last (run : OpenRun) {place : Nat} (h : run.start place + width run.raw = place)
    (cs : List Char) : Occur (run.start place) (run.raw ++ cs) (Markup.runsOf run.close) := by
  have hclose := run.occur_close h (Occur.nil place cs)
  rwa [List.append_nil] at hclose

/-- In a tag the markup is that of the attributes and the embedded expressions. -/
theorem attributesOf_cons_cases (place : Nat) (t : Tree) (ts : List Tree) :
    attributesOf place (t :: ts) = embedOf (elementsOf place t) ++ attributesOf (place + t.size) ts ∨
      (∀ r cs, t ≠ .node r .attribute cs) ∧ (∀ r cs, t ≠ .node r .embed cs) ∧
        attributesOf place (t :: ts) = attributesOf (place + t.size) ts := by
  by_cases hattribute : ∃ r cs, t = .node r .attribute cs
  · obtain ⟨r, cs, rfl⟩ := hattribute
    exact .inl rfl
  by_cases hembed : ∃ r cs, t = .node r .embed cs
  · obtain ⟨r, cs, rfl⟩ := hembed
    exact .inl rfl
  have hnoattribute : ∀ r cs, t ≠ .node r .attribute cs := fun r cs h => hattribute ⟨r, cs, h⟩
  have hnoembed : ∀ r cs, t ≠ .node r .embed cs := fun r cs h => hembed ⟨r, cs, h⟩
  refine .inr ⟨hnoattribute, hnoembed, ?_⟩
  rw [attributesOf]
  · exact hnoattribute
  · exact hnoembed

mutual
theorem occur_elementsOf (place : Nat) (t : Tree) : Occur place t.chars (Markup.runsOf (elementsOf place t)) := by
  rw [elementsOf.eq_def]
  split
  · exact Occur.nil _ _
  · rename_i cs
    rw [Markup.runsOf_singleton, Markup.runs]
    exact occur_attributesOf place cs
  · rename_i front rest
    rw [Markup.runsOf_singleton, Markup.runs, Markup.runsOf_append, Tree.chars, Tree.charsOf, Tree.chars, Tree.sizeOf_eq]
    exact (occur_attributesOf place front).append (occur_contentsOf _ none rest rfl)
  · rename_i cs _ _
    exact occur_elementsOfAll place cs
theorem occur_elementsOfAll (place : Nat) (ts : List Tree) :
    Occur place (Tree.charsOf ts) (Markup.runsOf (elementsOfAll place ts)) := by
  match ts with
  | [] => exact Occur.nil _ _
  | t :: ts =>
    rw [elementsOfAll, Markup.runsOf_append, Tree.charsOf, Tree.size_eq]
    exact (occur_elementsOf place t).append (occur_elementsOfAll _ ts)
theorem occur_attributesOf (place : Nat) (ts : List Tree) :
    Occur place (Tree.charsOf ts) (Markup.runsOf (attributesOf place ts)) := by
  match ts with
  | [] => exact Occur.nil _ _
  | t :: ts =>
    have hrest := occur_attributesOf (place + t.size) ts
    rw [Tree.size_eq] at hrest
    rcases attributesOf_cons_cases place t ts with heq | ⟨-, -, heq⟩
    · rw [heq, Markup.runsOf_append, Markup.runsOf_embedOf, Tree.charsOf, Tree.size_eq]
      exact (occur_elementsOf place t).append hrest
    · rw [heq, Tree.charsOf, Tree.size_eq]
      exact hrest.prepend
theorem occur_contentsOf (place : Nat) (run : OpenRun) (ts : List Tree) (hrun : run.start place + width run.raw = place) :
    Occur (run.start place) (run.raw ++ Tree.charsOf ts) (Markup.runsOf (contentsOf place run ts)) := by
  rw [contentsOf.eq_def]
  split
  · exact run.occur_close_last hrun _
  · rename_i b t ts
    exact run.occur_extend (occur_contentsOf _ (run.extend place b t) ts (run.start_extend hrun b t))
  · rename_i b t ts
    exact run.occur_extend (occur_contentsOf _ (run.extend place b t) ts (run.start_extend hrun b t))
  · rename_i r cs ts
    rw [Markup.runsOf_append, Markup.runsOf_append, Markup.runsOf_embedOf, Tree.charsOf, Tree.size_eq, List.append_assoc]
    exact run.occur_close hrun ((occur_elementsOfAll place cs).append (occur_contentsOf _ none ts rfl))
  · exact run.occur_close_last hrun _
  · rename_i t ts _ _ _ _
    rw [Markup.runsOf_append, Markup.runsOf_append, Tree.charsOf, Tree.size_eq, List.append_assoc]
    exact run.occur_close hrun ((occur_elementsOf place t).append (occur_contentsOf _ none ts rfl))
end

/-- The elements among landmarks that are in no other. -/
def rootsOf (landmarks : List Landmark) : List Markup := landmarks.filterMap Landmark.root?

theorem rootsOf_append (landmarks more : List Landmark) : rootsOf (landmarks ++ more) = rootsOf landmarks ++ rootsOf more :=
  List.filterMap_append

theorem rootsOf_markup (elements : List Markup) : rootsOf (elements.map .markup) = elements := by
  rw [rootsOf, List.filterMap_map]
  exact List.filterMap_some

/-- Whether a landmark tells of code: neither of an import nor of markup. -/
def tellsCode : Landmark → Bool
  | .importing _ _ => false
  | .markup _ => false
  | _ => true

theorem tellsCode_of_mem_toList {α : Type} {found : Option α} {f : α → Landmark} (h : ∀ x, tellsCode (f x) = true) :
    ∀ l ∈ (found.map f).toList, tellsCode l = true := by
  cases found with
  | none => exact fun _ hl => absurd hl List.not_mem_nil
  | some x => exact List.forall_mem_singleton.mpr (h x)

theorem tellsCode_ofDeclarator (t : Tree) : ∀ l ∈ ofDeclarator t, tellsCode l = true := by
  have hnil : ∀ l ∈ ([] : List Landmark), tellsCode l = true := fun _ hl => absurd hl List.not_mem_nil
  rw [ofDeclarator.eq_def]
  split
  · split
    · exact List.forall_mem_singleton.mpr rfl
    · split
      · split
        · split
          · exact List.forall_mem_singleton.mpr rfl
          · exact hnil
        · exact hnil
      · exact hnil
  · exact hnil

theorem tellsCode_ofExport (t : Tree) : ∀ l ∈ ofExport t, tellsCode l = true := by
  have hnil : ∀ l ∈ ([] : List Landmark), tellsCode l = true := fun _ hl => absurd hl List.not_mem_nil
  rw [ofExport.eq_def]
  split
  · split
    · split
      · exact tellsCode_of_mem_toList fun _ => rfl
      · exact hnil
    · split
      · split
        · exact List.forall_mem_singleton.mpr rfl
        · split
          · exact tellsCode_of_mem_toList fun _ => rfl
          · exact hnil
      · exact hnil
  · exact hnil

/-- A construct tells of code, unless it is an import. -/
theorem mem_ofConstruct {t : Tree} {l : Landmark} (h : l ∈ ofConstruct t) :
    tellsCode l = true ∨ t.kind = .importStatement ∧ l = ofImport t := by
  rw [ofConstruct.eq_def] at h
  split at h
  · exact .inl (tellsCode_of_mem_toList (fun _ => rfl) l h)
  · exact .inl (tellsCode_ofDeclarator t l h)
  · exact .inl (tellsCode_ofExport t l h)
  · rename_i hk
    exact .inr ⟨hk, List.mem_singleton.mp h⟩
  · exact absurd h List.not_mem_nil

/-- No construct tells of markup by itself. -/
theorem rootsOf_ofConstruct (t : Tree) : rootsOf (ofConstruct t) = [] := by
  rw [rootsOf, List.filterMap_eq_nil_iff]
  intro l hl
  rcases mem_ofConstruct hl with hcode | ⟨-, rfl⟩
  · cases l with
    | markup root => cases hcode
    | _ => rfl
  · rfl

mutual
/-- The texts that a tree tells of are in its elements. -/
theorem mem_runsOf_landmarksOf {place : Nat} {t : Tree} {run : Run}
    (h : run ∈ Markup.runsOf (rootsOf (landmarksOf place t))) : run ∈ Markup.runsOf (elementsOf place t) := by
  cases t with
  | leaf r k before text => exact h
  | node r k cs =>
    rw [landmarksOf] at h
    split at h
    · rwa [rootsOf_markup] at h
    · rename_i hk
      rw [Bool.or_eq_true, beq_iff_eq, beq_iff_eq, not_or] at hk
      rw [elementsOf]
      · split at h
        · rw [rootsOf_ofConstruct] at h
          exact absurd h List.not_mem_nil
        · rw [rootsOf_append, rootsOf_ofConstruct] at h
          exact mem_runsOf_landmarksOfAll h
      · exact fun h => hk.2 h
      · exact fun _ _ _ h => absurd h hk.1
theorem mem_runsOf_landmarksOfAll {place : Nat} {ts : List Tree} {run : Run}
    (h : run ∈ Markup.runsOf (rootsOf (landmarksOfAll place ts))) : run ∈ Markup.runsOf (elementsOfAll place ts) := by
  cases ts with
  | nil => exact h
  | cons t ts =>
    rw [landmarksOfAll, rootsOf_append, Markup.runsOf_append, List.mem_append] at h
    rw [elementsOfAll, Markup.runsOf_append, List.mem_append]
    exact h.imp mem_runsOf_landmarksOf mem_runsOf_landmarksOfAll
end

mutual
theorem occur_landmarksOf (place : Nat) (t : Tree) :
    Occur place t.chars (Markup.runsOf (rootsOf (landmarksOf place t))) := by
  match t with
  | .leaf _ _ _ _ => exact Occur.nil _ _
  | .node r k cs =>
    rw [landmarksOf]
    split
    · rw [rootsOf_markup]
      exact occur_elementsOf place (.node r k cs)
    · split
      · rw [rootsOf_ofConstruct]
        exact Occur.nil _ _
      · rw [rootsOf_append, rootsOf_ofConstruct, List.nil_append]
        exact occur_landmarksOfAll place cs
/-- The texts in a row of trees stand in its characters. -/
theorem occur_landmarksOfAll (place : Nat) (ts : List Tree) :
    Occur place (Tree.charsOf ts) (Markup.runsOf (rootsOf (landmarksOfAll place ts))) := by
  match ts with
  | [] => exact Occur.nil _ _
  | t :: ts =>
    rw [landmarksOfAll, rootsOf_append, Markup.runsOf_append, Tree.charsOf, Tree.size_eq]
    exact (occur_landmarksOf place t).append (occur_landmarksOfAll _ ts)
end

theorem landmarksOfAll_append (place : Nat) (ts us : List Tree) :
    landmarksOfAll place (ts ++ us) = landmarksOfAll place ts ++ landmarksOfAll (place + Tree.sizeOf ts) us := by
  induction ts generalizing place with
  | nil => rfl
  | cons t ts ih => rw [List.cons_append, landmarksOfAll, landmarksOfAll, ih, Tree.sizeOf, List.append_assoc, Nat.add_assoc]

end Outline

/-! ## 4. Texts with their paths -/

def PlacedText.run (t : PlacedText) : Run := (t.raw, t.span)

namespace Markup

mutual
theorem map_run_texts (trail : List String) (m : Markup) : (m.texts trail).map PlacedText.run = m.runs := by
  match m with
  | text raw span => rfl
  | element tag children => exact map_run_childTexts trail children _ [] children
  | embed elements => exact map_run_embeddedTexts trail elements
theorem map_run_childTexts (trail : List String) (siblings : List Markup) (inFragment : Bool) (before ms : List Markup) :
    (childTexts trail siblings inFragment before ms).map PlacedText.run = runsOf ms := by
  match ms with
  | [] => rfl
  | m :: ms =>
    rw [childTexts, List.map_append, map_run_texts _ m, map_run_childTexts trail siblings inFragment _ ms]
    rfl
theorem map_run_embeddedTexts (trail : List String) (ms : List Markup) :
    (embeddedTexts trail ms).map PlacedText.run = runsOf ms := by
  match ms with
  | [] => rfl
  | m :: ms =>
    rw [embeddedTexts, List.map_append, map_run_texts _ m, map_run_embeddedTexts trail ms]
    rfl
end

end Markup

/-- Paths are all that is added to the texts of an outline. -/
theorem map_run_placedTexts (landmarks : List Landmark) :
    (placedTexts landmarks).map PlacedText.run = Markup.runsOf (Outline.rootsOf landmarks) := by
  rw [placedTexts, ← Outline.rootsOf]
  induction Outline.rootsOf landmarks with
  | nil => rfl
  | cons root roots ih =>
    rw [List.flatMap_cons, List.map_append, ih, Markup.map_run_texts]
    rfl

/-! ## 5. Prologues -/

namespace Tree

def isLeaf : Tree → Bool
  | leaf _ _ _ _ => true
  | node _ _ _ => false

/-- Strings and hashbang lines are leaves, and a statement of a string alone has only leaves. -/
def IsRegular : Tree → Prop
  | leaf _ _ _ _ => True
  | node _ k cs =>
    k ≠ .string ∧ k ≠ .hashbang ∧
      (k = .expressionStatement → (inRole .value cs).any (·.kind == .string) = true → ∀ c ∈ cs, c.isLeaf = true)

end Tree

namespace Outline

/-- What may stand before an import: the hashbang line or a directive. -/
def isFrontal (t : Tree) : Bool := t.kind == .hashbang || isDirective t

/-- The prologue is the statements at the start that may stand before an import. -/
theorem prologueEndOf_eq (place : Nat) (ts : List Tree) :
    prologueEndOf place place ts = place + Tree.sizeOf (ts.takeWhile isFrontal) := by
  induction ts generalizing place with
  | nil => rfl
  | cons t ts ih =>
    rw [prologueEndOf, ← isFrontal, List.takeWhile_cons]
    split
    · rw [ih, Tree.sizeOf, Nat.add_assoc]
    · rfl

theorem landmarksOfAll_of_leaves (place : Nat) {ts : List Tree} (h : ∀ t ∈ ts, t.isLeaf = true) :
    landmarksOfAll place ts = [] := by
  induction ts generalizing place with
  | nil => rfl
  | cons t ts ih =>
    obtain ⟨ht, hts⟩ := List.forall_mem_cons.mp h
    cases t with
    | leaf r k b t => exact ih _ hts
    | node r k cs => exact absurd ht (by simp [Tree.isLeaf])

/-- No markup is in a prologue. -/
theorem rootsOf_landmarksOf_of_isFrontal {t : Tree} (h : t.IsRegular) (hfrontal : isFrontal t = true) (place : Nat) :
    rootsOf (landmarksOf place t) = [] := by
  cases t with
  | leaf r k b t => rfl
  | node r k cs =>
    obtain ⟨-, hhashbang, hleaves⟩ := h
    rw [isFrontal, isDirective, Tree.kind, Bool.or_eq_true, Bool.and_eq_true, beq_iff_eq, beq_iff_eq] at hfrontal
    rcases hfrontal with hk | ⟨rfl, hvalue⟩
    · exact absurd hk hhashbang
    · rw [landmarksOf, landmarksOfAll_of_leaves place (hleaves rfl hvalue)]
      rfl

theorem rootsOf_landmarksOfAll_of_isFrontal {ts : List Tree} (h : ∀ t ∈ ts, t.IsRegular)
    (hfrontal : ∀ t ∈ ts, isFrontal t = true) (place : Nat) : rootsOf (landmarksOfAll place ts) = [] := by
  induction ts generalizing place with
  | nil => rfl
  | cons t ts ih =>
    obtain ⟨ht, hts⟩ := List.forall_mem_cons.mp h
    obtain ⟨hone, hall⟩ := List.forall_mem_cons.mp hfrontal
    rw [landmarksOfAll, rootsOf_append, rootsOf_landmarksOf_of_isFrontal ht hone, ih hts hall]
    rfl

/-- The texts of a source stand after its prologue. -/
theorem occur_placedTexts {d : Document} (h : ∀ t ∈ d.trees, t.IsRegular) :
    ∃ front rest, d.source = front ++ rest ∧ (ofDocument d).prologueEnd = width front ∧
      Occur (width front) rest ((placedTexts (ofDocument d).landmarks).map PlacedText.run) := by
  have hsplit : d.trees.takeWhile isFrontal ++ d.trees.dropWhile isFrontal = d.trees := List.takeWhile_append_dropWhile
  refine ⟨Tree.charsOf (d.trees.takeWhile isFrontal), Tree.charsOf (d.trees.dropWhile isFrontal), ?_, ?_, ?_⟩
  · rw [← d.chars_eq, ← Tree.charsOf_append, hsplit]
  · rw [ofDocument, prologueEndOf_eq, Nat.zero_add, Tree.sizeOf_eq]
  · have hregular : ∀ t ∈ d.trees.takeWhile isFrontal, t.IsRegular :=
      fun t ht => h t ((List.takeWhile_sublist _).mem ht)
    rw [map_run_placedTexts, ofDocument, ← hsplit, landmarksOfAll_append, rootsOf_append, hsplit,
      rootsOf_landmarksOfAll_of_isFrontal hregular (List.all_eq_true.mp List.all_takeWhile), List.nil_append, Nat.zero_add,
      Tree.sizeOf_eq]
    exact occur_landmarksOfAll _ _

end Outline

end Phrasebook.Source
