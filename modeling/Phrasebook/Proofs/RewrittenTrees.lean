import Phrasebook.Proofs.Replacements

/-!
# Rewriting what has been rewritten

A rewrite puts an embedded expression in the place of each text that shows something. How the new source reads is said by
its trees: they are those of the old source, but for the blanks before leaves; each text that shows something has become
an expression without markup between the blanks that were around it, which are left as texts or dropped; and an import may
have come after the prologue. In such trees no text shows anything, in whatever element, attribute or expression it
stands, so nothing is taken out of them.

Results:
1. `hasQuietContents_of_afterText`: no text shows anything where a text has been replaced.
2. `isQuiet_of_becomes`: none does in what a tree becomes.
3. `takenTexts_of_sourceBecomes`: nothing is taken out of what a source becomes.
4. `rewrite_idempotent`: a code that reads so is rewritten to itself, without records.
-/

namespace Phrasebook.Source

/-! ## 1. The trees of a rewritten source -/

/-- Whether a text, as written, is more than blanks once its references are replaced. -/
def isShown (raw : List Char) : Bool := (shownText raw).any fun shown => isMeaningful (Text.trim shown)

theorem isShown_of_blank {raw : List Char} (h : ∀ c ∈ raw, Text.isBlank c = true) : isShown raw = false := by
  unfold isShown shownText
  rw [CharRef.decode_blanks h, Option.any_some, Text.trim_eq_nil_iff.mpr h]
  rfl

namespace Tree

mutual
/-- Whether there is no element in a tree. -/
def isMarkupFree : Tree → Bool
  | leaf _ _ _ _ => true
  | node _ k cs => k != .element && k != .selfClosing && areMarkupFree cs
/-- Whether there is no element in a row of trees. -/
def areMarkupFree : List Tree → Bool
  | [] => true
  | t :: ts => isMarkupFree t && areMarkupFree ts
end

/-- A part of a text: the blanks before it, which belong to the text unless it starts there, and its characters. -/
def textPart? : Tree → Option (List Char × List Char)
  | leaf _ .text b t => some (b, t)
  | leaf _ .reference b t => some (b, t)
  | _ => none

theorem isSome_textPart?_leaf (r : Role) (k : Kind) (before text : List Char) :
    (leaf r k before text).textPart?.isSome = (k == .text || k == .reference) := by
  cases k <;> rfl

/-- Adds a part to a text, or starts one. -/
def extendText (raw : Option (List Char)) (part : List Char × List Char) : List Char :=
  match raw with
  | none => part.2
  | some raw => raw ++ part.1 ++ part.2

/-- The text that a row goes on with, and what comes after it. -/
def splitText (raw : Option (List Char)) : List Tree → Option (List Char) × List Tree
  | [] => (raw, [])
  | t :: ts =>
    match textPart? t with
    | some part => splitText (some (extendText raw part)) ts
    | none => (raw, t :: ts)

/-- What comes after the text at the start of a row, if that may stand there. -/
def afterRun (isAllowed : Option (List Char) → Bool) (ts : List Tree) : Option (List Tree) :=
  if isAllowed (splitText none ts).1 then some (splitText none ts).2 else none

/-- Whether blanks are left as a text, or dropped. -/
def isLeft (blanks : List Char) (raw : Option (List Char)) : Bool := raw == none || raw == some blanks

/-- What comes after an expression in braces without markup. -/
def afterEmbed : List Tree → Option (List Tree)
  | node _ .embed cs :: ts => if areMarkupFree cs then some ts else none
  | _ => none

/-- What comes after what a text has become: one that shows something is an expression between the blanks that were around
it, any other is as it was. -/
def afterText (raw : Option (List Char)) (us : List Tree) : Option (List Tree) :=
  match raw with
  | none => some us
  | some raw =>
    if isShown raw then
      ((afterRun (isLeft (Text.leading raw)) us).bind afterEmbed).bind (afterRun (isLeft (Text.trailing raw)))
    else afterRun (· == some raw) us

mutual
/-- Whether a tree may become another one: the same but for the blanks before leaves and the texts in its elements that
show something. -/
def becomes : Tree → Tree → Bool
  | .leaf r k _ x, .leaf r' k' _ x' => r == r' && k == k' && x == x'
  | .node r .element (.node ro .opening front :: rest), .node r' .element (.node ro' .opening front' :: rest') =>
    r == r' && ro == ro' && rowBecomes front front' && contentsBecome none rest rest'
  | .node r k cs, .node r' k' cs' => r == r' && k == k' && rowBecomes cs cs'
  | _, _ => false
/-- Whether each tree of a row may become that of another one. -/
def rowBecomes : List Tree → List Tree → Bool
  | [], [] => true
  | t :: ts, u :: us => becomes t u && rowBecomes ts us
  | _, _ => false
/-- Whether what stands between the tags of an element may become a row of trees, after a text that has not ended yet. -/
def contentsBecome (raw : Option (List Char)) : List Tree → List Tree → Bool
  | [], us =>
    match afterText raw us with
    | some [] => true
    | _ => false
  | t :: ts, us =>
    match textPart? t with
    | some part => contentsBecome (some (extendText raw part)) ts us
    | none =>
      match afterText raw us with
      | some (u :: us) => becomes t u && contentsBecome none ts us
      | _ => false
end

/-- Whether the statements of a source may become a row of trees, with an import after the prologue if it is needed. -/
def sourceBecomes (needsImport : Bool) (ts us : List Tree) : Bool :=
  if needsImport then
    let place := (ts.takeWhile Outline.isFrontal).length
    us[place]?.any (·.kind == .importStatement) && rowBecomes ts (us.eraseIdx place)
  else rowBecomes ts us

end Tree

/-! ## 2. Markup that shows nothing -/

/-- No text in a row of markup shows anything. -/
def AreQuiet (ms : List Markup) : Prop := ∀ run ∈ Markup.runsOf ms, isShown run.1 = false

theorem areQuiet_nil : AreQuiet [] :=
  Markup.each_nil (P := fun raw => isShown raw = false)

theorem areQuiet_append {ms ns : List Markup} : AreQuiet (ms ++ ns) ↔ AreQuiet ms ∧ AreQuiet ns :=
  Markup.each_append (P := fun raw => isShown raw = false)

theorem areQuiet_embedOf {elements : List Markup} (h : AreQuiet elements) : AreQuiet (Outline.embedOf elements) :=
  Markup.each_embedOf (P := fun raw => isShown raw = false) h

theorem areQuiet_element {tag : Tag} {children : List Markup} (h : AreQuiet children) :
    AreQuiet [.element tag children] :=
  Markup.each_element (P := fun raw => isShown raw = false) h

namespace Outline

theorem areQuiet_close {run : OpenRun} (h : ∀ raw, run.map Prod.snd = some raw → isShown raw = false) :
    AreQuiet run.close :=
  Markup.each_close (P := fun raw => isShown raw = false) h

/-- No text in the elements of a tree shows anything, wherever the tree stands. -/
def IsQuiet (t : Tree) : Prop := ∀ place, AreQuiet (elementsOf place t)

/-- No text between the tags of an element shows anything, wherever they stand. -/
def HasQuietContents (ts : List Tree) : Prop := ∀ place, AreQuiet (contentsOf place none ts)

theorem areQuiet_elementsOfAll {ts : List Tree} (h : ∀ t ∈ ts, IsQuiet t) (place : Nat) :
    AreQuiet (elementsOfAll place ts) := by
  induction ts generalizing place with
  | nil => exact areQuiet_nil
  | cons t ts ih =>
    obtain ⟨ht, hts⟩ := List.forall_mem_cons.mp h
    rw [elementsOfAll, areQuiet_append]
    exact ⟨ht place, ih hts _⟩

theorem areQuiet_attributesOf {ts : List Tree} (h : ∀ t ∈ ts, IsQuiet t) (place : Nat) :
    AreQuiet (attributesOf place ts) := by
  induction ts generalizing place with
  | nil => exact areQuiet_nil
  | cons t ts ih =>
    obtain ⟨ht, hts⟩ := List.forall_mem_cons.mp h
    rcases attributesOf_cons_cases place t ts with heq | ⟨-, -, heq⟩
    · rw [heq, areQuiet_append]
      exact ⟨areQuiet_embedOf (ht place), ih hts _⟩
    · rw [heq]
      exact ih hts _

mutual
theorem elementsOf_of_isMarkupFree {t : Tree} (h : t.isMarkupFree = true) (place : Nat) : elementsOf place t = [] := by
  cases t with
  | leaf r k before text => rfl
  | node r k cs =>
    rw [Tree.isMarkupFree, Bool.and_eq_true, Bool.and_eq_true, bne_iff_ne, bne_iff_ne] at h
    obtain ⟨⟨helement, hself⟩, hcs⟩ := h
    rw [elementsOf]
    · exact elementsOfAll_of_areMarkupFree hcs place
    · exact fun h => hself h
    · exact fun r front rest h => absurd h helement
theorem elementsOfAll_of_areMarkupFree {ts : List Tree} (h : Tree.areMarkupFree ts = true) (place : Nat) :
    elementsOfAll place ts = [] := by
  cases ts with
  | nil => rfl
  | cons t ts =>
    rw [Tree.areMarkupFree, Bool.and_eq_true] at h
    rw [elementsOfAll, elementsOf_of_isMarkupFree h.1, elementsOfAll_of_areMarkupFree h.2]
    rfl
end

/-! ## 3. What stands between tags -/

theorem extend_map (run : OpenRun) (place : Nat) (part : List Char × List Char) :
    (run.extend place part.1 part.2).map Prod.snd = some (Tree.extendText (run.map Prod.snd) part) := by
  cases run <;> rfl

/-- A part of a text goes on with the run before it. -/
theorem contentsOf_cons_of_text {t : Tree} {part : List Char × List Char} (h : t.textPart? = some part) (place : Nat)
    (run : OpenRun) (ts : List Tree) :
    contentsOf place run (t :: ts) =
      contentsOf (place + width part.1 + width part.2) (run.extend place part.1 part.2) ts := by
  unfold Tree.textPart? at h
  split at h
  · rw [contentsOf, ← Option.some.inj h]
  · rw [contentsOf, ← Option.some.inj h]
  · cases h

/-- Anything else ends it. -/
theorem contentsOf_cons_of_other {t : Tree} (h : t.textPart? = none) (place : Nat) (run : OpenRun) (ts : List Tree) :
    contentsOf place run (t :: ts) = run.close ++ contentsOf place none (t :: ts) := by
  conv => lhs; rw [contentsOf.eq_def]
  split
  · rename_i heq
    cases heq
  · rename_i heq
    cases heq
    cases h
  · rename_i heq
    cases heq
    cases h
  · rename_i heq
    rw [heq, contentsOf, List.append_assoc]
    rfl
  · rename_i heq
    rw [heq, contentsOf]
    exact (List.append_nil _).symm
  · rename_i hphrase heq
    rw [heq, contentsOf, List.append_assoc]
    · rfl
    all_goals assumption

/-- What stands between tags is the text that it starts with, and the rest. -/
theorem exists_contentsOf_splitText (place : Nat) (run : OpenRun) (ts : List Tree) :
    ∃ next ended, Option.map Prod.snd ended = (Tree.splitText (run.map Prod.snd) ts).1 ∧
      contentsOf place run ts =
        OpenRun.close ended ++ contentsOf next none (Tree.splitText (run.map Prod.snd) ts).2 := by
  induction ts generalizing place run with
  | nil => exact ⟨place, run, rfl, (List.append_nil _).symm⟩
  | cons t ts ih =>
    rw [Tree.splitText]
    split
    · rename_i part hpart
      rw [contentsOf_cons_of_text hpart, ← extend_map run place part]
      exact ih _ _
    · rename_i hother
      exact ⟨place, run, rfl, contentsOf_cons_of_other hother place run ts⟩

/-- A text that shows nothing may stand before quiet contents. -/
theorem hasQuietContents_of_afterRun {isAllowed : Option (List Char) → Bool} {ts rest : List Tree}
    (h : Tree.afterRun isAllowed ts = some rest) (hallowed : ∀ raw, isAllowed (some raw) = true → isShown raw = false)
    (hrest : HasQuietContents rest) : HasQuietContents ts := by
  unfold Tree.afterRun at h
  split at h
  · rename_i hraw
    obtain rfl := Option.some.inj h
    intro place
    obtain ⟨next, ended, hended, heq⟩ := exists_contentsOf_splitText place none ts
    rw [heq, areQuiet_append]
    refine ⟨areQuiet_close fun raw hsome => hallowed raw ?_, hrest next⟩
    rw [← hsome, hended]
    exact hraw
  · cases h

/-- So may a quiet tree that is no text. -/
theorem hasQuietContents_cons {t : Tree} {ts : List Tree} (hother : t.textPart? = none) (ht : IsQuiet t)
    (hts : HasQuietContents ts) : HasQuietContents (t :: ts) := by
  intro place
  rw [contentsOf.eq_def]
  split
  · exact areQuiet_nil
  · rename_i heq
    cases heq
    cases hother
  · rename_i heq
    cases heq
    cases hother
  · rename_i heq
    obtain ⟨rfl, rfl⟩ := List.cons.inj heq
    rw [areQuiet_append, areQuiet_append]
    exact ⟨⟨areQuiet_nil, areQuiet_embedOf (ht place)⟩, hts _⟩
  · exact areQuiet_nil
  · rename_i heq
    obtain ⟨rfl, rfl⟩ := List.cons.inj heq
    rw [areQuiet_append, areQuiet_append]
    exact ⟨⟨areQuiet_nil, ht place⟩, hts _⟩

theorem hasQuietContents_of_afterEmbed {ts rest : List Tree} (h : Tree.afterEmbed ts = some rest)
    (hrest : HasQuietContents rest) : HasQuietContents ts := by
  unfold Tree.afterEmbed at h
  split at h
  · rename_i r cs ts
    split at h
    · rename_i hfree
      obtain rfl := Option.some.inj h
      refine hasQuietContents_cons rfl (fun place => ?_) hrest
      rw [elementsOf_of_isMarkupFree]
      · exact areQuiet_nil
      · rw [Tree.isMarkupFree, hfree]
        rfl
    · cases h
  · cases h

/-- Blanks that are left of a text show nothing. -/
theorem isShown_of_isLeft {blanks raw : List Char} (hblank : ∀ c ∈ blanks, Text.isBlank c = true)
    (h : Tree.isLeft blanks (some raw) = true) : isShown raw = false := by
  unfold Tree.isLeft at h
  rw [Bool.or_eq_true, beq_iff_eq, beq_iff_eq, Option.some.injEq] at h
  rcases h with h | rfl
  · cases h
  · exact isShown_of_blank hblank

/-- What a text has become is quiet, so all is if what comes after it is. -/
theorem hasQuietContents_of_afterText {raw : Option (List Char)} {us rest : List Tree}
    (h : Tree.afterText raw us = some rest) (hrest : HasQuietContents rest) : HasQuietContents us := by
  cases raw with
  | none =>
    obtain rfl := Option.some.inj h
    exact hrest
  | some raw =>
    rw [Tree.afterText] at h
    split at h
    · obtain ⟨after, hafter, hlast⟩ := Option.bind_eq_some_iff.mp h
      obtain ⟨embedded, hembedded, hembed⟩ := Option.bind_eq_some_iff.mp hafter
      have hquiet : HasQuietContents after :=
        hasQuietContents_of_afterRun hlast (fun _ => isShown_of_isLeft (Text.forall_trailing raw)) hrest
      exact hasQuietContents_of_afterRun hembedded (fun _ => isShown_of_isLeft (Text.forall_leading raw))
        (hasQuietContents_of_afterEmbed hembed hquiet)
    · rename_i hshown
      refine hasQuietContents_of_afterRun h (fun same hsame => ?_) hrest
      rw [beq_iff_eq, Option.some.injEq] at hsame
      rw [hsame, Bool.eq_false_iff]
      exact hshown

/-! ## 4. What trees become -/

/-- Only an opening tag becomes one. -/
theorem exists_opening_of_becomes {t : Tree} {r : Role} {cs : List Tree}
    (h : Tree.becomes t (.node r .opening cs) = true) : ∃ r' cs', t = .node r' .opening cs' := by
  rw [Tree.becomes.eq_def] at h
  split at h
  · rename_i heq
    cases heq
  · rename_i heq
    cases heq
  · rename_i heq
    rw [Tree.node.injEq] at heq
    rw [← heq.2.1, Bool.and_eq_true, Bool.and_eq_true, beq_iff_eq, beq_iff_eq] at h
    rw [h.1.2]
    exact ⟨_, _, rfl⟩
  · cases h

/-- What is no part of a text becomes none. -/
theorem textPart?_of_becomes {t u : Tree} (h : Tree.becomes t u = true) (hother : t.textPart? = none) :
    u.textPart? = none := by
  rw [Tree.becomes.eq_def] at h
  split at h
  · rw [Bool.and_eq_true, Bool.and_eq_true, beq_iff_eq, beq_iff_eq] at h
    rw [← Option.not_isSome_iff_eq_none, Tree.isSome_textPart?_leaf] at hother ⊢
    rw [← h.1.2]
    exact hother
  · rfl
  · rfl
  · cases h

mutual
/-- No text shows anything in what a tree becomes. -/
theorem isQuiet_of_becomes {t u : Tree} (h : Tree.becomes t u = true) : IsQuiet u := by
  rw [Tree.becomes.eq_def] at h
  split at h
  · exact fun _ => areQuiet_nil
  · rw [Bool.and_eq_true, Bool.and_eq_true] at h
    intro place
    rw [elementsOf]
    refine areQuiet_element ?_
    rw [areQuiet_append]
    exact ⟨areQuiet_attributesOf (isQuiet_of_rowBecomes h.1.2) _, hasQuietContents_of_contentsBecome h.2 _⟩
  · rename_i r k cs r' k' cs' hnot
    rw [Bool.and_eq_true, Bool.and_eq_true, beq_iff_eq, beq_iff_eq] at h
    have hall := isQuiet_of_rowBecomes h.2
    intro place
    rw [elementsOf.eq_def]
    split
    · exact areQuiet_nil
    · rename_i heq
      rw [Tree.node.injEq] at heq
      rw [← heq.2.2]
      exact areQuiet_element (areQuiet_attributesOf hall _)
    · rename_i heq
      rw [Tree.node.injEq] at heq
      obtain ⟨-, rfl, rfl⟩ := heq
      -- only an element that starts with an opening tag becomes one, and that is the case before
      cases cs with
      | nil => exact absurd h.2 (by simp [Tree.rowBecomes])
      | cons c cs =>
        have hrow := h.2
        rw [Tree.rowBecomes, Bool.and_eq_true] at hrow
        obtain ⟨ro, front, rfl⟩ := exists_opening_of_becomes hrow.1
        exact (hnot _ _ _ _ _ _ h.1.2 rfl rfl rfl).elim
    · rename_i heq
      rw [Tree.node.injEq] at heq
      rw [← heq.2.2]
      exact areQuiet_elementsOfAll hall _
  · cases h
theorem isQuiet_of_rowBecomes {ts us : List Tree} (h : Tree.rowBecomes ts us = true) : ∀ u ∈ us, IsQuiet u := by
  rw [Tree.rowBecomes.eq_def] at h
  split at h
  · exact fun _ h => absurd h List.not_mem_nil
  · rw [Bool.and_eq_true] at h
    exact List.forall_mem_cons.mpr ⟨isQuiet_of_becomes h.1, isQuiet_of_rowBecomes h.2⟩
  · cases h
theorem hasQuietContents_of_contentsBecome {raw : Option (List Char)} {ts us : List Tree}
    (h : Tree.contentsBecome raw ts us = true) : HasQuietContents us := by
  rw [Tree.contentsBecome.eq_def] at h
  split at h
  · split at h
    · rename_i hafter
      exact hasQuietContents_of_afterText hafter fun _ => areQuiet_nil
    · cases h
  · split at h
    · exact hasQuietContents_of_contentsBecome h
    · rename_i hother
      split at h
      · rename_i hafter
        rw [Bool.and_eq_true] at h
        exact hasQuietContents_of_afterText hafter
          (hasQuietContents_cons (textPart?_of_becomes h.1 hother) (isQuiet_of_becomes h.1)
            (hasQuietContents_of_contentsBecome h.2))
      · cases h
end

/-! ## 5. Whole sources -/

/-- Neither a quiet statement nor an import tells of a text that shows anything. -/
theorem areQuiet_landmarksOf {t : Tree} (h : IsQuiet t ∨ t.kind = .importStatement) (place : Nat) :
    AreQuiet (rootsOf (landmarksOf place t)) := by
  rcases h with h | h
  · exact fun run hrun => h place run (mem_runsOf_landmarksOf hrun)
  · cases t with
    | leaf r k before text => exact areQuiet_nil
    | node r k cs =>
      rw [Tree.kind] at h
      rw [h, landmarksOf, if_neg (by decide), if_pos (beq_self_eq_true _), rootsOf_ofConstruct]
      exact areQuiet_nil

theorem areQuiet_landmarksOfAll {ts : List Tree} (h : ∀ t ∈ ts, IsQuiet t ∨ t.kind = .importStatement) (place : Nat) :
    AreQuiet (rootsOf (landmarksOfAll place ts)) := by
  induction ts generalizing place with
  | nil => exact areQuiet_nil
  | cons t ts ih =>
    obtain ⟨ht, hts⟩ := List.forall_mem_cons.mp h
    rw [landmarksOfAll, rootsOf_append, areQuiet_append]
    exact ⟨areQuiet_landmarksOf ht place, ih hts _⟩

/-- The statements that a source becomes are quiet, or imports. -/
theorem isQuiet_of_sourceBecomes {needsImport : Bool} {ts us : List Tree}
    (h : Tree.sourceBecomes needsImport ts us = true) : ∀ u ∈ us, IsQuiet u ∨ u.kind = .importStatement := by
  intro u hu
  unfold Tree.sourceBecomes at h
  split at h
  · dsimp only at h
    rw [Bool.and_eq_true, Option.any_eq_true] at h
    obtain ⟨⟨added, hadded, himport⟩, hrow⟩ := h
    obtain ⟨i, hi⟩ := List.mem_iff_getElem?.mp hu
    by_cases hplace : i = (ts.takeWhile isFrontal).length
    · rw [hplace, hadded, Option.some.injEq] at hi
      rw [beq_iff_eq] at himport
      exact .inr (hi ▸ himport)
    · exact .inl (isQuiet_of_rowBecomes hrow u (List.mem_eraseIdx_iff_getElem?.mpr ⟨i, hplace, hi⟩))
  · exact .inl (isQuiet_of_rowBecomes h u hu)

/-- Nothing is taken out of what a source becomes. -/
theorem takenTexts_of_sourceBecomes {needsImport : Bool} {ts : List Tree} {d : Document}
    (h : Tree.sourceBecomes needsImport ts d.trees = true) : Rewrite.takenTexts (ofDocument d) = [] := by
  unfold Rewrite.takenTexts
  rw [List.filter_eq_nil_iff]
  intro t ht
  have hrun := List.mem_map_of_mem (f := PlacedText.run) ht
  rw [map_run_placedTexts] at hrun
  have hquiet : isShown t.raw = false := areQuiet_landmarksOfAll (isQuiet_of_sourceBecomes h) 0 _ hrun
  rw [Bool.not_eq_true]
  exact hquiet

end Outline
end Phrasebook.Source

/-! ## 6. Rewriting again -/

namespace Phrasebook.Rewrite

open Source
open Splice (Patch)

variable {settings : Settings} {file source : String}

/-- A rewrite without records leaves the source as it is. -/
theorem code_of_records_eq_nil {r : Rewritten} (h : rewrite settings file source = .ok r) (hnil : r.records = []) :
    r.code = source := by
  obtain ⟨o, -, hrecords, ⟨-, hcode⟩ | ⟨hne, -⟩⟩ := rewrite_cases h
  · exact hcode
  · rw [hnil, eq_comm, List.map_eq_nil_iff] at hrecords
    exact absurd hrecords hne

/-- A source of which nothing is taken out has no records, and stays as it is. -/
theorem rewrite_of_takenTexts {o : Outline} (settings : Settings) (h : outline file source = .ok o)
    (hnone : takenTexts o = []) : rewrite settings file source = .ok ⟨source, component o.landmarks, []⟩ := by
  have hnil : insertionsOf settings file o = [] := by
    rw [← List.map_eq_nil_iff, map_text_insertionsOf, hnone]
  obtain ⟨code, hr⟩ := exists_rewrite_eq settings h
  rw [hr, hnil]
  rfl

/-- Whether the code of a rewrite is read as what the source becomes: its trees with an expression in the place of each
text that shows something, and with an import unless one binds the name of the lookup function. -/
def readsBack (settings : Settings) (file : String) (d : Document) (code : String) : Bool :=
  (Document.ofChars? (dialectOf file) code.toList).any fun d' =>
    Tree.sourceBecomes (!importsName (Outline.ofDocument d).landmarks settings.lookupFunction) d.trees d'.trees

/-- A source that can be read is rewritten; if its code reads back, rewriting the code extracts nothing and gives the
code. -/
theorem rewrite_idempotent {d : Document} (h : Document.ofChars? (dialectOf file) source.toList = some d)
    (hback : ∀ r, rewrite settings file source = .ok r → r.records ≠ [] → readsBack settings file d r.code = true) :
    ∃ r name, rewrite settings file source = .ok r ∧ rewrite settings file r.code = .ok ⟨r.code, name, []⟩ := by
  obtain ⟨r, hr⟩ := exists_rewrite settings (outline_of_ofChars? h)
  by_cases hrecords : r.records = []
  · -- then the code is the source, and rewriting it is the same once more
    have hcode := code_of_records_eq_nil hr hrecords
    refine ⟨r, r.component, hr, ?_⟩
    rw [hcode, hr, ← hrecords, ← hcode]
  · have hreads := hback r hr hrecords
    unfold readsBack at hreads
    obtain ⟨d', hd', hbecomes⟩ := Option.any_eq_true _ _ |>.mp hreads
    exact ⟨r, _, hr, rewrite_of_takenTexts settings (outline_of_ofChars? hd')
      (Outline.takenTexts_of_sourceBecomes hbecomes)⟩

/-- Where the edits of a source are known, its code is put together from the parts between them. -/
theorem code_of_cuts {d : Document} {r : Rewritten} {prologue tail : List Char} {patches : List Patch}
    (h : Document.ofChars? (dialectOf file) source.toList = some d) (hr : rewrite settings file source = .ok r)
    (hend : width prologue = (Outline.ofDocument d).prologueEnd)
    (hedits : Splice.editsFrom (width prologue) patches =
      (insertionsOf settings file (Outline.ofDocument d)).map (·.edit))
    (hcores : ∀ p ∈ patches, p.core ≠ []) (hpatches : patches ≠ [])
    (hsource : source.toList = prologue ++ Splice.original patches ++ tail) :
    r.records ≠ [] ∧
      r.code.toList = prologue ++ importText settings (Outline.ofDocument d) ++ Splice.patched patches ++ tail := by
  have happly := apply_edits settings file hend hcores hedits tail
  obtain ⟨o, ho, hrecords, hcases⟩ := rewrite_cases hr
  rw [outline_of_ofChars? h, Except.ok.injEq] at ho
  subst ho
  have hne : insertionsOf settings file (Outline.ofDocument d) ≠ [] := by
    intro hnil
    rw [hnil] at hedits
    cases patches with
    | nil => exact hpatches rfl
    | cons p ps => cases hedits
  obtain ⟨hnil, -⟩ | ⟨-, hcode⟩ := hcases
  · exact absurd hnil hne
  · rw [hsource, happly, Except.ok.injEq] at hcode
    exact ⟨by rw [hrecords]; exact mt List.map_eq_nil_iff.mp hne, hcode.symm⟩

/-! A source with a directive, a text between blanks in an attribute, and a text that is a blank written as a reference. -/

namespace Sample

def gallery : String := "'use client';\n<p title=\x7b<i> Ho </i>\x7d>&nbsp;</p>"

def galleryCode : String :=
  "'use client';\nimport \x7b t \x7d from 'textmark/runtime';\n" ++
    "<p title=\x7b<i> \x7bt('07ee21fc1e2688a3')\x7d </i>\x7d>&nbsp;</p>"

def galleryCuts : List Patch :=
  [⟨"\n<p title=\x7b<i> ".toList, "Ho".toList, "\x7bt('07ee21fc1e2688a3')\x7d".toList⟩]

theorem exists_gallery : ∃ d, Document.ofChars? (dialectOf "a.jsx") gallery.toList = some d ∧
    decide (width "'use client';".toList = (Outline.ofDocument d).prologueEnd ∧
      Splice.editsFrom (width "'use client';".toList) galleryCuts =
        (insertionsOf Settings.standard "a.jsx" (Outline.ofDocument d)).map (·.edit) ∧
          "'use client';".toList ++ importText Settings.standard (Outline.ofDocument d) ++ Splice.patched galleryCuts ++
            " </i>\x7d>&nbsp;</p>".toList = galleryCode.toList ∧
              readsBack Settings.standard "a.jsx" d galleryCode = true) = true :=
  Option.any_eq_true _ _ |>.mp (by decide +kernel)

end Sample

open Sample in
theorem rewrite_idempotent_gallery :
    ∃ r name, rewrite Settings.standard "a.jsx" gallery = .ok r ∧ r.code = galleryCode ∧
      rewrite Settings.standard "a.jsx" r.code = .ok ⟨r.code, name, []⟩ := by
  obtain ⟨d, hd, hchecks⟩ := exists_gallery
  obtain ⟨hend, hedits, hparts, hreads⟩ := of_decide_eq_true hchecks
  have hcode : ∀ r, rewrite Settings.standard "a.jsx" gallery = .ok r → r.code = galleryCode := fun r hr =>
    String.toList_inj.mp ((code_of_cuts hd hr hend hedits (by decide) (by decide) rfl).2.trans hparts)
  obtain ⟨r, name, hr, hagain⟩ := rewrite_idempotent hd fun r hr _ => hcode r hr ▸ hreads
  exact ⟨r, name, hr, hcode r hr, hagain⟩

end Phrasebook.Rewrite
