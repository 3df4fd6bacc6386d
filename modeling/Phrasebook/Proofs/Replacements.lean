import Phrasebook.Proofs.Blanks
import Phrasebook.Proofs.LiteralTexts
import Phrasebook.Proofs.Rewrites
import Phrasebook.Proofs.Splices

/-!
# What a rewrite leaves alone

A rewrite cuts a source at the texts that it takes out: each without the blanks around it, one after the other, and none
of them empty. Between the cuts nothing changes, but for one import after the prologue where it is needed. The blanks
around a text stay in the source as they are written; those that are written as references are in the text, and are lost
if they are at its ends.

Results:
1. `occur_cores`: the texts that are taken out stand in the source, one after the other and after the prologue.
2. `exists_rewrite_isCut`: a source that can be read is rewritten, and its code is the source with these texts replaced.
3. `keepsShown_iff`: what a text shows is kept just if its characters between blanks show none at their ends.
-/

namespace Phrasebook.Rewrite

open Source
open Splice (Patch)

variable {settings : Settings} {file source : String}

/-! ## 1. The texts that are taken out -/

/-- Whether a text is more than blanks once its references are replaced. -/
def isTaken (t : PlacedText) : Bool := (shownText t.raw).any fun shown => isMeaningful (Text.trim shown)

/-- The texts of an outline that are more than blanks. -/
def takenTexts (o : Outline) : List PlacedText := (placedTexts o.landmarks).filter isTaken

/-- A text that is taken out: its characters without the blanks around them, and where they stand. -/
def core (t : PlacedText) : Run := (Text.trim t.raw, trimmedSpan t.raw t.span)

theorem extract_isSome (settings : Settings) (file component : String) (localeName : Option String) (t : PlacedText) :
    (extract settings file component localeName t).isSome = isTaken t := by
  rw [extract, isTaken]
  cases shownText t.raw with
  | none => rfl
  | some shown =>
    dsimp only [Option.any_some]
    split
    · rename_i h
      rw [h]
      rfl
    · rename_i h
      rw [Bool.not_eq_true] at h
      rw [h]
      rfl

/-- The insertions are those of the texts that are more than blanks. -/
theorem map_text_insertionsOf (settings : Settings) (file : String) (o : Outline) :
    (insertionsOf settings file o).map (·.text) = takenTexts o := by
  rw [insertionsOf, takenTexts, List.map_filterMap]
  induction placedTexts o.landmarks with
  | nil => rfl
  | cons t ts ih =>
    have hsome := extract_isSome settings file (component o.landmarks) (localeName settings o) t
    rw [List.filterMap_cons, List.filter_cons, ← hsome]
    cases extract settings file (component o.landmarks) (localeName settings o) t with
    | none => exact ih
    | some found => exact congrArg (t :: ·) ih

/-- What is taken out of a text of blanks and references is not empty. -/
theorem trim_ne_of_isTaken {t : PlacedText} (h : isTaken t = true) : Text.trim t.raw ≠ [] := by
  intro hnil
  -- a text of blanks shows itself
  rw [isTaken, shownText, CharRef.decode_blanks (Text.trim_eq_nil_iff.mp hnil), Option.any_some, hnil] at h
  exact absurd h (by decide)

/-- Of texts that stand in a source one after the other, so do those that are taken out. -/
theorem occur_cores {place : Nat} {cs : List Char} {ts : List PlacedText} (h : Occur place cs (ts.map PlacedText.run)) :
    Occur place cs ((ts.filter isTaken).map core) := by
  induction ts generalizing place cs with
  | nil => exact Occur.nil _ _
  | cons t ts ih =>
    obtain ⟨before, after, rfl, hspan, hrest⟩ := h
    have hlater := ih hrest
    rw [List.filter_cons]
    split
    · rename_i htaken
      have hraw := Text.leading_append_trim_append_trailing (trim_ne_of_isTaken htaken)
      have hwidth := congrArg width hraw
      rw [width_append, width_append] at hwidth
      refine ⟨before ++ Text.leading t.raw, Text.trailing t.raw ++ after, ?_, ?_, ?_⟩
      · conv => lhs; rw [PlacedText.run, ← hraw]
        simp only [core, List.append_assoc]
      · simp only [core, PlacedText.run, trimmedSpan, width_append] at hspan ⊢
        rw [hspan, Span.mk.injEq]
        dsimp only
        omega
      · refine Occur.prepend ?_
        have hplace : place + width (before ++ Text.leading t.raw) + width (core t).1 + width (Text.trailing t.raw) =
            place + width before + width t.run.1 := by
          simp only [core, PlacedText.run, width_append]
          omega
        rwa [hplace]
    · refine Occur.prepend ?_
      rwa [width_append, ← Nat.add_assoc]

/-! ## 2. The source between them -/

/-- Insertions of texts that stand in characters one after the other cut the characters. -/
theorem exists_patches {place : Nat} {cs : List Char} {is : List Insertion}
    (h : Occur place cs (is.map fun i => core i.text))
    (hrange : ∀ i ∈ is, i.edit.range = ((core i.text).2.start, (core i.text).2.stop)) :
    ∃ patches tail, cs = Splice.original patches ++ tail ∧
      patches.map Patch.core = is.map (fun i => Text.trim i.text.raw) ∧
        Splice.editsFrom place patches = is.map (·.edit) := by
  induction is generalizing place cs with
  | nil => exact ⟨[], cs, rfl, rfl, rfl⟩
  | cons i is ih =>
    obtain ⟨before, after, rfl, hspan, hrest⟩ := h
    obtain ⟨hi, his⟩ := List.forall_mem_cons.mp hrange
    obtain ⟨patches, tail, rfl, hcores, hedits⟩ := ih hrest his
    refine ⟨⟨before, Text.trim i.text.raw, i.edit.replacement⟩ :: patches, tail, ?_, ?_, ?_⟩
    · rw [Splice.original_cons, List.append_assoc (before ++ _)]
      rfl
    · rw [List.map_cons, hcores]
      rfl
    · have hsize : ∀ cs, Splice.size cs = width cs := fun cs => (width_eq cs).symm
      rw [Splice.editsFrom, hsize, hsize, List.map_cons]
      rw [hspan, Splice.Edit.range, Prod.mk.injEq] at hi
      exact congrArg₂ List.cons (congrArg₂ (Splice.Edit.mk · · i.edit.replacement) hi.1 hi.2).symm hedits

theorem mem_insertions {o : Outline} {i : Insertion} (h : outline file source = .ok o)
    (hi : i ∈ insertionsOf settings file o) : i ∈ insertions settings file source := by
  rw [insertions, h]
  exact hi

/-- What is inserted replaces the bytes of a text without the blanks around it by the call of its key. -/
theorem edit_of_insertionsOf {o : Outline} {i : Insertion} (h : outline file source = .ok o)
    (hi : i ∈ insertionsOf settings file o) :
    i.edit = ⟨(core i.text).2.start, (core i.text).2.stop,
      (callText settings.lookupFunction i.record.key (localeName settings o)).toList⟩ := by
  obtain ⟨o', -, ho', -, -, -, -, hedit⟩ := insertion_spec (mem_insertions h hi)
  rw [h, Except.ok.injEq] at ho'
  rw [ho']
  exact hedit

/-- What has an outline was read. -/
theorem exists_document_of_outline {o : Outline} (h : outline file source = .ok o) :
    ∃ d, Document.ofChars? (dialectOf file) source.toList = some d ∧ Outline.ofDocument d = o := by
  rw [outline] at h
  split at h
  · rename_i d hd
    exact ⟨d, hd, Except.ok.inj h⟩
  · exact absurd h (by simp)

theorem outline_of_ofChars? {d : Document} (h : Document.ofChars? (dialectOf file) source.toList = some d) :
    outline file source = .ok (Outline.ofDocument d) := by
  rw [outline, h]

/-- A source that can be read is cut into a prologue, the texts that are taken out, and what stands between them. -/
theorem exists_prologue_patches {o : Outline} (settings : Settings) (h : outline file source = .ok o) :
    ∃ prologue patches tail, source.toList = prologue ++ Splice.original patches ++ tail ∧
      width prologue = o.prologueEnd ∧ patches.map Patch.core = (takenTexts o).map (fun t => Text.trim t.raw) ∧
        Splice.editsFrom (width prologue) patches = (insertionsOf settings file o).map (·.edit) := by
  obtain ⟨d, hd, rfl⟩ := exists_document_of_outline h
  obtain ⟨hsource, -⟩ := exists_sourceRule_of_ofChars? hd
  obtain ⟨prologue, rest, hsplit, hend, hoccur⟩ :=
    Outline.occur_placedTexts fun t ht => Tree.isRegular_of_isWellRead (isWellRead_of_ofChars? hd t ht)
  have hcores := occur_cores hoccur
  rw [← takenTexts, ← map_text_insertionsOf settings file, List.map_map] at hcores
  obtain ⟨patches, tail, rfl, hpatches, hedits⟩ := exists_patches hcores fun i hi => by
    rw [edit_of_insertionsOf h hi, Splice.Edit.range]
  refine ⟨prologue, patches, tail, ?_, hend.symm, ?_, hedits⟩
  · rw [← hsource, hsplit, List.append_assoc]
  · rw [hpatches, ← map_text_insertionsOf settings file, List.map_map]
    rfl

/-- Nothing that is taken out is empty. -/
theorem core_ne_of_map_eq {o : Outline} {patches : List Patch}
    (h : patches.map Patch.core = (takenTexts o).map fun t => Text.trim t.raw) : ∀ p ∈ patches, p.core ≠ [] := by
  intro p hp
  have hmem := List.mem_map_of_mem (f := Patch.core) hp
  rw [h] at hmem
  obtain ⟨t, ht, heq⟩ := List.mem_map.mp hmem
  rw [← heq]
  exact trim_ne_of_isTaken (List.mem_filter.mp ht).2

/-! ## 3. The code -/

/-- What is put in after the prologue: the import, unless the landmarks tell of one. -/
def importText (settings : Settings) (o : Outline) : List Char :=
  if importsName o.landmarks settings.lookupFunction then [] else importTextAt settings o.prologueEnd

def importPatch (settings : Settings) (o : Outline) : Patch := ⟨[], [], (importEdit settings o.prologueEnd).replacement⟩

/-- The edits of an outline put the import after the prologue and the replacements in their places. -/
theorem apply_edits (settings : Settings) (file : String) {o : Outline} {prologue : List Char} {patches : List Patch}
    (hend : width prologue = o.prologueEnd) (hne : ∀ p ∈ patches, p.core ≠ [])
    (hedits : Splice.editsFrom (width prologue) patches = (insertionsOf settings file o).map (·.edit))
    (tail : List Char) :
    Splice.apply (prologue ++ Splice.original patches ++ tail) (edits settings o (extractAll settings file o)) =
      .ok (prologue ++ importText settings o ++ Splice.patched patches ++ tail) := by
  have hsize : Splice.size prologue = width prologue := (width_eq prologue).symm
  rw [edits, extractAll_eq, List.map_map, importText, importTextAt_eq]
  split
  · rw [List.append_nil, List.append_nil]
    refine Splice.apply_of_perm (List.Perm.of_eq ?_) (fun p hp => hne p (List.mem_of_mem_tail hp)) tail
    rw [hsize, hedits]
    rfl
  · -- the import replaces nothing, and from the left it is the first edit
    have himport : ((insertionsOf settings file o).map (·.edit) ++ [importEdit settings o.prologueEnd]).Perm
        (Splice.editsFrom (Splice.size prologue) (importPatch settings o :: patches)) := by
      rw [Splice.editsFrom, importPatch, Splice.size_nil, Nat.add_zero, hsize, hedits, hend]
      exact List.perm_append_singleton _ _
    have happly := Splice.apply_of_perm himport hne tail
    rw [Splice.original_cons, Splice.patched_cons, importPatch, List.nil_append, List.nil_append, List.nil_append,
      ← List.append_assoc prologue] at happly
    exact happly

/-- A source cut into the parts that its rewrite keeps and those that it replaces. -/
structure IsCut (settings : Settings) (o : Outline) (source : String) (r : Rewritten) (prologue added : List Char)
    (patches : List Patch) (tail : List Char) : Prop where
  /-- The source is the prologue, the texts that are taken out with what stands before each of them, and the rest. -/
  source_eq : source.toList = prologue ++ Splice.original patches ++ tail
  /-- The prologue ends where an import may stand. -/
  prologue_width : width prologue = o.prologueEnd
  /-- What is taken out is the texts that are more than blanks, without the blanks around them. -/
  cores_eq : patches.map Patch.core = (takenTexts o).map fun t => Text.trim t.raw
  /-- It stands at the bytes of these. -/
  ranges_eq : (Splice.editsFrom (width prologue) patches).map Splice.Edit.range =
    (takenTexts o).map fun t => ((trimmedSpan t.raw t.span).start, (trimmedSpan t.raw t.span).stop)
  /-- These come after the prologue, and none is empty. -/
  bounds : ∀ e ∈ Splice.editsFrom (width prologue) patches, o.prologueEnd ≤ e.start ∧ e.start < e.stop
  /-- Each ends before the next one starts. -/
  increasing : (Splice.editsFrom (width prologue) patches).Pairwise fun a b => a.stop ≤ b.start
  /-- What is put in is the calls of the keys of the records, in their order. -/
  replacements_eq : patches.map Patch.replacement =
    r.records.map fun record => (callText settings.lookupFunction record.key (localeName settings o)).toList
  /-- The code is the same parts with these in them, and with what is added after the prologue. -/
  code_eq : r.code.toList = prologue ++ added ++ Splice.patched patches ++ tail

/-- What a rewrite gives if its edits can be applied. -/
theorem rewrite_eq {o : Outline} {code : List Char} (h : outline file source = .ok o)
    (hcode : Splice.apply source.toList (edits settings o (extractAll settings file o)) = .ok code) :
    rewrite settings file source =
      .ok ⟨if (insertionsOf settings file o).isEmpty then source else String.ofList code, component o.landmarks,
        (insertionsOf settings file o).map (·.record)⟩ := by
  have hrecords : (extractAll settings file o).map Prod.fst = (insertionsOf settings file o).map (·.record) := by
    rw [extractAll_eq, List.map_map]
    rfl
  have hempty : (extractAll settings file o).isEmpty = (insertionsOf settings file o).isEmpty := by
    rw [extractAll_eq, List.isEmpty_map]
  have hdecoded : ((placedTexts o.landmarks).any fun t => (shownText t.raw).isNone) = false := by
    obtain ⟨d, hd, rfl⟩ := exists_document_of_outline h
    rw [List.any_eq_false]
    intro t ht
    obtain ⟨shown, hshown⟩ := exists_shownText hd t ht
    simp [hshown]
  rw [rewrite, h]
  dsimp only
  rw [hdecoded, if_neg Bool.false_ne_true, hempty, hcode, hrecords]
  split
  · rename_i hnil
    rw [List.isEmpty_iff.mp hnil]
    rfl
  · rfl

theorem exists_rewrite_eq (settings : Settings) {o : Outline} (h : outline file source = .ok o) :
    ∃ code, rewrite settings file source =
      .ok ⟨if (insertionsOf settings file o).isEmpty then source else String.ofList code, component o.landmarks,
        (insertionsOf settings file o).map (·.record)⟩ := by
  obtain ⟨prologue, patches, tail, hsource, hend, hcores, hedits⟩ := exists_prologue_patches settings h
  have happly := apply_edits settings file hend (core_ne_of_map_eq hcores) hedits tail
  rw [← hsource] at happly
  exact ⟨_, rewrite_eq h happly⟩

theorem exists_rewrite (settings : Settings) {o : Outline} (h : outline file source = .ok o) :
    ∃ r, rewrite settings file source = .ok r :=
  (exists_rewrite_eq settings h).imp' _ fun _ hr => hr

/-- The keys of what is inserted are 16 hexadecimal digits. -/
theorem key_of_insertionsOf {o : Outline} {i : Insertion} (h : outline file source = .ok o)
    (hi : i ∈ insertionsOf settings file o) :
    i.record.key.length = 16 ∧ ∀ c ∈ i.record.key.toList, ∃ n < 16, c = Text.hexDigit n := by
  rw [key_of_insertion (mem_insertions h hi), Key.within]
  exact ⟨Key.length_of _ _, fun c hc => Key.mem_of hc⟩

/-- A rewrite whose code is put together from the parts of its source. -/
theorem isCut_of_edits {o : Outline} {r : Rewritten} {prologue tail : List Char} {patches : List Patch}
    (h : outline file source = .ok o) (hsource : source.toList = prologue ++ Splice.original patches ++ tail)
    (hend : width prologue = o.prologueEnd)
    (hcores : patches.map Patch.core = (takenTexts o).map fun t => Text.trim t.raw)
    (hedits : Splice.editsFrom (width prologue) patches = (insertionsOf settings file o).map (·.edit))
    (hrecords : r.records = (insertionsOf settings file o).map (·.record))
    {added : List Char} (hcode : r.code.toList = prologue ++ added ++ Splice.patched patches ++ tail) :
    IsCut settings o source r prologue added patches tail where
  source_eq := hsource
  prologue_width := hend
  cores_eq := hcores
  ranges_eq := by
    rw [hedits, ← map_text_insertionsOf settings file, List.map_map, List.map_map]
    refine List.map_congr_left fun i hi => ?_
    rw [Function.comp_apply, edit_of_insertionsOf h hi]
    rfl
  bounds := fun e he =>
    ⟨hend ▸ (Splice.le_of_mem_editsFrom he).1, Splice.lt_of_mem_editsFrom (core_ne_of_map_eq hcores) he⟩
  increasing := Splice.pairwise_editsFrom _ _
  replacements_eq := by
    rw [← Splice.map_replacement_editsFrom (width prologue), hedits, hrecords, List.map_map, List.map_map]
    refine List.map_congr_left fun i hi => ?_
    rw [Function.comp_apply, edit_of_insertionsOf h hi]
    rfl
  code_eq := hcode

/-- A source from which something is taken out is cut, and its code is put together from the parts. -/
theorem isCut_of_rewrite {r : Rewritten} (h : rewrite settings file source = .ok r) (hne : r.records ≠ []) :
    ∃ o prologue patches tail, outline file source = .ok o ∧
      IsCut settings o source r prologue (importText settings o) patches tail := by
  obtain ⟨o, ho, hrecords, ⟨hnil, -⟩ | ⟨-, hcode⟩⟩ := rewrite_cases h
  · rw [hrecords, hnil] at hne
    exact absurd rfl hne
  · obtain ⟨prologue, patches, tail, hsource, hend, hcores, hedits⟩ := exists_prologue_patches settings ho
    have happly := apply_edits settings file hend (core_ne_of_map_eq hcores) hedits tail
    rw [← hsource, hcode, Except.ok.injEq] at happly
    exact ⟨o, prologue, patches, tail, ho, isCut_of_edits ho hsource hend hcores hedits hrecords happly⟩

/-- A source that can be read is rewritten: without texts it stays as it is; else it is cut, the texts are replaced by
the calls of their keys, and nothing else changes but for the import. -/
theorem exists_rewrite_isCut (settings : Settings) {o : Outline} (h : outline file source = .ok o) :
    ∃ r, rewrite settings file source = .ok r ∧ r.records.length = (takenTexts o).length ∧
      (r.records = [] → r.code = source) ∧
        (r.records ≠ [] → ∃ prologue patches tail,
          IsCut settings o source r prologue (importText settings o) patches tail) ∧
          ∀ record ∈ r.records, record.key.length = 16 ∧ ∀ c ∈ record.key.toList, ∃ n < 16, c = Text.hexDigit n := by
  obtain ⟨prologue, patches, tail, hsource, hend, hcores, hedits⟩ := exists_prologue_patches settings h
  have happly := apply_edits settings file hend (core_ne_of_map_eq hcores) hedits tail
  rw [← hsource] at happly
  refine ⟨_, rewrite_eq h happly, ?_, fun hnil => ?_, fun hsome => ⟨prologue, patches, tail, ?_⟩, ?_⟩
  · rw [← map_text_insertionsOf settings file, List.length_map, List.length_map]
  · rw [List.map_eq_nil_iff] at hnil
    dsimp only
    rw [hnil]
    rfl
  · have hinserted : insertionsOf settings file o ≠ [] := fun hnil => hsome (List.map_eq_nil_iff.mpr hnil)
    refine isCut_of_edits h hsource hend hcores hedits rfl ?_
    dsimp only
    rw [if_neg fun hempty => hinserted (List.isEmpty_iff.mp hempty), String.toList_ofList]
  · intro record hrecord
    obtain ⟨i, hi, rfl⟩ := List.mem_map.mp hrecord
    exact key_of_insertionsOf h hi

/-! ## 4. What a text shows -/

/-- What a text shows is shown by its record together with the blanks that stay in the source before and after it. -/
def Insertion.KeepsShown (i : Insertion) : Prop :=
  ∃ before after shown, shownText (Text.leading i.text.raw) = some before ∧
    shownText (Text.trailing i.text.raw) = some after ∧ shownText i.text.raw = some shown ∧
      before ++ i.record.text.toList ++ after = shown

/-- The blanks around what is taken out show themselves. -/
theorem shownText_eq {raw : List Char} (hne : Text.trim raw ≠ []) :
    shownText raw = (shownText (Text.trim raw)).map fun core => Text.leading raw ++ core ++ Text.trailing raw := by
  conv => lhs; rw [← Text.leading_append_trim_append_trailing hne]
  rw [shownText, List.append_assoc, CharRef.decode_blank_append (Text.forall_leading raw),
    CharRef.decode_append_blank (Text.forall_trailing raw), Option.map_map, shownText]
  exact congrArg (Option.map · _) (funext fun core => (List.append_assoc _ _ _).symm)

theorem exists_core {raw shown : List Char} (h : shownText raw = some shown) (hne : Text.trim raw ≠ []) :
    ∃ core, shownText (Text.trim raw) = some core ∧ Text.leading raw ++ core ++ Text.trailing raw = shown :=
  Option.map_eq_some_iff.mp (shownText_eq hne ▸ h)

/-- What a text shows is kept just if what is taken out shows no blanks at its ends. -/
theorem keepsShown_iff {i : Insertion} (h : i ∈ insertions settings file source) :
    i.KeepsShown ↔ ∃ core, shownText (Text.trim i.text.raw) = some core ∧ Text.trim core = core := by
  obtain ⟨o, shown, -, -, hshown, hne, hrecord, -⟩ := insertion_spec h
  have hraw : Text.trim i.text.raw ≠ [] := by
    intro hnil
    rw [shownText, CharRef.decode_blanks (Text.trim_eq_nil_iff.mp hnil), Option.some.injEq] at hshown
    exact hne (hshown ▸ hnil)
  obtain ⟨core, hcore, hparts⟩ := exists_core hshown hraw
  have htext : i.record.text.toList = Text.trim core := by
    rw [hrecord, ← hparts, Text.trim_append (Text.forall_leading _) (Text.forall_trailing _)]
    exact String.toList_ofList
  have hbefore : shownText (Text.leading i.text.raw) = some (Text.leading i.text.raw) :=
    CharRef.decode_blanks (Text.forall_leading _)
  have hafter : shownText (Text.trailing i.text.raw) = some (Text.trailing i.text.raw) :=
    CharRef.decode_blanks (Text.forall_trailing _)
  rw [Insertion.KeepsShown, htext]
  constructor
  · rintro ⟨before, after, all, hb, ha, hall, heq⟩
    refine ⟨core, hcore, ?_⟩
    rw [hbefore, Option.some.injEq] at hb
    rw [hafter, Option.some.injEq] at ha
    rw [hshown, Option.some.injEq] at hall
    rw [← hb, ← ha, ← hall, ← hparts] at heq
    exact List.append_cancel_left (List.append_cancel_right heq)
  · rintro ⟨core', hcore', htrim⟩
    rw [hcore, Option.some.injEq] at hcore'
    rw [hcore', htrim, ← hcore']
    exact ⟨_, _, _, hbefore, hafter, hshown, hparts⟩

namespace Sample

/-- A source with a text that starts with a reference to a blank. -/
def indented : String := "import \x7b t \x7d from 'x';\n<p>&nbsp;Hi</p>"

end Sample

open Sample in
theorem not_keepsShown_of_indented :
    (insertions Settings.standard "a.jsx" indented).length = 1 ∧
      ∀ i ∈ insertions Settings.standard "a.jsx" indented, ¬ i.KeepsShown := by
  have hcores : (insertions Settings.standard "a.jsx" indented).map (fun i => shownText (Text.trim i.text.raw)) =
      [some ['\u00a0', 'H', 'i']] := by decide +kernel
  refine ⟨by simpa using congrArg List.length hcores, fun i hi hkeeps => ?_⟩
  obtain ⟨core, hcore, htrim⟩ := (keepsShown_iff hi).mp hkeeps
  have hmem := List.mem_map_of_mem (f := fun i => shownText (Text.trim i.text.raw)) hi
  rw [hcores, hcore, List.mem_singleton, Option.some.injEq] at hmem
  rw [hmem] at htrim
  exact absurd htrim (by decide)

end Phrasebook.Rewrite
