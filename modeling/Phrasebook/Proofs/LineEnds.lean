import Mathlib.Algebra.GroupWithZero.Nat
import Phrasebook.Proofs.Commands
import Phrasebook.Proofs.RewrittenTrees

/-!
# Line ends of rewritten files

A command that rewrites a file reads its text with every line ending alike, and it is this text whose rewrite it writes
back. Of a file without carriage returns it keeps everything but the texts that it takes out. A file with carriage returns
is kept so only if all of them are in these texts: elsewhere none comes back.

Results:
1. `mem_of_mem_localeVariable`: the variable that calls hand on is spelled with characters of the source.
2. `isEdited_of_isCut`: what a rewrite makes of a text.
3. `count_of_isEdited`: what is in a text and in nothing that was made of it was in the texts that were taken out.
4. `keepsFormatting_of_scanFile`: what a command makes of a file.
-/

namespace Phrasebook.Source

/-! ## 1. Names that come from the source -/

namespace Tree

theorem mem_charsOf {c : Char} {t : Tree} {ts : List Tree} (ht : t ∈ ts) (h : c ∈ t.chars) : c ∈ charsOf ts := by
  induction ts with
  | nil => exact absurd ht List.not_mem_nil
  | cons u us ih =>
    rw [charsOf, List.mem_append]
    rcases List.mem_cons.mp ht with rfl | ht
    · exact .inl h
    · exact .inr (ih ht)

theorem mem_chars_of_mem_children {c : Char} {t u : Tree} (hu : u ∈ t.children) (h : c ∈ u.chars) : c ∈ t.chars := by
  cases t with
  | leaf r k b text => exact absurd hu List.not_mem_nil
  | node r k cs => exact mem_charsOf hu h

theorem mem_chars_of_part {c : Char} {t u : Tree} {r : Role} (hu : t.part r = some u) (h : c ∈ u.chars) : c ∈ t.chars :=
  mem_chars_of_mem_children (List.mem_of_find?_eq_some hu) h

theorem mem_chars_of_mem_word {c : Char} {t : Tree} (h : c ∈ t.word.toList) : c ∈ t.chars := by
  rw [word, String.toList_ofList] at h
  exact List.mem_of_mem_drop h

end Tree

namespace Outline

/-- The local name that a part of a pattern binds is in the part. -/
theorem mem_chars_of_binding {c : Char} {t : Tree} {names : String × String} (hbinding : binding t = some names)
    (h : c ∈ names.2.toList) : c ∈ t.chars := by
  rw [binding.eq_def] at hbinding
  split at hbinding
  · rw [← Option.some.inj hbinding] at h
    exact Tree.mem_chars_of_mem_word h
  · obtain ⟨l, hl, rfl⟩ := Option.map_eq_some_iff.mp hbinding
    exact Tree.mem_chars_of_part hl (Tree.mem_chars_of_mem_word h)
  · split at hbinding
    · rename_i key value hkey hvalue
      dsimp only at hbinding
      split at hbinding
      · rename_i l htarget
        split at hbinding
        · rw [← Option.some.inj hbinding] at h
          have hl := Tree.mem_chars_of_mem_word h
          refine Tree.mem_chars_of_part hvalue ?_
          split at htarget
          · exact Tree.mem_chars_of_part htarget hl
          · rwa [Option.some.inj htarget]
        · exact absurd hbinding (by simp)
      · exact absurd hbinding (by simp)
    · exact absurd hbinding (by simp)
  · exact absurd hbinding (by simp)

/-- Variables that are taken from a call are spelled with characters of some source. -/
def SpelledWith (cs : List Char) : Landmark → Prop
  | .destructuring _ bindings => ∀ property name, bindings.get? property = some name → ∀ c ∈ name.toList, c ∈ cs
  | _ => True

theorem SpelledWith.mono {cs ds : List Char} {l : Landmark} (h : SpelledWith cs l) (hsub : ∀ c ∈ cs, c ∈ ds) :
    SpelledWith ds l := by
  cases l with
  | destructuring callee bindings => exact fun property name hname c hc => hsub c (h property name hname c hc)
  | _ => trivial

theorem spelledWith_ofDeclarator {t : Tree} {l : Landmark} (h : l ∈ ofDeclarator t) : SpelledWith t.chars l := by
  rw [ofDeclarator.eq_def] at h
  split at h
  · rename_i pattern value hname hvalue
    split at h
    · rw [List.mem_singleton.mp h]
      trivial
    · split at h
      · split at h
        · split at h
          · rw [List.mem_singleton.mp h]
            intro property name hget c hc
            rw [Entries.get?_ofList] at hget
            obtain ⟨u, hu, hbinding⟩ := List.mem_filterMap.mp (List.mem_reverse.mp (Entries.mem_of_get? hget))
            exact Tree.mem_chars_of_part hname (Tree.mem_chars_of_mem_children hu (mem_chars_of_binding hbinding hc))
          · exact absurd h List.not_mem_nil
        · exact absurd h List.not_mem_nil
      · exact absurd h List.not_mem_nil
  · exact absurd h List.not_mem_nil

theorem spelledWith_toList {α : Type} {found : Option α} {f : α → Landmark} {cs : List Char} {l : Landmark}
    (hl : l ∈ (found.map f).toList) (h : ∀ x, SpelledWith cs (f x)) : SpelledWith cs l := by
  obtain ⟨x, -, rfl⟩ := Option.map_eq_some_iff.mp (Option.mem_toList.mp hl)
  exact h x

theorem spelledWith_ofExport {t : Tree} {l : Landmark} (h : l ∈ ofExport t) : SpelledWith t.chars l := by
  rw [ofExport.eq_def] at h
  split at h
  · split at h
    · split at h
      · exact spelledWith_toList h fun _ => trivial
      · exact absurd h List.not_mem_nil
    · split at h
      · split at h
        · rw [List.mem_singleton.mp h]
          trivial
        · split at h
          · exact spelledWith_toList h fun _ => trivial
          · exact absurd h List.not_mem_nil
      · exact absurd h List.not_mem_nil
  · exact absurd h List.not_mem_nil

theorem spelledWith_ofConstruct {t : Tree} {l : Landmark} (h : l ∈ ofConstruct t) : SpelledWith t.chars l := by
  rw [ofConstruct.eq_def] at h
  split at h
  · exact spelledWith_toList h fun _ => trivial
  · exact spelledWith_ofDeclarator h
  · exact spelledWith_ofExport h
  · rw [List.mem_singleton.mp h]
    trivial
  · exact absurd h List.not_mem_nil

mutual
theorem spelledWith_landmarksOf {place : Nat} {t : Tree} {l : Landmark} (h : l ∈ landmarksOf place t) :
    SpelledWith t.chars l := by
  match t with
  | .leaf _ _ _ _ => exact absurd h List.not_mem_nil
  | .node r k cs =>
    rw [landmarksOf] at h
    split at h
    · obtain ⟨root, -, rfl⟩ := List.mem_map.mp h
      trivial
    · split at h
      · exact spelledWith_ofConstruct h
      · rcases List.mem_append.mp h with h | h
        · exact spelledWith_ofConstruct h
        · exact spelledWith_landmarksOfAll h
theorem spelledWith_landmarksOfAll {place : Nat} {ts : List Tree} {l : Landmark} (h : l ∈ landmarksOfAll place ts) :
    SpelledWith (Tree.charsOf ts) l := by
  match ts with
  | [] => exact absurd h List.not_mem_nil
  | t :: ts =>
    rw [landmarksOfAll] at h
    rcases List.mem_append.mp h with h | h
    · exact (spelledWith_landmarksOf h).mono fun c hc => List.mem_append_left _ hc
    · exact (spelledWith_landmarksOfAll h).mono fun c hc => List.mem_append_right _ hc
end

end Outline

/-- The variable that holds the locale is spelled with characters of the source. -/
theorem mem_of_mem_localeVariable {d : Document} {hook name : String}
    (h : localeVariable (Outline.ofDocument d).landmarks hook = some name) : ∀ c ∈ name.toList, c ∈ d.source := by
  obtain ⟨l, hl, htaken⟩ := List.exists_of_findSome?_eq_some h
  have hspelled := Outline.spelledWith_landmarksOfAll hl
  rw [d.chars_eq] at hspelled
  cases l with
  | destructuring callee bindings =>
    rw [Landmark.taken?] at htaken
    split at htaken
    · exact hspelled _ name (Option.filter_eq_some_iff.mp htaken).1
    · exact absurd htaken (by simp)
  | _ => exact absurd htaken (by simp [Landmark.taken?])

end Phrasebook.Source

/-! ## 2. What is made of a text -/

namespace Phrasebook.Rewrite

open Source
open Splice (Patch)

variable {settings : Settings} {file : String}

/-- One text is another with the texts of its outline replaced by the calls of keys, and with at most one import put in. -/
def IsEdited (settings : Settings) (o : Outline) (keys : List String) (old new : List Char) : Prop :=
  ∃ (before after : List Patch) (gap inserted tail : List Char),
    old = Splice.original before ++ gap ++ Splice.original after ++ tail ∧
      new = Splice.patched before ++ gap ++ inserted ++ Splice.patched after ++ tail ∧
        (before ++ after).map Patch.core = (takenTexts o).map (fun t => Text.trim t.raw) ∧
          (before ++ after).map Patch.replacement =
            keys.map (fun key => (callText settings.lookupFunction key (localeName settings o)).toList) ∧
            (inserted = [] ∨ ∃ place, inserted = importTextAt settings place)

/-- A cut source is edited where it is cut. -/
theorem isEdited_of_isCut {o : Outline} {source : String} {r : Rewritten} {prologue tail : List Char}
    {patches : List Patch} (hcut : IsCut settings o source r prologue (importText settings o) patches tail) :
    IsEdited settings o (r.records.map (·.key)) source.toList r.code.toList := by
  refine ⟨[], patches, prologue, importText settings o, tail, hcut.source_eq, hcut.code_eq, hcut.cores_eq, ?_, ?_⟩
  · rw [List.nil_append, hcut.replacements_eq, List.map_map]
    rfl
  · rw [importText]
    split
    · exact .inl rfl
    · exact .inr ⟨_, rfl⟩

/-! ## 3. Carriage returns -/

theorem not_mem_unifyLines (cs : List Char) : '\r' ∉ Text.unifyLines cs := by
  fun_induction Text.unifyLines cs with
  | case1 => exact List.not_mem_nil
  | case2 r ih => simpa using ih
  | case3 r _ ih => simpa using ih
  | case4 c r _ hreturn ih =>
    rw [List.mem_cons, not_or]
    exact ⟨fun hc => hreturn hc.symm, ih⟩

/-- Where no part that stays has a character, all of them are in the parts that are replaced. -/
theorem count_original {c : Char} {patches : List Patch} (h : c ∉ Splice.patched patches) :
    (Splice.original patches).count c = (patches.map fun p => p.core.count c).sum := by
  induction patches with
  | nil => rfl
  | cons p ps ih =>
    rw [Splice.patched_cons, List.mem_append, List.mem_append, not_or, not_or] at h
    rw [Splice.original_cons, List.count_append, List.count_append, List.count_eq_zero.mpr h.1.1, Nat.zero_add, ih h.2,
      List.map_cons, List.sum_cons]

/-- If a character is nowhere in what was made of a text, the text has it in what was taken out alone. -/
theorem count_of_isEdited {c : Char} {o : Outline} {keys : List String} {old new : List Char}
    (h : IsEdited settings o keys old new) (hc : c ∉ new) :
    old.count c = ((takenTexts o).map fun t => (Text.trim t.raw).count c).sum := by
  obtain ⟨before, after, gap, inserted, tail, rfl, rfl, hcores, -, -⟩ := h
  simp only [List.mem_append, not_or] at hc
  obtain ⟨⟨⟨⟨hbefore, hgap⟩, -⟩, hafter⟩, htail⟩ := hc
  have hsum := congrArg (fun cores => (cores.map (List.count c)).sum) hcores
  rw [List.map_append, List.map_append, List.sum_append, List.map_map, List.map_map, List.map_map] at hsum
  rw [List.count_append, List.count_append, List.count_append, count_original hbefore, count_original hafter,
    List.count_eq_zero.mpr hgap, List.count_eq_zero.mpr htail]
  exact hsum

/-- Neither part of a call has a carriage return, so the call has none. -/
theorem not_mem_callText {key : String} {name : Option String} (hfunction : '\r' ∉ settings.lookupFunction.toList)
    (hkey : '\r' ∉ key.toList) (hname : ∀ n, name = some n → '\r' ∉ n.toList) :
    '\r' ∉ (callText settings.lookupFunction key name).toList := by
  cases name with
  | none => simp [callText, hfunction, hkey]
  | some n => simp [callText, hfunction, hkey, hname n rfl]

theorem not_mem_importText (o : Outline) (hfunction : '\r' ∉ settings.lookupFunction.toList)
    (hmodule : '\r' ∉ settings.runtimeModule.toList) : '\r' ∉ importText settings o := by
  rw [importText]
  split
  · exact List.not_mem_nil
  · rw [importTextAt]
    split <;> simp [importStatement, hfunction, hmodule]

/-- The keys of records have no carriage return. -/
theorem not_mem_key {source : String} {r : Rewritten} (hr : rewrite settings file source = .ok r) {record : Record}
    (h : record ∈ r.records) : '\r' ∉ record.key.toList := by
  rw [records_of_rewrite hr] at h
  obtain ⟨i, hi, rfl⟩ := List.mem_map.mp h
  rw [key_of_insertion hi, Key.within]
  intro hmem
  obtain ⟨n, hn, heq⟩ := Key.mem_of hmem
  revert n
  decide

/-- A rewrite makes no carriage return unless the settings have one. -/
theorem not_mem_code {source : String} {r : Rewritten} (hr : rewrite settings file source = .ok r)
    (hsource : '\r' ∉ source.toList) (hfunction : '\r' ∉ settings.lookupFunction.toList)
    (hmodule : '\r' ∉ settings.runtimeModule.toList) : '\r' ∉ r.code.toList := by
  by_cases hne : r.records = []
  · rwa [code_of_records_eq_nil hr hne]
  obtain ⟨o, prologue, patches, tail, ho, hcut⟩ := isCut_of_rewrite hr hne
  obtain ⟨d, hd, rfl⟩ := exists_document_of_outline ho
  have hname (n : String) (hn : localeName settings (Outline.ofDocument d) = some n) : '\r' ∉ n.toList := by
    intro hmem
    have hd' := mem_of_mem_localeVariable hn _ hmem
    rw [(exists_sourceRule_of_ofChars? hd).1] at hd'
    exact hsource hd'
  have hreplacement (p : Patch) (hp : p ∈ patches) : '\r' ∉ p.replacement := by
    have hmem := List.mem_map_of_mem (f := Patch.replacement) hp
    rw [hcut.replacements_eq] at hmem
    obtain ⟨record, hrecord, heq⟩ := List.mem_map.mp hmem
    rw [← heq]
    exact not_mem_callText hfunction (not_mem_key hr hrecord) hname
  rw [hcut.source_eq, List.mem_append, List.mem_append, not_or, not_or] at hsource
  obtain ⟨⟨hprologue, horiginal⟩, htail⟩ := hsource
  have hpatched : '\r' ∉ Splice.patched patches := by
    intro hmem
    obtain ⟨p, hp, hmem⟩ := List.mem_flatMap.mp hmem
    rcases List.mem_append.mp hmem with hgap | hcall
    · exact horiginal (List.mem_flatMap.mpr ⟨p, hp, List.mem_append_left _ hgap⟩)
    · exact hreplacement p hp hcall
  rw [hcut.code_eq]
  simp only [List.mem_append, not_or]
  exact ⟨⟨⟨hprologue, not_mem_importText _ hfunction hmodule⟩, hpatched⟩, htail⟩

end Phrasebook.Rewrite

/-! ## 4. Files -/

namespace Phrasebook.Command

open Text.Utf8 (encode)

variable {settings : Settings} {p : Progress} {w : Workspace} {path : Path} {cs : List Char}

/-- A source is written back to a file that is there. -/
theorem read_writtenBack {content : Bytes} (h : w.read path = .ok content) (code : String) :
    (writtenBack w path code).read path = .ok (encode code.toList) := by
  obtain ⟨hlocate, hat⟩ := Disk.read_eq_ok_iff.mp h
  have hput : w.disk.putFile (w.absolute path) (CatalogStore.bytesOf code) =
      .ok (w.disk.put (Disk.placeOf (w.absolute path)) (.file (CatalogStore.bytesOf code))) :=
    Disk.putFile_eq_ok_iff.mpr ⟨hlocate, Disk.at?_dropLast_of_locate hlocate, by rw [hat]; simp, rfl⟩
  rw [writtenBack, Workspace.onDisk, hput]
  exact Disk.read_putFile hput

/-- The text of a file: its characters with every line ending alike. -/
theorem sourceText_of_read (h : w.read path = .ok (encode cs)) :
    sourceText w path = .ok (String.ofList (Text.unifyLines cs)) := by
  rw [sourceText, h]
  dsimp only
  rw [Text.Utf8.decode_encode]

/-- New characters are those of a file with the texts in it replaced by calls and with at most one import put in, and keys
are those that a scan of the file finds. -/
def KeepsFormatting (settings : Settings) (w : Workspace) (path : Path) (old new : List Char) (keys : List String) : Prop :=
  ∃ name o, Scan.nameOf settings w path = some name ∧ Rewrite.outline name (String.ofList old) = .ok o ∧
    keys = ((⟨w, path, String.ofList old⟩ : Scanned).records settings).map (·.key) ∧
      Rewrite.IsEdited settings o keys old new

/-- Every carriage return of a file is in the texts that are taken out of it. -/
def HasReturnsOnlyInTexts (settings : Settings) (w : Workspace) (path : Path) (cs : List Char) : Prop :=
  ∃ name o, Scan.nameOf settings w path = some name ∧ Rewrite.outline name (String.ofList cs) = .ok o ∧
    cs.count '\r' = ((Rewrite.takenTexts o).map fun t => (Text.trim t.raw).count '\r').sum

/-- The scan that a command makes of a file: of its characters with every line ending alike. -/
def scanOf (w : Workspace) (path : Path) (cs : List Char) : Scanned := ⟨w, path, String.ofList (Text.unifyLines cs)⟩

/-- What a command writes back. -/
theorem read_scanFile (terminal : Terminal) (hread : p.workspace.read path = .ok (encode cs))
    (hfound : (scanOf p.workspace path cs).records settings ≠ []) :
    ((scanFile terminal settings true path).workspace p).read path =
      .ok (encode ((scanOf p.workspace path cs).result settings).code.toList) := by
  obtain ⟨content, hcontent⟩ : ∃ content, ((scanOf p.workspace path cs).after settings).read path = .ok content :=
    Scan.read_run hread
  have hchanged : ((scanOf p.workspace path cs).result settings).changed = true := by
    rw [Scan.changed, Bool.not_eq_true', List.isEmpty_eq_false_iff]
    exact hfound
  rw [workspace_scanFile, afterFile, sourceText_of_read hread]
  dsimp only
  rw [← scanOf, hchanged, Bool.and_true, if_pos rfl]
  exact read_writtenBack hcontent _

/-- A scan that has found something has rewritten the characters that were scanned. -/
theorem exists_isCut_of_records (hfound : (scanOf w path cs).records settings ≠ []) :
    ∃ name o prologue patches tail r, Scan.nameOf settings w path = some name ∧
      Rewrite.outline name (String.ofList (Text.unifyLines cs)) = .ok o ∧
        Rewrite.rewrite settings name (String.ofList (Text.unifyLines cs)) = .ok r ∧
          (scanOf w path cs).result settings = ⟨r.code, r.records, none⟩ ∧
            Rewrite.IsCut settings o (String.ofList (Text.unifyLines cs)) r prologue (Rewrite.importText settings o)
              patches tail := by
  rcases Scan.run_cases settings w none path (String.ofList (Text.unifyLines cs)) with
    ⟨name, r, hr, hrun⟩ | ⟨reason, hrun⟩
  · have hrecords : (scanOf w path cs).records settings = r.records := by
      rw [Scanned.records, Scanned.result, scanOf, hrun]
    obtain ⟨o, prologue, patches, tail, ho, hcut⟩ := Rewrite.isCut_of_rewrite hr.rewrite_eq (hrecords ▸ hfound)
    exact ⟨name, o, prologue, patches, tail, r, hr.name_eq, ho, hr.rewrite_eq, hrun, hcut⟩
  · rw [Scanned.records, Scanned.result, scanOf, hrun] at hfound
    exact absurd rfl hfound

/-- What a command makes of a file whose texts it takes out. Of the file with every line ending alike it keeps the
formatting, and so it does of a file without carriage returns. Of another file it does so only if all of these are in the
texts that are taken out, unless the settings put some in. -/
theorem keepsFormatting_of_scanFile (terminal : Terminal) (hread : p.workspace.read path = .ok (encode cs))
    (hfound : (scanOf p.workspace path cs).records settings ≠ []) :
    ∃ new keys, ((scanFile terminal settings true path).workspace p).read path = .ok (encode new) ∧
      keys = ((scanOf p.workspace path cs).records settings).map (·.key) ∧
        KeepsFormatting settings p.workspace path (Text.unifyLines cs) new keys ∧
          ('\r' ∉ cs → KeepsFormatting settings p.workspace path cs new keys) ∧
            ('\r' ∉ settings.lookupFunction.toList → '\r' ∉ settings.runtimeModule.toList →
              KeepsFormatting settings p.workspace path cs new keys →
                HasReturnsOnlyInTexts settings p.workspace path cs) := by
  obtain ⟨name, o, prologue, patches, tail, r, hname, ho, hr, hresult, hcut⟩ := exists_isCut_of_records hfound
  have hkept : KeepsFormatting settings p.workspace path (Text.unifyLines cs) r.code.toList
      (((scanOf p.workspace path cs).records settings).map (·.key)) := by
    refine ⟨name, o, hname, ho, rfl, ?_⟩
    have hedited := Rewrite.isEdited_of_isCut hcut
    rw [String.toList_ofList] at hedited
    rw [Scanned.records, hresult]
    exact hedited
  refine ⟨r.code.toList, _, ?_, rfl, hkept, fun hreturn => ?_, fun hfunction hmodule hkeeps => ?_⟩
  · rw [read_scanFile terminal hread hfound, hresult]
  · rwa [Catalog.unifyLines_of_ne_return fun c hc heq => hreturn (heq ▸ hc)] at hkept
  · obtain ⟨name', o', hname', ho', -, hedited⟩ := hkeeps
    refine ⟨name', o', hname', ho', Rewrite.count_of_isEdited hedited ?_⟩
    refine Rewrite.not_mem_code hr ?_ hfunction hmodule
    rw [String.toList_ofList]
    exact Rewrite.not_mem_unifyLines cs

namespace Sample

/-- A source whose lines end with a carriage return and a line feed. -/
def source : List Char := "import \x7b t \x7d from 'x';\r\n<p>Hi</p>;\r\n".toList

def file : Path := ⟨"", ["a.jsx"]⟩

/-- A directory with nothing in it but the source. -/
def directory : Workspace := { disk := [(["a.jsx"], .file (encode source))], directory := ⟨"/", []⟩, events := [] }

theorem nameOf_file : Scan.nameOf Settings.standard directory file = some "a.jsx" := by decide

theorem isEmpty_records : ((scanOf directory file source).records Settings.standard).isEmpty = false := by decide +kernel

theorem returns_in_texts :
    (Rewrite.insertions Settings.standard "a.jsx" (String.ofList source)).map
      (fun i => (Text.trim i.text.raw).count '\r') = [0] := by
  decide +kernel

end Sample

open Sample in
/-- The carriage returns of this source are between its texts, and they are lost. -/
theorem not_keepsFormatting_of_carriage_returns :
    ∃ new keys,
      ((scanFile (.ofWidth false 80) Settings.standard true file).workspace ⟨"", directory⟩).read file = .ok (encode new) ∧
      ¬ KeepsFormatting Settings.standard directory file source new keys := by
  have hfound : (scanOf directory file source).records Settings.standard ≠ [] := by
    rw [← List.isEmpty_eq_false_iff]
    exact isEmpty_records
  obtain ⟨new, keys, hread, -, -, -, honly⟩ :=
    @keepsFormatting_of_scanFile Settings.standard ⟨"", directory⟩ file source (.ofWidth false 80) rfl hfound
  refine ⟨new, keys, hread, fun hkeeps => ?_⟩
  obtain ⟨name, o, hname, ho, hcount⟩ := honly (by decide) (by decide) hkeeps
  obtain rfl := Option.some.inj (nameOf_file.symm.trans hname)
  have hsum := congrArg List.sum returns_in_texts
  rw [Rewrite.insertions, ho] at hsum
  dsimp only at hsum
  rw [← Rewrite.map_text_insertionsOf Settings.standard "a.jsx", List.map_map] at hcount
  exact absurd (hcount.trans hsum) (by decide)

end Phrasebook.Command
