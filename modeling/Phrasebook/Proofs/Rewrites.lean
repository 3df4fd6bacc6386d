import Phrasebook.Proofs.Records
import Phrasebook.Rewrite

/-!
# What a rewrite puts into a source

A rewrite replaces some of the texts of a source by calls. Each call looks up the key of a record of the rewrite, and
the record holds the text that was replaced.

Results:
1. `records_of_rewrite`: the records of a rewrite are those of its insertions.
2. `code_of_rewrite`: the code of a rewrite is the source with the edits of its insertions.
3. `insertion_spec`: what is inserted, where, and for which text.
-/

namespace Phrasebook.Rewrite

open Source

/-- A text of a source, with its record and the edit that puts a call in its place. -/
structure Insertion where
  text : PlacedText
  record : Record
  edit : Splice.Edit
  deriving Repr

variable {settings : Settings} {file source : String}

/-- The name of the variable that calls hand on, if a source has one. -/
def localeName (settings : Settings) (o : Outline) : Option String := localeVariable o.landmarks settings.localeHook

/-- What is inserted into a source with some outline. -/
def insertionsOf (settings : Settings) (file : String) (o : Outline) : List Insertion :=
  (placedTexts o.landmarks).filterMap fun t =>
    (extract settings file (component o.landmarks) (localeName settings o) t).map fun found => ⟨t, found.1, found.2⟩

def insertions (settings : Settings) (file source : String) : List Insertion :=
  match outline file source with
  | .ok o => insertionsOf settings file o
  | .error _ => []

/-- A call as it is written in a source: `{fn('key')}`, or `{fn('key', name)}` if it has a second argument. -/
def callText (fn key : String) : Option String → String
  | none => "\x7b" ++ fn ++ "('" ++ key ++ "')\x7d"
  | some name => "\x7b" ++ fn ++ "('" ++ key ++ "', " ++ name ++ ")\x7d"

theorem lookupCall_eq (settings : Settings) (argument : Option String) (key : String) :
    lookupCall settings argument key = (callText settings.lookupFunction key argument).toList := by
  cases argument <;> simp [lookupCall, callText]

def importStatement (settings : Settings) : String :=
  "import \x7b " ++ settings.lookupFunction ++ " \x7d from '" ++ settings.runtimeModule ++ "';"

/-- The import as it is put in at a byte: at the start of a source the line ends after it, elsewhere before it. -/
def importTextAt (settings : Settings) (place : Nat) : List Char :=
  (if place = 0 then importStatement settings ++ "\n" else "\n" ++ importStatement settings).toList

theorem importTextAt_eq (settings : Settings) (place : Nat) :
    importTextAt settings place = (importEdit settings place).replacement := by
  rw [importTextAt, importEdit, beq_eq_decide]
  split <;> simp [importLine, importStatement, *]

/-! ## 1. Records and edits -/

theorem extractAll_eq (settings : Settings) (file : String) (o : Outline) :
    extractAll settings file o = (insertionsOf settings file o).map fun i => (i.record, i.edit) := by
  rw [extractAll, insertionsOf, List.map_filterMap]
  refine List.filterMap_congr fun t _ => ?_
  rw [← localeName]
  cases extract settings file (component o.landmarks) (localeName settings o) t <;> rfl

/-- What a rewrite gives: the records of its insertions, and the source with their edits if there are any. -/
theorem rewrite_cases {r : Rewritten} (h : rewrite settings file source = .ok r) :
    ∃ o, outline file source = .ok o ∧ r.records = (insertionsOf settings file o).map (·.record) ∧
      ((insertionsOf settings file o = [] ∧ r.code = source) ∨
        (insertionsOf settings file o ≠ [] ∧
          Splice.apply source.toList (edits settings o (extractAll settings file o)) = .ok r.code.toList)) := by
  rw [rewrite] at h
  split at h
  · exact absurd h (by simp)
  · rename_i o ho
    refine ⟨o, ho, ?_⟩
    dsimp only at h
    split at h
    · exact absurd h (by simp)
    · split at h
      · rename_i hempty
        rw [Except.ok.injEq] at h
        rw [extractAll_eq, List.isEmpty_map, List.isEmpty_iff] at hempty
        rw [← h, hempty]
        exact ⟨rfl, .inl ⟨rfl, rfl⟩⟩
      · rename_i hne
        rw [extractAll_eq, List.isEmpty_map, List.isEmpty_iff] at hne
        split at h
        · rename_i code hcode
          rw [Except.ok.injEq] at h
          rw [← h, hcode]
          refine ⟨?_, .inr ⟨hne, by rw [String.toList_ofList]⟩⟩
          rw [extractAll_eq, List.map_map]
          rfl
        · exact absurd h (by simp)

theorem records_of_rewrite {r : Rewritten} (h : rewrite settings file source = .ok r) :
    r.records = (insertions settings file source).map (·.record) := by
  obtain ⟨o, ho, hrecords, -⟩ := rewrite_cases h
  rw [insertions, ho, hrecords]

/-- Without edits a source stays as it is. -/
theorem apply_nil (source : List Char) : Splice.apply source [] = .ok source := by
  rw [Splice.apply, Splice.applyBytes, Splice.ordered, List.mergeSort_nil]
  exact Text.Utf8.decode_encode source

/-- The code of a rewrite is the source with the edits of its insertions, and with an import where one is needed. -/
theorem code_of_rewrite {r : Rewritten} (h : rewrite settings file source = .ok r) :
    ∃ more, (more = [] ∨ ∃ place, more = [⟨place, place, importTextAt settings place⟩]) ∧
      Splice.apply source.toList ((insertions settings file source).map (·.edit) ++ more) = .ok r.code.toList := by
  obtain ⟨o, ho, -, hcode⟩ := rewrite_cases h
  rw [insertions, ho]
  dsimp only
  rcases hcode with ⟨hnil, hsame⟩ | ⟨-, happly⟩
  · exact ⟨[], .inl rfl, by rw [hnil, hsame]; exact apply_nil _⟩
  · rw [edits, extractAll_eq, List.map_map] at happly
    refine ⟨_, ?_, happly⟩
    split
    · exact .inl rfl
    · exact .inr ⟨o.prologueEnd, by rw [importTextAt_eq]; rfl⟩

/-! ## 2. Insertions -/

/-- What an insertion is: the call of the key of a text in place of the text, without the blanks around it. -/
theorem insertion_spec {i : Insertion} (h : i ∈ insertions settings file source) :
    ∃ o shown, outline file source = .ok o ∧ i.text ∈ placedTexts o.landmarks ∧ shownText i.text.raw = some shown ∧
      Text.trim shown ≠ [] ∧ i.record = Record.extracted (String.ofList (Text.trim shown)) ⟨file, component o.landmarks, i.text.path⟩ ∧
      i.edit = ⟨(trimmedSpan i.text.raw i.text.span).start, (trimmedSpan i.text.raw i.text.span).stop,
        (callText settings.lookupFunction i.record.key (localeName settings o)).toList⟩ := by
  rw [insertions] at h
  split at h
  · rename_i o ho
    obtain ⟨t, ht, hi⟩ := List.mem_filterMap.mp h
    obtain ⟨⟨record, edit⟩, hextract, rfl⟩ := Option.map_eq_some_iff.mp hi
    rw [extract] at hextract
    split at hextract
    · exact absurd hextract (by simp)
    · rename_i shown hshown
      dsimp only at hextract
      split at hextract
      · rename_i hmeaningful
        rw [Option.some.injEq, Prod.mk.injEq] at hextract
        have hne : Text.trim shown ≠ [] := by
          intro hnil
          rw [hnil] at hmeaningful
          exact absurd hmeaningful (by decide)
        exact ⟨o, shown, ho, ht, hshown, hne, hextract.1.symm, by rw [← hextract.2, ← hextract.1, lookupCall_eq]⟩
      · exact absurd hextract (by simp)
  · exact absurd h List.not_mem_nil

theorem isCanonical_of_insertion {i : Insertion} (h : i ∈ insertions settings file source) : i.record.IsCanonical := by
  obtain ⟨o, shown, -, -, -, -, hrecord, -⟩ := insertion_spec h
  rw [hrecord]
  exact Record.extracted_isCanonical _ _

/-- No insertion stands for an empty text. -/
theorem text_ne_of_insertion {i : Insertion} (h : i ∈ insertions settings file source) : i.record.text ≠ "" := by
  obtain ⟨o, shown, -, -, -, hne, hrecord, -⟩ := insertion_spec h
  rw [hrecord]
  exact fun hempty => hne (String.ofList_eq_empty_iff.mp hempty)

/-- Records of rewrites have the keys of their texts and contexts. -/
theorem key_of_insertion {i : Insertion} (h : i ∈ insertions settings file source) :
    i.record.key = Key.within i.record.text i.record.context := by
  obtain ⟨o, shown, -, -, -, -, hrecord, -⟩ := insertion_spec h
  rw [hrecord]
  rfl

end Phrasebook.Rewrite
