import Phrasebook.Proofs.Scopes

/-!
# Where a rewrite cuts a source

A rewrite touches the texts that it takes out, and it adds an import where the clause of none binds the name of the lookup
function. A name that a required module has is not looked at, so an import of it is added then too; only so is more than the
texts touched in a source that binds the name.

Results:
1. `exists_isCut`: how the code of a rewrite is put together, whatever the imports.
2. `touchesTexts_iff`: when an import is added only to sources that do not bind the name.
-/

namespace Phrasebook.Rewrite

open Source
open Splice (Patch)

variable {settings : Settings} {file source : String} {d : Document}

/-- What is added after a prologue: the import, unless the clause of one binds the name. -/
def Adds (settings : Settings) (ts : List Tree) (prologue added : List Char) : Prop :=
  (ImportsName ts settings.lookupFunction → added = []) ∧
    (¬ ImportsName ts settings.lookupFunction →
      added = importTextAt settings (width prologue))

theorem adds_importText {prologue : List Char} (hend : width prologue = (Outline.ofDocument d).prologueEnd) :
    Adds settings d.trees prologue (importText settings (Outline.ofDocument d)) := by
  have himports : importsName (Outline.ofDocument d).landmarks settings.lookupFunction = true ↔
      ImportsName d.trees settings.lookupFunction := importsName_landmarksOfAll_iff
  rw [importText]
  refine ⟨fun h => if_pos (himports.mpr h), fun h => ?_⟩
  rw [if_neg (mt himports.mp h), ← hend]

/-- A source that can be read is rewritten. Its code is the source cut at the texts that are more than blanks, with the
calls of their keys in their places; and with an import after the prologue if the clause of none binds the name. -/
theorem exists_isCut (settings : Settings) (h : Document.ofChars? (dialectOf file) source.toList = some d) :
    ∃ r, rewrite settings file source = .ok r ∧ r.records = (insertions settings file source).map (·.record) ∧
      r.records.length = (takenTexts (Outline.ofDocument d)).length ∧ (r.records = [] → r.code = source) ∧
      (∀ record ∈ r.records, record.key.length = 16 ∧ ∀ c ∈ record.key.toList, ∃ n < 16, c = Text.hexDigit n) ∧
      (r.records ≠ [] → ∃ prologue added patches tail,
        IsCut settings (Outline.ofDocument d) source r prologue added patches tail ∧
          Adds settings d.trees prologue added) := by
  obtain ⟨r, hr, hlength, hnil, hcut, hkeys⟩ := exists_rewrite_isCut settings (outline_of_ofChars? h)
  refine ⟨r, hr, records_of_rewrite hr, hlength, hnil, hkeys, fun hne => ?_⟩
  obtain ⟨prologue, patches, tail, hparts⟩ := hcut hne
  exact ⟨prologue, _, patches, tail, hparts, adds_importText hparts.prologue_width⟩

/-! ## Imports that are added to sources that bind the name -/

/-- A rewrite touches the texts that it takes out; it adds an import only to a source in which none binds the name. -/
structure TouchesTexts (settings : Settings) (d : Document) (source : String) (r : Rewritten) : Prop where
  length_eq : r.records.length = (takenTexts (Outline.ofDocument d)).length
  keys : ∀ record ∈ r.records, record.key.length = 16 ∧ ∀ c ∈ record.key.toList, ∃ n < 16, c = Text.hexDigit n
  code_eq : r.records = [] → r.code = source
  cut : r.records ≠ [] → ∃ prologue added patches tail,
    IsCut settings (Outline.ofDocument d) source r prologue added patches tail ∧
      (added = [] ∨
        added = importTextAt settings (width prologue) ∧
          ¬ ImportsName d.trees settings.lookupFunction ∧ ¬ RequiresName d.trees settings.lookupFunction)

theorem length_original (patches : List Patch) :
    (Splice.original patches).length + (patches.map (·.replacement)).flatten.length =
      (Splice.patched patches).length + (patches.map (·.core)).flatten.length := by
  induction patches with
  | nil => rfl
  | cons p ps ih =>
    simp only [Splice.original_cons, Splice.patched_cons, List.length_append, List.map_cons, List.flatten_cons]
    omega

/-- However a source is cut, as much is added to it. -/
theorem length_added_eq {o : Outline} {r : Rewritten} {prologue added tail prologue' added' tail' : List Char}
    {patches patches' : List Patch} (h : IsCut settings o source r prologue added patches tail)
    (h' : IsCut settings o source r prologue' added' patches' tail') : added.length = added'.length := by
  have hsource := congrArg List.length (h.source_eq.symm.trans h'.source_eq)
  have hcode := congrArg List.length (h.code_eq.symm.trans h'.code_eq)
  have hlength := length_original patches
  have hlength' := length_original patches'
  rw [h.cores_eq, h.replacements_eq] at hlength
  rw [h'.cores_eq, h'.replacements_eq] at hlength'
  simp only [List.length_append] at hsource hcode
  omega

/-- A source that can be read is rewritten, and the texts alone are touched, but for one import in a source that does not
bind the name, just if nothing is taken out, or the clause of an import binds the name, or nothing else does. -/
theorem touchesTexts_iff (h : Document.ofChars? (dialectOf file) source.toList = some d) :
    ∃ r, rewrite settings file source = .ok r ∧
      (TouchesTexts settings d source r ↔ r.records = [] ∨ ImportsName d.trees settings.lookupFunction ∨
        ¬ RequiresName d.trees settings.lookupFunction) := by
  obtain ⟨r, hr, -, hlength, hnil, hkeys, hcut⟩ := exists_isCut settings h
  refine ⟨r, hr, fun htouches => ?_, fun hcases => ⟨hlength, hkeys, hnil, fun hne => ?_⟩⟩
  · by_cases hne : r.records = []
    · exact .inl hne
    · obtain ⟨prologue, added, patches, tail, hparts, hadded⟩ := htouches.cut hne
      obtain ⟨prologue', added', patches', tail', hparts', himported, hnone⟩ := hcut hne
      refine .inr (or_iff_not_imp_left.mpr fun himports => ?_)
      rcases hadded with hempty | ⟨-, -, hrequires⟩
      · -- as much is added as the import has characters
        have hsame := length_added_eq hparts hparts'
        rw [hempty, hnone himports, eq_comm, List.length_nil, List.length_eq_zero_iff, importTextAt] at hsame
        split at hsame <;> simp [importStatement] at hsame
      · exact hrequires
  · obtain ⟨prologue, added, patches, tail, hparts, himported, hnone⟩ := hcut hne
    refine ⟨prologue, added, patches, tail, hparts, ?_⟩
    by_cases himports : ImportsName d.trees settings.lookupFunction
    · exact .inl (himported himports)
    · exact .inr ⟨hnone himports, himports, (hcases.resolve_left hne).resolve_left himports⟩

namespace Sample

/-- A source that requires a module under the name of the lookup function. -/
def required : String := "import t = require('x');\nexport default () => <p>Hi</p>;\n"

theorem exists_required_trees : ∃ d, Document.ofChars? (dialectOf "a.tsx") required.toList = some d ∧
    decide (RequiresName d.trees "t" ∧ ¬ ImportsName d.trees "t" ∧ (takenTexts (Outline.ofDocument d)).length = 1) = true :=
  Option.any_eq_true _ _ |>.mp (by decide +kernel)

end Sample

open Sample in
theorem not_touchesTexts_of_required :
    ∃ d r, Document.ofChars? (dialectOf "a.tsx") required.toList = some d ∧
      rewrite Settings.standard "a.tsx" required = .ok r ∧ r.records.length = 1 ∧
        ¬ TouchesTexts Settings.standard d required r := by
  obtain ⟨d, hd, hchecks⟩ := exists_required_trees
  obtain ⟨hrequires, himports, hlength⟩ := of_decide_eq_true hchecks
  obtain ⟨r, hr, hiff⟩ := @touchesTexts_iff Settings.standard "a.tsx" required d hd
  obtain ⟨r', hr', -, hrecords, -⟩ := exists_isCut Settings.standard hd
  obtain rfl : r = r' := Except.ok.inj (hr.symm.trans hr')
  rw [hlength] at hrecords
  refine ⟨d, r, hd, hr, hrecords, fun htouches => ?_⟩
  rcases hiff.mp htouches with hnil | hclause | hnone
  · rw [hnil] at hrecords
    cases hrecords
  · exact himports hclause
  · exact hnone hrequires

end Phrasebook.Rewrite
