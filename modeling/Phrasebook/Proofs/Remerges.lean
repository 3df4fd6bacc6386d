import Phrasebook.Proofs.ProjectScans

/-!
# Merging again, and in another order

A merge that is made again over its own catalog finds what it left: a translation that came from the records is now one of
the earlier catalog, and an entry that has gone stale is carried over once more. Records as scans make them hold no
translations by people, and while no two texts share a key it does not matter in which order they come, or how often.

Results:
1. `freshEntry_again`: an entry that is made again over itself stays what it is.
2. `catalog_catalog`: so does a catalog, entry for entry and in its order.
3. `get?_catalog_of_same`: the same records give the same entries.
4. `published_of_same`: they give the same file, lookup module and report.
-/

namespace Phrasebook.Merge

variable {records others : List Record} {prior : Catalog} {prune : Bool} {key : String} {last : Record}

/-! ## 1. The same records again -/

/-- No translation that is kept is empty. -/
theorem ne_of_get?_kept {name value : String} (h : Entries.get? name (kept prior key).reverse = some value) :
    value ≠ "" := by
  have hmem := List.mem_reverse.mp (Entries.mem_of_get? h)
  rw [kept] at hmem
  split at hmem
  · have hfilter := (List.mem_filter.mp hmem).2
    rw [Bool.and_eq_true, bne_iff_ne] at hfilter
    exact hfilter.2
  · cases hmem

/-- The slots that a fresh entry is made from before those that are kept. -/
def foundSlots (records : List Record) (key text : String) : Entries String String :=
  Entries.putAll
    ([(Locale.en.code, text), (Locale.pseudo.code, Pseudo.render text)] ++ Locale.human.map fun l => (l.code, ""))
    (gathered records key)

theorem get?_freshSlots (records : List Record) (prior : Catalog) (key text name : String) :
    (freshSlots records prior key text).get? name =
      (Entries.get? name (kept prior key).reverse).or ((foundSlots records key text).get? name) :=
  Entries.get?_putAll _ _ _

/-- The authored translations are the same in the canonical form of some slots. -/
theorem get?_authored_canonical (text : String) {slots : Entries String String} (hn : slots.keys.Nodup) (name : String) :
    Entries.get? name (authored (Record.canonical text slots)).reverse =
      (slots.get? name).filter fun value => !Locale.isGenerated name && value != "" := by
  rw [get?_authored_reverse (Record.nodup_canonical text hn), Record.get?_canonical text hn]
  by_cases hgenerated : Locale.isGenerated name = true
  · simp [hgenerated]
  · have hne : name ≠ Locale.fallback.code := by
      rintro rfl
      exact hgenerated (by decide)
    -- a slot that is there only in the canonical form is empty
    cases slots.get? name with
    | none => split <;> simp [hne]
    | some value => split <;> simp [hne]

/-- The slots of a fresh entry, made again over the entry itself, answer the same. -/
theorem get?_freshSlots_again {again : Catalog} (h : again.get? key = some (freshEntry records prior key last))
    (name : String) :
    (freshSlots records again key last.text).get? name = (freshSlots records prior key last.text).get? name := by
  have hkept : Entries.get? name (kept again key).reverse =
      ((freshSlots records prior key last.text).get? name).filter
        fun value => !Locale.isGenerated name && value != "" := by
    rw [kept, h]
    exact get?_authored_canonical last.text (nodup_freshSlots _ _ _ _) name
  rw [get?_freshSlots records again, hkept, get?_freshSlots]
  cases hvalue : Entries.get? name (kept prior key).reverse with
  | some value =>
    have hgenerated : Locale.isGenerated name = false := by
      rw [← Bool.not_eq_true]
      intro hgenerated
      have hmem := List.mem_map_of_mem (f := Prod.fst) (List.mem_reverse.mp (Entries.mem_of_get? hvalue))
      exact not_mem_keys_kept hgenerated hmem
    simp [hgenerated, ne_of_get?_kept hvalue]
  | none =>
    rw [Option.none_or]
    cases hfound : (foundSlots records key last.text).get? name with
    | none => rfl
    | some value =>
      rw [Option.filter_some]
      split <;> rfl

/-- A fresh entry that is made again over itself stays what it is. -/
theorem freshEntry_again {again : Catalog} (h : again.get? key = some (freshEntry records prior key last)) :
    freshEntry records again key last = freshEntry records prior key last := by
  rw [freshEntry_eq, freshEntry_eq, Record.make, Record.make,
    Record.canonical_congr last.text (nodup_freshSlots _ _ _ _) (nodup_freshSlots _ _ _ _) (get?_freshSlots_again h)]

theorem staleEntry_staleEntry (r : Record) : staleEntry (staleEntry r) = staleEntry r := by
  rw [staleEntry, staleEntry, Entries.put_put]

/-- Of a merge of the same records, the entries without a record are those that it carried over. -/
theorem missing_catalog (records : List Record) (prior : Catalog) (prune : Bool) :
    missing records (catalog records prior prune) =
      if prune then [] else (missing records prior).map fun entry => (entry.1, staleEntry entry.2) := by
  have hfresh : missing records (fresh records prior) = [] := by
    rw [missing, List.filter_eq_nil_iff]
    intro entry hentry
    have hmem : entry.1 ∈ (fresh records prior).keys := List.mem_map_of_mem hentry
    rw [keys_fresh, mem_keys_latest] at hmem
    simpa using hmem
  have hstale : missing records ((missing records prior).map fun entry => (entry.1, staleEntry entry.2)) =
      (missing records prior).map fun entry => (entry.1, staleEntry entry.2) := by
    rw [missing, List.filter_eq_self]
    intro entry hentry
    obtain ⟨old, hold, rfl⟩ := List.mem_map.mp hentry
    exact (List.mem_filter.mp hold).2
  rw [catalog, missing, List.filter_append, ← missing, hfresh, List.nil_append]
  cases prune with
  | true => rfl
  | false => exact hstale

/-- Merging the same records again changes nothing: neither an entry nor the order of the entries. -/
theorem catalog_catalog (records : List Record) (prior : Catalog) (prune : Bool) :
    catalog records (catalog records prior prune) prune = catalog records prior prune := by
  have hfresh : fresh records (catalog records prior prune) = fresh records prior := by
    refine List.map_congr_left fun entry hentry => ?_
    have hlatest : (latest records).get? entry.1 = some entry.2 := Entries.get?_of_mem (Entries.nodup_ofList _) hentry
    have hget : (catalog records prior prune).get? entry.1 = some (freshEntry records prior entry.1 entry.2) := by
      rw [get?_catalog, hlatest]
    rw [freshEntry_again hget]
  have hstale : (missing records (catalog records prior prune)).map (fun entry => (entry.1, staleEntry entry.2)) =
      missing records (catalog records prior prune) := by
    rw [missing_catalog]
    split
    · rfl
    · rw [List.map_map]
      refine List.map_congr_left fun entry _ => ?_
      rw [Function.comp_apply, staleEntry_staleEntry]
  rw [catalog, hfresh, hstale, missing_catalog]
  cases prune <;> rfl

/-- So it does over the entries in the order in which they are written, once they are put in this order. -/
theorem arranged_catalog_arranged (h : prior.IsSound) (hkeys : ∀ r ∈ records, r.key ≠ "") (sorted : Bool) :
    (catalog records ((catalog records prior prune).arranged sorted) prune).arranged sorted =
      (catalog records prior prune).arranged sorted := by
  have hsound : (catalog records prior prune).IsSound := isSound_catalog h hkeys
  cases sorted with
  | false =>
    show catalog records (catalog records prior prune) prune = catalog records prior prune
    exact catalog_catalog records prior prune
  | true =>
    refine Entries.mergeSort_congr (nodup_catalog (hsound.arranged true).nodup) hsound.nodup fun key => ?_
    calc (catalog records ((catalog records prior prune).arranged true) prune).get? key
        = (catalog records (catalog records prior prune) prune).get? key :=
          get?_catalog_congr (Catalog.get?_arranged hsound true key)
      _ = (catalog records prior prune).get? key := by rw [catalog_catalog]

/-! ## 2. The same records in another order -/

/-- Each key has one record, and no record has a translation by people. -/
structure AreUnambiguous (records : List Record) : Prop where
  eq_of_key : ∀ a ∈ records, ∀ b ∈ records, a.key = b.key → a = b
  unauthored : ∀ r ∈ records, authored r.translations = []

theorem AreUnambiguous.of_same (h : AreUnambiguous records) (hsame : ∀ r, r ∈ records ↔ r ∈ others) :
    AreUnambiguous others where
  eq_of_key := fun a ha b hb => h.eq_of_key a ((hsame a).mpr ha) b ((hsame b).mpr hb)
  unauthored := fun r hr => h.unauthored r ((hsame r).mpr hr)

theorem gathered_eq_nil (h : AreUnambiguous records) (key : String) : gathered records key = [] := by
  have hnone : (records.filter (·.key == key)).flatMap (fun r => authored r.translations) = [] := by
    rw [List.flatMap_eq_nil_iff]
    intro r hr
    exact h.unauthored r (List.mem_of_mem_filter hr)
  rw [gathered, hnone]
  rfl

theorem mem_keys_of_same (hsame : ∀ r, r ∈ records ↔ r ∈ others) (key : String) :
    key ∈ records.map (·.key) ↔ key ∈ others.map (·.key) := by
  simp only [List.mem_map, hsame]

theorem missing_of_same (hsame : ∀ r, r ∈ records ↔ r ∈ others) (prior : Catalog) :
    missing records prior = missing others prior := by
  refine List.filter_congr fun entry _ => ?_
  have hcontains : (records.map (·.key)).contains entry.1 = (others.map (·.key)).contains entry.1 := by
    rw [Bool.eq_iff_iff, List.contains_iff_mem, List.contains_iff_mem]
    exact mem_keys_of_same hsame entry.1
  rw [hcontains]

/-- Which record of a key is the last does not matter if the key has only one. -/
theorem get?_latest_of_same (h : AreUnambiguous records) (hsame : ∀ r, r ∈ records ↔ r ∈ others) (key : String) :
    (latest records).get? key = (latest others).get? key := by
  cases hlast : (latest records).get? key with
  | none =>
    rw [get?_latest_eq_none_iff, mem_keys_of_same hsame] at hlast
    exact (get?_latest_eq_none_iff.mpr hlast).symm
  | some last =>
    obtain ⟨hmem, hkey⟩ := mem_of_get?_latest hlast
    cases hother : (latest others).get? key with
    | none =>
      rw [get?_latest_eq_none_iff, ← mem_keys_of_same hsame] at hother
      exact absurd (hkey ▸ List.mem_map_of_mem hmem) hother
    | some other =>
      obtain ⟨hmem', hkey'⟩ := mem_of_get?_latest hother
      rw [h.eq_of_key last hmem other ((hsame other).mpr hmem') (hkey.trans hkey'.symm)]

/-- The same records, in any order and any number, give the same entries. -/
theorem get?_catalog_of_same (h : AreUnambiguous records) (hsame : ∀ r, r ∈ records ↔ r ∈ others) (key : String) :
    (catalog records prior prune).get? key = (catalog others prior prune).get? key := by
  rw [get?_catalog, get?_catalog, ← get?_latest_of_same h hsame]
  cases (latest records).get? key with
  | none => rfl
  | some last =>
    dsimp only
    rw [freshEntry, freshEntry, gathered_eq_nil h, gathered_eq_nil (h.of_same hsame)]

theorem arranged_of_same (h : AreUnambiguous records) (hsame : ∀ r, r ∈ records ↔ r ∈ others)
    (hprior : prior.keys.Nodup) :
    (catalog records prior prune).arranged true = (catalog others prior prune).arranged true :=
  Entries.mergeSort_congr (nodup_catalog hprior) (nodup_catalog hprior) (get?_catalog_of_same h hsame)

theorem report_of_same (h : AreUnambiguous records) (hsame : ∀ r, r ∈ records ↔ r ∈ others) (hprior : prior.keys.Nodup) :
    report records prior prune = report others prior prune := by
  have hcatalog : (catalog records prior prune).Perm (catalog others prior prune) :=
    Entries.perm_of_get? (nodup_catalog hprior) (nodup_catalog hprior) (get?_catalog_of_same h hsame)
  have hlatest : (latest records).Perm (latest others) :=
    Entries.perm_of_get? (Entries.nodup_ofList _) (Entries.nodup_ofList _) (get?_latest_of_same h hsame)
  rw [report, report, hcatalog.length_eq, hlatest.countP_eq, missing_of_same hsame]

/-! ## 3. Records of scans -/

theorem authored_extracted (text : String) (context : Context) :
    authored (Record.extracted text context).translations = [] := by
  have hslots : (Record.extracted text context).translations =
      [(Locale.en.code, text), (Locale.ru.code, ""), (Locale.pseudo.code, Pseudo.render text)] := by
    simp [Record.extracted, Record.make, Record.canonical, Record.otherSlots, Locale.all, Locale.human, Locale.codes,
      Locale.code, Locale.fallback, Entries.get?]
  rw [hslots]
  simp [authored, Locale.isGenerated, Locale.code]

theorem areUnambiguous_extracted (hmade : ∀ r ∈ records, ∃ text context, r = Record.extracted text context)
    (hkeys : HaveDistinctKeys records) : AreUnambiguous records where
  eq_of_key := by
    intro a ha b hb hkey
    obtain ⟨text, context, rfl⟩ := hmade a ha
    obtain ⟨text', context', rfl⟩ := hmade b hb
    obtain ⟨htext, hcontext⟩ := hkeys _ ha _ hb hkey
    exact congrArg₂ Record.extracted htext hcontext
  unauthored := by
    intro r hr
    obtain ⟨text, context, rfl⟩ := hmade r hr
    exact authored_extracted text context

/-- The records of scans give one file, one lookup module and one report, whatever their order and however often each of
them comes, if no two texts in different contexts share a key. -/
theorem published_of_same (hmade : ∀ r ∈ records, ∃ text context, r = Record.extracted text context)
    (hkeys : HaveDistinctKeys records) (hsame : ∀ r, r ∈ records ↔ r ∈ others) (hprior : prior.keys.Nodup)
    (prune : Bool) :
    (catalog records prior prune).fileText true = (catalog others prior prune).fileText true ∧
      (catalog records prior prune).moduleText true = (catalog others prior prune).moduleText true ∧
        report records prior prune = report others prior prune := by
  have h := areUnambiguous_extracted hmade hkeys
  have harranged : (catalog records prior prune).arranged true = (catalog others prior prune).arranged true :=
    arranged_of_same h hsame hprior
  exact ⟨Catalog.fileText_congr harranged, Catalog.moduleText_congr harranged, report_of_same h hsame hprior⟩

/-! Two texts, one of them found twice; the earlier catalog has a translation of one, and a key that went stale. -/

namespace Sample

def hi : Record := Record.extracted "Hi" ⟨"a.jsx", "App", "p"⟩

def yo : Record := Record.extracted "Yo" ⟨"b.jsx", "App", "p"⟩

def translated : Catalog := [
  (hi.key, Record.make "Hi" hi.key (hi.translations.put Locale.ru.code "Privet") hi.context none),
  ("gone", Record.make "Gone" "gone" [("de", "Weg")] ⟨"a.jsx", "App", "p"⟩ none)]

theorem haveDistinctKeys_hi_yo : HaveDistinctKeys [hi, yo] :=
  haveDistinctKeys_of_nodup (by decide +kernel) fun r hr => by
    simp only [List.mem_cons, List.not_mem_nil, or_false] at hr
    rcases hr with rfl | rfl
    · rfl
    · rfl

end Sample

open Sample in
theorem published_of_same_reordered :
    (catalog [hi, yo] translated false).fileText true = (catalog [yo, hi, yo] translated false).fileText true ∧
      (catalog [hi, yo] translated false).moduleText true = (catalog [yo, hi, yo] translated false).moduleText true ∧
        report [hi, yo] translated false = report [yo, hi, yo] translated false :=
  published_of_same (by simp [hi, yo]) haveDistinctKeys_hi_yo (by simp) (by decide +kernel) false

end Phrasebook.Merge
