import Phrasebook.Catalog.Merge
import Phrasebook.Proofs.Catalogs

/-!
# What a merge keeps

The merged catalog has an entry for every key with a record, made from the last one, and for the keys without a record
unless these are dropped. A translation that the earlier catalog has is in the merged one as well.

Results:
1. `get?_catalog`: the entry of any key.
2. `isSound_catalog`: a merge of a sound catalog is sound.
3. `translation_catalog`: a translation by people is carried over.
4. `get?_catalog_of_mem` and `translation_freshEntry_fallback`: a key with records shows the text of the last one.
-/

namespace Phrasebook.Merge

variable {records : List Record} {prior : Catalog} {prune : Bool} {key : String}

/-! ## 1. Records of a key -/

/-- The last record of a key is one of the records, and has this key. -/
theorem mem_of_get?_latest {last : Record} (h : (latest records).get? key = some last) :
    last ∈ records ∧ last.key = key := by
  rw [latest, Entries.get?_ofList] at h
  have hmem := List.mem_reverse.mp (Entries.mem_of_get? h)
  obtain ⟨r, hr, heq⟩ := List.mem_map.mp hmem
  rw [Prod.mk.injEq] at heq
  exact ⟨heq.2 ▸ hr, heq.2 ▸ heq.1⟩

theorem mem_keys_latest : key ∈ (latest records).keys ↔ key ∈ records.map (·.key) := by
  rw [latest, Entries.mem_keys_ofList, List.map_map]
  rfl

theorem get?_latest_eq_none_iff : (latest records).get? key = none ↔ key ∉ records.map (·.key) := by
  rw [Entries.get?_eq_none_iff, mem_keys_latest]

/-! ## 2. Entries -/

theorem get?_fresh : (fresh records prior).get? key =
    ((latest records).get? key).map (freshEntry records prior key) :=
  Entries.get?_map _ (freshEntry records prior) key

theorem get?_missing : (missing records prior).get? key =
    if (records.map (·.key)).contains key then none else prior.get? key := by
  rw [missing, Entries.get?_filter_keys prior fun k => !(records.map (·.key)).contains k]
  cases (records.map (·.key)).contains key <;> rfl

/-- The entry of any key: made from its last record, else from the earlier entry, if that is kept. -/
theorem get?_catalog : (catalog records prior prune).get? key =
    match (latest records).get? key with
    | some last => some (freshEntry records prior key last)
    | none => if prune then none else (prior.get? key).map staleEntry := by
  rw [catalog, Entries.get?_append, get?_fresh]
  cases hlast : (latest records).get? key with
  | some last => rfl
  | none =>
    have hnot := get?_latest_eq_none_iff.mp hlast
    cases prune with
    | true => rfl
    | false =>
      have hmap := Entries.get?_map (missing records prior) (fun _ => staleEntry) key
      rw [get?_missing, if_neg (by simpa using hnot)] at hmap
      exact hmap

theorem kept_congr {other : Catalog} (h : prior.get? key = other.get? key) : kept prior key = kept other key := by
  rw [kept, kept, h]

/-- What a merge answers for a key depends on what the earlier catalog answers for it. -/
theorem get?_catalog_congr {other : Catalog} (h : prior.get? key = other.get? key) :
    (catalog records prior prune).get? key = (catalog records other prune).get? key := by
  rw [get?_catalog, get?_catalog, h]
  cases (latest records).get? key with
  | none => rfl
  | some last =>
    dsimp only
    rw [freshEntry, freshEntry, kept_congr h]

/-! ## 3. Soundness -/

/-- The slots that a fresh entry is made from. -/
def freshSlots (records : List Record) (prior : Catalog) (key text : String) : Entries String String :=
  Entries.putAll (Entries.putAll
    ([(Locale.en.code, text), (Locale.pseudo.code, Pseudo.render text)] ++ Locale.human.map fun l => (l.code, ""))
    (gathered records key)) (kept prior key)

theorem freshEntry_eq (records : List Record) (prior : Catalog) (key : String) (last : Record) :
    freshEntry records prior key last =
      Record.make last.text key (freshSlots records prior key last.text) last.context none := rfl

theorem nodup_freshSlots (records : List Record) (prior : Catalog) (key text : String) :
    (freshSlots records prior key text).keys.Nodup :=
  Entries.nodup_putAll (Entries.nodup_putAll (by simp [Entries.keys, Locale.human]; decide) _) _

theorem freshEntry_isCanonical (hkey : key ≠ "") (last : Record) :
    (freshEntry records prior key last).IsCanonical :=
  Record.make_isCanonical _ hkey (nodup_freshSlots _ _ _ _) _ _

theorem staleEntry_isCanonical {r : Record} (h : r.IsCanonical) : (staleEntry r).IsCanonical where
  key_ne := h.key_ne
  nodup := Entries.nodup_put h.nodup _ _
  slots := by
    rw [staleEntry]
    dsimp only
    rw [Record.canonical_put r.text r.translations (by decide), h.slots]

theorem keys_fresh : (fresh records prior).keys = (latest records).keys := by
  rw [fresh, Entries.keys, Entries.keys, List.map_map]
  rfl

theorem nodup_catalog (h : prior.keys.Nodup) : (catalog records prior prune).keys.Nodup := by
  have hfresh : (fresh records prior).keys.Nodup := keys_fresh ▸ Entries.nodup_ofList _
  rw [catalog]
  cases prune with
  | true => rwa [if_pos rfl, List.append_nil]
  | false =>
    rw [if_neg Bool.false_ne_true, Entries.keys, List.map_append, List.nodup_append, List.map_map]
    refine ⟨hfresh, Entries.nodup_filter h _, ?_⟩
    rintro a ha b hb rfl
    obtain ⟨entry, hentry, rfl⟩ := List.mem_map.mp hb
    have hnot := (List.mem_filter.mp hentry).2
    have hmem : entry.1 ∈ (fresh records prior).keys := ha
    rw [keys_fresh, mem_keys_latest] at hmem
    simp [hmem] at hnot

/-- A merge of a sound catalog with records that have keys is sound. -/
theorem isSound_catalog (h : prior.IsSound) (hkeys : ∀ r ∈ records, r.key ≠ "") :
    (catalog records prior prune).IsSound where
  nodup := nodup_catalog h.nodup
  canonical := by
    intro entry hentry
    rcases List.mem_append.mp hentry with hentry | hentry
    · obtain ⟨last, hlast, rfl⟩ := List.mem_map.mp hentry
      have hmem := mem_keys_latest.mp (List.mem_map_of_mem hlast)
      obtain ⟨r, hr, hkey⟩ := List.mem_map.mp hmem
      exact freshEntry_isCanonical (hkey ▸ hkeys r hr) _
    · cases prune with
      | true => exact absurd hentry (by simp)
      | false =>
        obtain ⟨old, hold, rfl⟩ := List.mem_map.mp hentry
        exact staleEntry_isCanonical (h.canonical old (List.mem_of_mem_filter hold))

/-! ## 4. Translations -/

/-- What the authored translations of some slots answer, from the last one on. -/
theorem get?_authored_reverse {translations : Entries String String} (hn : translations.keys.Nodup) (locale : String) :
    Entries.get? locale (authored translations).reverse =
      (translations.get? locale).filter fun value => !Locale.isGenerated locale && value != "" := by
  have hnodup : (Entries.keys (authored translations)).Nodup := Entries.nodup_filter hn _
  rw [← Entries.get?_perm (List.reverse_perm (authored translations)).symm hnodup, authored, Entries.get?_filter hn]

theorem get?_authored {translations : Entries String String} (hn : translations.keys.Nodup) {locale value : String}
    (hlocale : Locale.isGenerated locale = false) (hvalue : value ≠ "")
    (h : translations.get? locale = some value) : Entries.get? locale (authored translations).reverse = some value := by
  rw [get?_authored_reverse hn, h, Option.filter_some, if_pos]
  simp [hlocale, hvalue]

/-- A translation by people that the earlier entry has is the one of the fresh entry. -/
theorem translation_freshEntry {old last : Record} (hold : prior.get? key = some old) (hn : old.translations.keys.Nodup)
    {locale value : String} (hlocale : Locale.isGenerated locale = false) (hvalue : value ≠ "")
    (h : old.translation locale = value) : (freshEntry records prior key last).translation locale = value := by
  have hget : old.translations.get? locale = some value := by
    rw [Record.translation] at h
    cases hslot : old.translations.get? locale with
    | none => rw [hslot] at h; exact absurd h.symm hvalue
    | some v => rw [hslot] at h; exact congrArg some h
  have hne : locale ≠ Locale.fallback.code := by
    rintro rfl
    exact absurd hlocale (by decide)
  -- the slots that people filled in the earlier entry are put last, over those of the records
  rw [freshEntry_eq, Record.translation_make (nodup_freshSlots _ _ _ _) hne, freshSlots, Entries.get?_putAll, kept, hold]
  dsimp only
  rw [get?_authored hn hlocale hvalue hget]
  rfl

theorem translation_staleEntry (r : Record) {locale : String} (h : locale ≠ Locale.pseudo.code) :
    (staleEntry r).translation locale = r.translation locale := by
  rw [Record.translation, staleEntry]
  dsimp only
  rw [Entries.get?_put, if_neg (Ne.symm h), ← Record.translation]

/-- A translation by people is carried over, unless its key is dropped. -/
theorem translation_catalog (h : prior.IsSound) {old : Record} (hold : prior.get? key = some old)
    {locale value : String} (hlocale : Locale.isGenerated locale = false) (hvalue : value ≠ "")
    (htranslation : old.translation locale = value) (hkept : key ∈ records.map (·.key) ∨ prune = false) :
    ∃ entry, (catalog records prior prune).get? key = some entry ∧ entry.translation locale = value := by
  rw [get?_catalog]
  cases hlast : (latest records).get? key with
  | some last => exact ⟨_, rfl, translation_freshEntry hold (h.get? hold).nodup hlocale hvalue htranslation⟩
  | none =>
    -- the key went stale: its entry is taken over, and only the slot of the pseudo locale is filled anew
    have hprune : prune = false := hkept.resolve_left (get?_latest_eq_none_iff.mp hlast)
    have hne : locale ≠ Locale.pseudo.code := by
      rintro rfl
      exact absurd hlocale (by decide)
    refine ⟨staleEntry old, by rw [hprune, hold]; rfl, ?_⟩
    rw [translation_staleEntry old hne, htranslation]

/-! ## 5. Texts -/

theorem not_mem_keys_authored {translations : Entries String String} {locale : String}
    (hlocale : Locale.isGenerated locale = true) : locale ∉ Entries.keys (authored translations) := by
  intro hmem
  obtain ⟨slot, hslot, rfl⟩ := List.mem_map.mp hmem
  have hfilter := (List.mem_filter.mp hslot).2
  simp [hlocale] at hfilter

theorem not_mem_keys_kept {locale : String} (hlocale : Locale.isGenerated locale = true) :
    locale ∉ Entries.keys (kept prior key) := by
  rw [kept]
  split
  · exact not_mem_keys_authored hlocale
  · exact List.not_mem_nil

theorem not_mem_keys_gathered {locale : String} (hlocale : Locale.isGenerated locale = true) :
    locale ∉ (gathered records key).keys := by
  rw [gathered, Entries.mem_keys_ofList, List.map_flatMap, List.mem_flatMap]
  rintro ⟨r, -, hmem⟩
  exact not_mem_keys_authored hlocale hmem

/-- In the default locale a fresh entry shows the text of the last record. -/
theorem translation_freshEntry_fallback (last : Record) :
    (freshEntry records prior key last).translation Locale.fallback.code = last.text := by
  have hlocale : Locale.isGenerated Locale.fallback.code = true := by decide
  -- neither the records nor the earlier entry may fill the slot of a locale that the program fills
  have hslot : (freshSlots records prior key last.text).get? Locale.fallback.code = some last.text := by
    rw [freshSlots, Entries.get?_putAll_of_not_mem _ (not_mem_keys_kept hlocale),
      Entries.get?_putAll_of_not_mem _ (not_mem_keys_gathered hlocale)]
    rfl
  rw [freshEntry_eq, Record.translation_make_fallback (nodup_freshSlots _ _ _ _) hslot, ite_self]

/-- A key with records has an entry with the text of the last one. -/
theorem get?_catalog_of_mem (hkey : key ∈ records.map (·.key)) :
    ∃ last ∈ records, last.key = key ∧
      (catalog records prior prune).get? key = some (freshEntry records prior key last) := by
  rw [get?_catalog]
  cases hlast : (latest records).get? key with
  | some last =>
    obtain ⟨hmem, hlastKey⟩ := mem_of_get?_latest hlast
    exact ⟨last, hmem, hlastKey, rfl⟩
  | none => exact absurd hkey (get?_latest_eq_none_iff.mp hlast)

/-- A text is kept with its key, if no key is dropped and no record has another text for it. -/
theorem text_catalog {old : Record} (hold : prior.get? key = some old) {text : String}
    (htext : old.translation Locale.fallback.code = text) (hrecords : ∀ r ∈ records, r.key = key → r.text = text) :
    ∃ entry, (catalog records prior false).get? key = some entry ∧
      entry.translation Locale.fallback.code = text := by
  rw [get?_catalog]
  cases hlast : (latest records).get? key with
  | some last =>
    obtain ⟨hmem, hkey⟩ := mem_of_get?_latest hlast
    exact ⟨_, rfl, (translation_freshEntry_fallback last).trans (hrecords last hmem hkey)⟩
  | none =>
    refine ⟨staleEntry old, by rw [hold]; rfl, ?_⟩
    rw [translation_staleEntry old (by decide), htext]

end Phrasebook.Merge
