import Mathlib.Data.List.Induction
import Phrasebook.Proofs.Edits

/-!
# What a merge means

A merge is told by what it has before it: the records in the order in which they came, and the earlier catalog. Which keys
it has, in which order, and what each of its entries says follows from the records of the key and from the earlier entry
alone; so do the numbers that it reports.

Results:
1. `keys_ofList`: keys come in the order in which they first came.
2. `get?_latest` and `get?_freshSlots_of_not_isGenerated`: the last record of a key counts, and of each translation the
   last that is not empty, after that of the earlier catalog.
3. `isMerge_catalog`: the keys, the entries and the report of every merge.
-/

namespace Phrasebook

/-! ## 1. First and last entries -/

namespace Entries

variable {α β : Type} [DecidableEq α]

theorem keys_put (entries : Entries α β) (key : α) (value : β) :
    (entries.put key value).keys = if key ∈ entries.keys then entries.keys else entries.keys ++ [key] := by
  by_cases h : key ∈ entries.keys
  · rw [if_pos h, keys_put_of_mem h]
  · rw [if_neg h, put_of_not_mem h, keys, List.map_append]
    rfl

/-- One more key comes last, unless it has come before. -/
theorem eraseDups_concat (names : List α) (name : α) :
    (names ++ [name]).eraseDups = if name ∈ names then names.eraseDups else names.eraseDups ++ [name] := by
  rw [List.eraseDups_append, List.removeAll, List.filter_cons, List.filter_nil]
  by_cases h : name ∈ names
  · rw [if_pos h, if_neg (by simpa using h), List.eraseDups_nil, List.append_nil]
  · rw [if_neg h, if_pos (by simpa using h), List.eraseDups_cons, List.filter_nil, List.eraseDups_nil]

/-- The keys of entries that are made of pairs come in the order in which they first came. -/
theorem keys_ofList (pairs : List (α × β)) : (ofList pairs).keys = (pairs.map Prod.fst).eraseDups := by
  induction pairs using List.reverseRecOn with
  | nil => rfl
  | append_singleton pairs p ih =>
    have hstep : ofList (pairs ++ [p]) = (ofList pairs).put p.1 p.2 := by
      rw [ofList, ofList, List.foldl_append]
      rfl
    rw [hstep, keys_put, List.map_append, List.map_singleton, eraseDups_concat, ← ih]
    simp only [mem_keys_ofList]

/-- The first value from the end is the last one. -/
theorem get?_reverse (pairs : List (α × β)) (key : α) :
    get? key pairs.reverse = ((pairs.filter (·.1 == key)).getLast?).map Prod.snd := by
  induction pairs using List.reverseRecOn with
  | nil => rfl
  | append_singleton pairs p ih =>
    rw [List.reverse_append, List.reverse_singleton, List.singleton_append, get?_cons, List.filter_append, ih]
    by_cases h : p.1 = key
    · rw [if_pos h, List.filter_cons_of_pos (by simpa using h), List.filter_nil, List.getLast?_concat, Option.map_some]
    · rw [if_neg h, List.filter_cons_of_neg (by simpa using h), List.filter_nil, List.append_nil]

end Entries

/-- A record with a slot for every locale has its translation there. -/
theorem Record.get?_of_isComplete {r : Record} (h : r.IsComplete) (l : Locale) :
    r.translations.get? l.code = some (r.translation l.code) := by
  rw [Record.translation]
  cases hget : r.translations.get? l.code with
  | none => exact absurd (h l) (Entries.get?_eq_none_iff.mp hget)
  | some value => rfl

namespace Merge

variable {records : List Record} {prior : Catalog} {prune : Bool} {key : String}

/-! ## 2. What counts of the records and of the earlier catalog -/

/-- The keys of records, in the order in which they first came. -/
def foundKeys (records : List Record) : List String := (records.map (·.key)).eraseDups

/-- The keys of an earlier catalog that no record has. -/
def absentKeys (records : List Record) (prior : Catalog) : List String :=
  prior.keys.filter fun key => !(foundKeys records).contains key

def recordsOf (records : List Record) (key : String) : List Record := records.filter (·.key == key)

/-- The last value among some slots that a locale has and that is not empty. -/
def lastFilled (slots : List (String × String)) (locale : String) : Option String :=
  ((slots.filter fun slot => slot.1 == locale && slot.2 != "").getLast?).map Prod.snd

/-- The translation that the earlier catalog has for a key, if it is not empty. -/
def priorFilled (prior : Catalog) (key locale : String) : Option String :=
  (prior.get? key).bind fun old => lastFilled old.translations locale

/-- The last translation among the records of a key that is not empty. -/
def recordsFilled (records : List Record) (key locale : String) : Option String :=
  lastFilled ((recordsOf records key).flatMap (·.translations)) locale

/-- Whether people have translated an entry into some locale. -/
def isTranslated (r : Record) : Bool :=
  r.translations.any fun slot => !Locale.isGenerated slot.1 && slot.2 != ""

theorem keys_latest (records : List Record) : (latest records).keys = foundKeys records := by
  rw [latest, Entries.keys_ofList, List.map_map]
  rfl

theorem mem_foundKeys : key ∈ foundKeys records ↔ key ∈ records.map (·.key) := by
  rw [foundKeys, List.mem_eraseDups]

theorem get?_latest (records : List Record) (key : String) :
    (latest records).get? key = (recordsOf records key).getLast? := by
  rw [latest, Entries.get?_ofList, Entries.get?_reverse, List.filter_map, List.getLast?_map, Option.map_map]
  exact Option.map_id_fun ▸ rfl

/-- The authored translations of a locale are those that are not empty. -/
theorem get?_reverse_authored (slots : List (String × String)) {locale : String}
    (h : Locale.isGenerated locale = false) : Entries.get? locale (authored slots).reverse = lastFilled slots locale := by
  rw [Entries.get?_reverse, authored, List.filter_filter, lastFilled]
  refine congrArg (fun found => Option.map Prod.snd (List.getLast? found)) (List.filter_congr fun slot _ => ?_)
  by_cases hslot : slot.1 = locale
  · rw [hslot, h]
    simp
  · rw [beq_false_of_ne hslot, Bool.false_and, Bool.false_and]

theorem get?_reverse_kept (h : Locale.isGenerated key = false) (name : String) :
    Entries.get? key (kept prior name).reverse = priorFilled prior name key := by
  rw [kept, priorFilled]
  cases prior.get? name with
  | none => rfl
  | some old => exact get?_reverse_authored old.translations h

theorem get?_gathered {locale : String} (h : Locale.isGenerated locale = false) :
    (gathered records key).get? locale = recordsFilled records key locale := by
  have hall : ((records.filter (·.key == key)).flatMap fun r => authored r.translations) =
      authored ((recordsOf records key).flatMap (·.translations)) := by
    rw [authored, List.filter_flatMap]
    rfl
  rw [gathered, Entries.get?_ofList, hall, get?_reverse_authored _ h, recordsFilled]

/-- The slot of a locale that people translate is filled from the earlier catalog, else from the records. -/
theorem get?_freshSlots_of_not_isGenerated (records : List Record) (prior : Catalog) (key text : String) {locale : String}
    (h : Locale.isGenerated locale = false) :
    (freshSlots records prior key text).get? locale =
      ((priorFilled prior key locale).or (recordsFilled records key locale)).or
        (if locale ∈ Locale.human.map Locale.code then some "" else none) := by
  have hmade : Entries.get? locale
      ([(Locale.en.code, text), (Locale.pseudo.code, Pseudo.render text)] ++ Locale.human.map fun l => (l.code, "")) =
        if locale ∈ Locale.human.map Locale.code then some "" else none := by
    rw [Locale.isGenerated, Bool.or_eq_false_iff, beq_eq_false_iff_ne, beq_eq_false_iff_ne] at h
    simp [Entries.get?, Locale.human, Ne.symm h.1, Ne.symm h.2, eq_comm]
  -- the records of a key leave one slot for each locale, so that the first from the end is the only one
  have hnodup : (gathered records key).keys.Nodup := Entries.nodup_ofList _
  have hgathered : Entries.get? locale (gathered records key).reverse = recordsFilled records key locale := by
    rw [← Entries.get?_perm (List.reverse_perm _).symm hnodup, get?_gathered h]
  rw [freshSlots, Entries.get?_putAll, get?_reverse_kept h, Entries.get?_putAll, hgathered, hmade, Option.or_assoc]

theorem mem_human_of_mem_codes {locale : String} (hcode : Locale.codes.contains locale = true)
    (h : Locale.isGenerated locale = false) : locale ∈ Locale.human.map Locale.code := by
  obtain ⟨l, rfl⟩ := (Record.mem_codes_iff locale).mp hcode
  cases l with
  | en => exact absurd h (by decide)
  | ru => decide
  | pseudo => exact absurd h (by decide)

/-! ## 3. The whole merge -/

/-- What the entry of a key with records says, where `last` is the last of them. -/
structure IsFresh (records : List Record) (prior : Catalog) (key : String) (last entry : Record) : Prop where
  key_eq : entry.key = key
  text_eq : entry.text = last.text
  context_eq : entry.context = last.context
  stale_eq : entry.stale = none
  fallback : entry.translations.get? Locale.fallback.code = some last.text
  pseudo : entry.translations.get? Locale.pseudo.code = some (Pseudo.render last.text)
  /-- A translation is that of the earlier catalog, else the last among the records; only supported locales have a slot
  without one. -/
  others : ∀ locale, Locale.isGenerated locale = false → entry.translations.get? locale =
    ((priorFilled prior key locale).or (recordsFilled records key locale)).or
      (if locale ∈ Locale.human.map Locale.code then some "" else none)
  inOrder : Record.InOrder entry.translations

/-- What the entry of a key without records says, where `old` is the earlier one. -/
structure IsCarried (old entry : Record) : Prop where
  key_eq : entry.key = old.key
  text_eq : entry.text = old.text
  context_eq : entry.context = old.context
  stale_eq : entry.stale = some true
  pseudo : entry.translations.get? Locale.pseudo.code = some (Pseudo.render old.text)
  others : ∀ locale, locale ≠ Locale.pseudo.code → entry.translations.get? locale = old.translations.get? locale
  keys_eq : Locale.pseudo.code ∈ old.translations.keys → entry.translations.keys = old.translations.keys

/-- What a merge gives: a catalog and a report. -/
structure IsMerge (records : List Record) (prior : Catalog) (prune : Bool) (merged : Catalog) (report : Report) : Prop where
  /-- The keys with records come first, and then those that are kept without. -/
  keys_eq : merged.keys = foundKeys records ++ if prune then [] else absentKeys records prior
  fresh : ∀ key ∈ foundKeys records, ∃ last entry, (recordsOf records key).getLast? = some last ∧
    merged.get? key = some entry ∧ IsFresh records prior key last entry
  carried : prune = false → ∀ key ∈ absentKeys records prior, ∃ old entry, prior.get? key = some old ∧
    merged.get? key = some entry ∧ IsCarried old entry
  ran : report.ran = true
  strings : report.strings = merged.length
  preserved : report.preserved = (foundKeys records).countP fun key => (prior.get? key).any isTranslated
  dropped : report.dropped = if prune then (absentKeys records prior).length else 0
  stale : report.stale = if prune then 0 else (absentKeys records prior).length

theorem isFresh_freshEntry (records : List Record) (prior : Catalog) (key : String) (last : Record) :
    IsFresh records prior key last (freshEntry records prior key last) where
  key_eq := rfl
  text_eq := rfl
  context_eq := rfl
  stale_eq := rfl
  fallback := by
    have hfaithful := isFaithful_freshEntry records prior key last
    rw [Record.get?_of_isComplete hfaithful.complete, hfaithful.fallback, freshEntry_eq, Record.make]
  pseudo := by
    have hfaithful := isFaithful_freshEntry records prior key last
    rw [Record.get?_of_isComplete hfaithful.complete, hfaithful.pseudo, freshEntry_eq, Record.make]
  others := by
    intro locale h
    have hslots := get?_freshSlots_of_not_isGenerated records prior key last.text h
    have hfallback : locale ≠ Locale.fallback.code := by
      rintro rfl
      exact absurd h (by decide)
    rw [freshEntry_eq, Record.make, Record.get?_canonical last.text (nodup_freshSlots _ _ _ _), hslots]
    split
    · rename_i hcode
      -- a supported locale that the program does not fill is one of those with a slot of their own
      have hhuman : locale ∈ Locale.human.map Locale.code := mem_human_of_mem_codes hcode h
      rw [if_neg fun hboth => hfallback hboth.1, if_pos hhuman]
      cases (priorFilled prior key locale).or (recordsFilled records key locale) with
      | none => rfl
      | some value => rfl
    · rfl
  inOrder := (isFaithful_freshEntry records prior key last).inOrder

theorem isCarried_staleEntry (old : Record) : IsCarried old (staleEntry old) where
  key_eq := rfl
  text_eq := rfl
  context_eq := rfl
  stale_eq := rfl
  pseudo := by
    rw [staleEntry]
    dsimp only
    rw [Entries.get?_put, if_pos rfl]
  others := by
    intro locale h
    rw [staleEntry]
    dsimp only
    rw [Entries.get?_put, if_neg (Ne.symm h)]
  keys_eq := fun h => Entries.keys_put_of_mem h _

theorem keys_missing (records : List Record) (prior : Catalog) :
    (missing records prior).keys = absentKeys records prior := by
  have hcontains (key : String) : (records.map (·.key)).contains key = (foundKeys records).contains key := by
    rw [Bool.eq_iff_iff, List.contains_iff_mem, List.contains_iff_mem, mem_foundKeys]
  rw [missing, absentKeys, Entries.keys, Entries.keys, List.filter_map]
  refine congrArg (List.map Prod.fst) (List.filter_congr fun entry _ => ?_)
  rw [Function.comp_apply, hcontains]

theorem keys_catalog (records : List Record) (prior : Catalog) (prune : Bool) :
    (catalog records prior prune).keys = foundKeys records ++ if prune then [] else absentKeys records prior := by
  have hcarried : Entries.keys ((missing records prior).map fun entry => (entry.1, staleEntry entry.2)) =
      (missing records prior).keys := by
    rw [Entries.keys, Entries.keys, List.map_map]
    rfl
  rw [catalog, Entries.keys, List.map_append, ← Entries.keys, ← Entries.keys, keys_fresh, keys_latest]
  cases prune with
  | true => rfl
  | false => rw [if_neg Bool.false_ne_true, if_neg Bool.false_ne_true, hcarried, keys_missing]

/-- Translations are kept of the entries that people have translated. -/
theorem isEmpty_kept (prior : Catalog) (key : String) :
    (!(kept prior key).isEmpty) = (prior.get? key).any isTranslated := by
  rw [kept]
  cases prior.get? key with
  | none => rfl
  | some old =>
    have hany : old.translations.any (fun slot => !Locale.isGenerated slot.1 && slot.2 != "") = true ↔
        authored old.translations ≠ [] := by
      rw [List.any_eq_true, authored, ne_eq, List.filter_eq_nil_iff, not_forall]
      simp only [not_forall, not_not, exists_prop]
    rw [Option.any_some, isTranslated, Bool.eq_iff_iff, hany, Bool.not_eq_true', ← Bool.not_eq_true, List.isEmpty_iff]

/-- What every merge gives. -/
theorem isMerge_catalog (records : List Record) (prior : Catalog) (prune : Bool) :
    IsMerge records prior prune (catalog records prior prune) (report records prior prune) where
  keys_eq := keys_catalog records prior prune
  fresh := by
    intro key hkey
    have hlatest := get?_latest records key
    cases hlast : (latest records).get? key with
    | none => exact absurd (mem_foundKeys.mp hkey) (get?_latest_eq_none_iff.mp hlast)
    | some last =>
      refine ⟨last, freshEntry records prior key last, hlatest ▸ hlast, ?_, isFresh_freshEntry records prior key last⟩
      rw [get?_catalog, hlast]
  carried := by
    intro hprune key hkey
    obtain ⟨hmem, habsent⟩ := List.mem_filter.mp hkey
    have hnone : (latest records).get? key = none := by
      rw [get?_latest_eq_none_iff, ← mem_foundKeys]
      simpa using habsent
    cases hold : prior.get? key with
    | none => exact absurd hmem (Entries.get?_eq_none_iff.mp hold)
    | some old =>
      refine ⟨old, staleEntry old, rfl, ?_, isCarried_staleEntry old⟩
      rw [get?_catalog, hnone, hprune, hold]
      rfl
  ran := rfl
  strings := rfl
  preserved := by
    have hkeys : foundKeys records = (latest records).map Prod.fst := (keys_latest records).symm
    rw [report, hkeys, List.countP_map]
    refine List.countP_congr fun entry _ => ?_
    rw [Function.comp_apply, isEmpty_kept]
  dropped := by
    rw [← keys_missing, Entries.keys, List.length_map]
    rfl
  stale := by
    rw [← keys_missing, Entries.keys, List.length_map]
    rfl

end Merge
end Phrasebook
