import Phrasebook.Proofs.Entries
import Phrasebook.Proofs.StrictReading
import Phrasebook.Proofs.Utf8
import Phrasebook.Record.Line

/-!
# Records survive being written

A record is canonical if its key is there and its slots are the ones that the program would give it. Every record that
is made or read is canonical, and canonical records read back as they were written, alone or on the lines of a log.

Results:
1. `translation_make`: what a made record shows in a locale.
2. `canonical_canonical`: making slots canonical again changes nothing.
3. `ofJson_toJson`: a canonical record reads back.
4. `ofLog_linesBytes`: so do the records of a log, with no line set aside.
-/

namespace Phrasebook.Record

/-! ## 1. Slots -/

theorem nodup_codes : Locale.codes.Nodup := by decide

theorem mem_codes_iff (name : String) : Locale.codes.contains name = true ↔ ∃ l : Locale, name = l.code := by
  rw [List.contains_iff_mem, Locale.codes, List.mem_map]
  refine ⟨?_, ?_⟩
  · rintro ⟨l, -, rfl⟩
    exact ⟨l, rfl⟩
  · rintro ⟨l, rfl⟩
    exact ⟨l, Locale.mem_all l, rfl⟩

def localeSlots (text : String) (given : Entries String String) : Entries String String :=
  Locale.all.map fun l =>
    let value := (given.get? l.code).getD ""
    (l.code, if l == Locale.fallback && value.isEmpty then text else value)

theorem canonical_eq (text : String) (given : Entries String String) :
    canonical text given = localeSlots text given ++ otherSlots given := rfl

theorem keys_localeSlots (text : String) (given : Entries String String) :
    (localeSlots text given).keys = Locale.codes := rfl

theorem get?_localeSlots (text : String) (given : Entries String String) (name : String) :
    (localeSlots text given).get? name =
      if Locale.codes.contains name then
        some (if name = Locale.fallback.code ∧ (given.get? name).getD "" = "" then text else (given.get? name).getD "")
      else none := by
  by_cases h : Locale.codes.contains name = true
  · obtain ⟨l, rfl⟩ := (mem_codes_iff name).mp h
    rw [if_pos h]
    cases l with
    | en =>
      by_cases hv : (given.get? "en").getD "" = ""
      · simp [localeSlots, Locale.all, Entries.get?, Locale.code, Locale.fallback, hv]
      · simp [localeSlots, Locale.all, Entries.get?, Locale.code, Locale.fallback, hv]
    | ru => simp [localeSlots, Locale.all, Entries.get?, Locale.code, Locale.fallback]
    | pseudo => simp [localeSlots, Locale.all, Entries.get?, Locale.code, Locale.fallback]
  · rw [if_neg h, Entries.get?_eq_none_iff, keys_localeSlots]
    rwa [List.contains_iff_mem] at h

theorem otherSlots_eq (given : Entries String String) :
    otherSlots given = (given.filter fun slot => !Locale.codes.contains slot.1).mergeSort Entries.precedes := rfl

theorem not_mem_codes_of_mem_otherSlots {given : Entries String String} {slot : String × String}
    (h : slot ∈ otherSlots given) : Locale.codes.contains slot.1 = false := by
  have hmem := List.mem_mergeSort.mp h
  simpa using (List.mem_filter.mp hmem).2

theorem nodup_otherSlots {given : Entries String String} (hn : given.keys.Nodup) : (otherSlots given).keys.Nodup :=
  Entries.nodup_mergeSort (Entries.nodup_filter hn _)

theorem get?_otherSlots {given : Entries String String} (hn : given.keys.Nodup) (name : String) :
    (otherSlots given).get? name = if Locale.codes.contains name then none else given.get? name := by
  rw [otherSlots_eq, Entries.get?_mergeSort (Entries.nodup_filter hn _), Entries.get?_filter hn]
  cases given.get? name with
  | none => rw [Option.filter_none, ite_self]
  | some value => cases h : Locale.codes.contains name <;> simp only [Option.filter_some, h] <;> rfl

theorem nodup_canonical (text : String) {given : Entries String String} (hn : given.keys.Nodup) :
    (canonical text given).keys.Nodup := by
  rw [canonical_eq, Entries.keys, List.map_append, List.nodup_append]
  refine ⟨nodup_codes, nodup_otherSlots hn, ?_⟩
  rintro a ha b hb rfl
  obtain ⟨slot, hslot, rfl⟩ := List.mem_map.mp hb
  have hnot := not_mem_codes_of_mem_otherSlots hslot
  rw [← Bool.not_eq_true, List.contains_iff_mem] at hnot
  exact hnot ha

theorem get?_canonical (text : String) {given : Entries String String} (hn : given.keys.Nodup) (name : String) :
    (canonical text given).get? name =
      if Locale.codes.contains name then
        some (if name = Locale.fallback.code ∧ (given.get? name).getD "" = "" then text else (given.get? name).getD "")
      else given.get? name := by
  rw [canonical_eq, Entries.get?_append, get?_localeSlots, get?_otherSlots hn]
  split
  · rfl
  · rfl

/-- Slots that answer the same have one canonical form. -/
theorem canonical_congr (text : String) {given others : Entries String String} (hn : given.keys.Nodup)
    (hn' : others.keys.Nodup) (h : ∀ name, given.get? name = others.get? name) :
    canonical text given = canonical text others := by
  have hlocales : localeSlots text given = localeSlots text others := by
    refine List.map_congr_left fun l _ => ?_
    rw [h l.code]
  have hothers : otherSlots given = otherSlots others := by
    refine Entries.mergeSort_congr (Entries.nodup_filter hn _) (Entries.nodup_filter hn' _) fun name => ?_
    rw [Entries.get?_filter hn, Entries.get?_filter hn', h name]
  rw [canonical_eq, canonical_eq, hlocales, hothers]

/-- Canonical slots that are made canonical again, for any text that leaves the default slot, stay what they are. -/
theorem canonical_canonical (text : String) {given : Entries String String} (hn : given.keys.Nodup) :
    canonical text (canonical text given) = canonical text given := by
  have hlocales : localeSlots text (canonical text given) = localeSlots text given := by
    refine List.map_congr_left fun l _ => ?_
    have hl : Locale.codes.contains l.code = true := (mem_codes_iff _).mpr ⟨l, rfl⟩
    simp only [get?_canonical text hn, hl, if_true, Option.getD_some]
    cases l <;> simp [Locale.code, Locale.fallback]
    · split <;> simp_all
  have hothers : otherSlots (canonical text given) = otherSlots given := by
    have hfilter : (canonical text given).filter (fun slot => !Locale.codes.contains slot.1) = otherSlots given := by
      rw [canonical_eq, List.filter_append]
      have hnone : (localeSlots text given).filter (fun slot => !Locale.codes.contains slot.1) = [] := by
        refine List.filter_eq_nil_iff.mpr fun slot hslot => ?_
        have hmem : slot.1 ∈ Locale.codes := keys_localeSlots text given ▸ List.mem_map_of_mem hslot
        simp [hmem]
      rw [hnone, List.nil_append, List.filter_eq_self]
      intro slot hslot
      rw [not_mem_codes_of_mem_otherSlots hslot]
      rfl
    rw [otherSlots, hfilter]
    exact List.mergeSort_of_pairwise (Entries.pairwise_mergeSort _)
  rw [canonical_eq, hlocales, hothers, ← canonical_eq]

/-- Setting the slot of a supported locale but the default one keeps the order of all slots. -/
theorem canonical_put (text : String) (given : Entries String String) {l : Locale} (hl : l ≠ Locale.fallback)
    (value : String) : canonical text (given.put l.code value) = (canonical text given).put l.code value := by
  have hcode : Locale.codes.contains l.code = true := (mem_codes_iff _).mpr ⟨l, rfl⟩
  have hothers : otherSlots (given.put l.code value) = otherSlots given := by
    rw [otherSlots_eq, otherSlots_eq,
      Entries.filter_keys_put_of_neg given (p := fun name => !Locale.codes.contains name) (by rw [hcode]; rfl)]
  have hlocales : localeSlots text (given.put l.code value) = (localeSlots text given).put l.code value := by
    cases l with
    | en => exact absurd rfl hl
    | ru => simp [localeSlots, Locale.all, Entries.get?_put, Entries.put, Locale.code, Locale.fallback]
    | pseudo => simp [localeSlots, Locale.all, Entries.get?_put, Entries.put, Locale.code, Locale.fallback]
  rw [canonical_eq, hlocales, hothers, canonical_eq, Entries.put_append_of_mem]
  rw [keys_localeSlots]
  exact List.contains_iff_mem.mp hcode

/-! ## 2. Made records -/

/-- What every record holds that was made or read: a key, and slots as the program gives them. -/
structure IsCanonical (r : Record) : Prop where
  key_ne : r.key ≠ ""
  nodup : r.translations.keys.Nodup
  slots : canonical r.text r.translations = r.translations

theorem make_isCanonical (text : String) {key : String} (hk : key ≠ "") {given : Entries String String}
    (hn : given.keys.Nodup) (context : Context) (stale : Option Bool) :
    (make text key given context stale).IsCanonical where
  key_ne := hk
  nodup := nodup_canonical text hn
  slots := canonical_canonical text hn

theorem IsCanonical.make_eq {r : Record} (h : r.IsCanonical) :
    make r.text r.key r.translations r.context r.stale = r := by
  rw [make, h.slots]

/-- In every locale but the default one a made record shows what it was given. -/
theorem translation_make {text key : String} {given : Entries String String} (hn : given.keys.Nodup)
    {context : Context} {stale : Option Bool} {name : String} (hname : name ≠ Locale.fallback.code) :
    (make text key given context stale).translation name = (given.get? name).getD "" := by
  rw [translation, make, get?_canonical text hn]
  split
  · rw [Option.getD_some, if_neg fun h => hname h.1]
  · rfl

/-- In the default locale an empty value is replaced by the text. -/
theorem translation_make_fallback {text key : String} {given : Entries String String} (hn : given.keys.Nodup)
    {context : Context} {stale : Option Bool} {value : String}
    (hvalue : given.get? Locale.fallback.code = some value) :
    (make text key given context stale).translation Locale.fallback.code = if value = "" then text else value := by
  have hcode : Locale.codes.contains Locale.fallback.code = true := (mem_codes_iff _).mpr ⟨_, rfl⟩
  rw [translation, make, get?_canonical text hn, if_pos hcode, hvalue, Option.getD_some, Option.getD_some]
  simp only [true_and]

theorem key_within_ne (text : String) (context : Context) : Key.within text context ≠ "" := by
  intro h
  have hlength := Key.length_of text context.text
  rw [Key.within] at h
  rw [h] at hlength
  exact absurd hlength (by decide)

theorem extracted_isCanonical (text : String) (context : Context) : (extracted text context).IsCanonical :=
  make_isCanonical text (key_within_ne text context) (by simp [Entries.keys, Locale.human]; decide) context none

/-! ## 3. Reading back -/

theorem membersArePlain_slots (slots : Entries String String) :
    Json.membersArePlain (slots.map fun slot => (slot.1, Json.string slot.2)) = true := by
  induction slots with
  | nil => rfl
  | cons slot slots ih => rw [List.map_cons, Json.membersArePlain, ih]; rfl

theorem isPlain_toJson (r : Record) : r.toJson.isPlain = true := by
  rw [toJson]
  cases r.stale <;>
    simp only [List.append_nil, List.cons_append, List.nil_append, Json.isPlain, Json.membersArePlain,
      membersArePlain_slots, Context.toJson, Bool.and_self]

theorem depthOfMembers_slots (slots : Entries String String) :
    Json.depthOfMembers (slots.map fun slot => (slot.1, Json.string slot.2)) = 0 := by
  induction slots with
  | nil => rfl
  | cons slot slots ih => rw [List.map_cons, Json.depthOfMembers, ih]; rfl

theorem depth_toJson (r : Record) : r.toJson.depth = 2 := by
  rw [toJson]
  cases r.stale <;>
    simp only [List.append_nil, List.cons_append, List.nil_append, Json.depth, Json.depthOfMembers,
      depthOfMembers_slots, Context.toJson] <;> rfl

theorem checkSlots_slots (slots : Entries String String) :
    checkSlots (slots.map fun slot => (slot.1, Json.string slot.2)) = .ok slots := by
  induction slots with
  | nil => rfl
  | cons slot slots ih =>
    rw [List.map_cons, checkSlots, ih]
    rfl

theorem checkTranslations_slots {slots : Entries String String} (hn : slots.keys.Nodup) :
    checkTranslations (some (.object (slots.map fun slot => (slot.1, .string slot.2)))) = .ok slots := by
  have hkeys : Entries.keys (slots.map fun slot => (slot.1, Json.string slot.2)) = slots.keys := by
    rw [Entries.keys, Entries.keys, List.map_map]
    rfl
  rw [checkTranslations, Entries.ofList_of_nodup (hkeys ▸ hn), checkSlots_slots]

theorem checkContext_toJson (c : Context) : checkContext (some c.toJson) = .ok c := rfl

theorem requireKey_string {key : String} (hk : key ≠ "") : requireKey (some (.string key)) = .ok key := by
  rw [requireKey, if_neg (by simpa using hk)]

/-- A canonical record reads back. -/
theorem ofJson_toJson {r : Record} (h : r.IsCanonical) : ofJson r.toJson = .ok r := by
  have hmake := h.make_eq
  have hslots := checkTranslations_slots h.nodup
  have hkey := requireKey_string h.key_ne
  obtain ⟨text, key, translations, context, stale⟩ := r
  cases stale with
  | none =>
    simp only [toJson, ofJson, Json.member?, List.append_nil, List.foldl_cons, List.foldl_nil]
    simp only [String.reduceBEq, Bool.false_eq_true, if_false, if_true, BEq.rfl, Option.some_or, hkey, hslots,
      checkContext_toJson, checkStale, requireString, checkString, both, hmake]
  | some b =>
    simp only [toJson, ofJson, Json.member?, List.cons_append, List.nil_append, List.foldl_cons, List.foldl_nil]
    simp only [String.reduceBEq, Bool.false_eq_true, if_false, if_true, BEq.rfl, Option.some_or, hkey, hslots,
      checkContext_toJson, checkStale, checkFlag, Except.map, requireString, checkString, both, hmake]

theorem keys_of_checkSlots {members : List (String × Json)} {slots : List (String × String)}
    (h : checkSlots members = .ok slots) : Entries.keys slots = members.map Prod.fst := by
  induction members generalizing slots with
  | nil =>
    rw [checkSlots, Except.ok.injEq] at h
    rw [← h]
    rfl
  | cons m members ih =>
    rw [checkSlots] at h
    cases hm : checkString m.2 with
    | error n => rw [hm] at h; cases hr : checkSlots members <;> simp [hr, both] at h
    | ok s =>
      cases hr : checkSlots members with
      | error n => simp [hm, hr, both] at h
      | ok rest =>
        simp only [hm, hr, both, Except.ok.injEq] at h
        rw [← h, Entries.keys, List.map_cons, List.map_cons, ← ih hr, Entries.keys]

theorem nodup_of_checkTranslations {j : Option Json} {slots : Entries String String}
    (h : checkTranslations j = .ok slots) : slots.keys.Nodup := by
  rw [checkTranslations.eq_def] at h
  split at h
  · rw [Except.ok.injEq] at h
    rw [← h]
    exact List.nodup_nil
  · rw [keys_of_checkSlots h]
    exact Entries.nodup_ofList _
  · exact absurd h (by simp)

theorem ne_of_requireKey {j : Option Json} {key : String} (h : requireKey j = .ok key) : key ≠ "" := by
  rw [requireKey.eq_def] at h
  split at h
  · split at h
    · exact absurd h (by simp)
    · rename_i hne
      rw [Except.ok.injEq] at h
      rw [← h]
      simpa using hne
  · exact absurd h (by simp)

theorem ok_of_both {α β : Type} {a : Checked α} {b : Checked β} {x : α × β} (h : both a b = .ok x) :
    a = .ok x.1 ∧ b = .ok x.2 := by
  cases a <;> cases b <;> simp [both] at h
  rw [← h]
  exact ⟨rfl, rfl⟩

/-- Whatever is read as a record is canonical. -/
theorem isCanonical_of_ofJson {j : Json} {r : Record} (h : ofJson j = .ok r) : r.IsCanonical := by
  cases j with
  | object members =>
    rw [ofJson] at h
    split at h
    · rename_i text key translations context stale hparts
      obtain ⟨-, hparts⟩ := ok_of_both hparts
      obtain ⟨hkey, hparts⟩ := ok_of_both hparts
      obtain ⟨hslots, -⟩ := ok_of_both hparts
      rw [Except.ok.injEq] at h
      rw [← h]
      exact make_isCanonical _ (ne_of_requireKey hkey) (nodup_of_checkTranslations hslots) _ _
    · exact absurd h (by simp)
  | _ => exact absurd h (by simp [ofJson])

/-! ## 4. Lines -/

theorem ofText_lineText {r : Record} (h : r.IsCanonical) : ofText r.lineText.toList = .ok r := by
  have hdepth : r.toJson.depth ≤ Json.maxDepth := by rw [depth_toJson]; decide
  rw [ofText, lineText, Json.write, String.toList_ofList,
    Json.readStrict_valueText Json.compact_isStandard (isPlain_toJson r) hdepth]
  exact ofJson_toJson h

theorem ofLine_lineText {r : Record} (h : r.IsCanonical) (number : Nat) :
    ofLine number (Text.Utf8.encode r.lineText.toList) = .ok r := by
  rw [ofLine, Text.Utf8.decode_encode]
  simp only [ofText_lineText h]

/-- A canonical record reads back from its line, line end and all. -/
theorem ofLine_lineBytes {r : Record} (h : r.IsCanonical) (number : Nat) : ofLine number r.lineBytes = .ok r := by
  have hblank : ∀ c ∈ ['\n'], Json.isBlank c = true := List.forall_mem_singleton.mpr rfl
  have hdepth : r.toJson.depth ≤ Json.maxDepth := by rw [depth_toJson]; decide
  have hread := Json.readStrict_valueText_append Json.compact_isStandard (isPlain_toJson r) hdepth hblank
  rw [ofLine, lineBytes, lineText, Json.write, String.toList_ofList, Text.Utf8.decode_encode]
  dsimp only
  rw [ofText, hread]
  dsimp only
  rw [ofJson_toJson h]

theorem exists_of_ofText {cs : List Char} {r : Record} (h : ofText cs = .ok r) :
    ∃ j, Json.readStrict cs = some j ∧ ofJson j = .ok r := by
  rw [ofText] at h
  split at h
  · exact ⟨_, ‹_›, h⟩
  · exact absurd h (by simp)

theorem exists_of_ofLine {number : Nat} {bytes : List UInt8} {r : Record} (h : ofLine number bytes = .ok r) :
    ∃ cs, Text.Utf8.decode bytes = .ok cs ∧ ofText cs = .ok r := by
  rw [ofLine] at h
  split at h
  · exact absurd h (by simp)
  · split at h
    · rename_i hdecode _ _ hr
      rw [Except.ok.injEq] at h
      exact ⟨_, hdecode, h ▸ hr⟩
    · exact absurd h (by simp)

theorem isCanonical_of_ofLine {number : Nat} {bytes : List UInt8} {r : Record} (h : ofLine number bytes = .ok r) :
    r.IsCanonical := by
  obtain ⟨cs, -, hr⟩ := exists_of_ofLine h
  obtain ⟨j, -, hrecord⟩ := exists_of_ofText hr
  exact isCanonical_of_ofJson hrecord

theorem lineBytes_eq (r : Record) : r.lineBytes = Text.Utf8.encode r.lineText.toList ++ [lineEnd] := by
  rw [lineBytes, Text.Utf8.encode_append]
  rfl

theorem lineEnd_not_mem (r : Record) : lineEnd ∉ Text.Utf8.encode r.lineText.toList := by
  intro h
  -- a line end would be the byte of a control character, and these are escaped
  obtain ⟨c, hc, hcode⟩ := Text.Utf8.mem_encode_lt (by decide) h
  rw [lineText, Json.write, String.toList_ofList] at hc
  have hge := Json.toNat_compact_ge (isPlain_toJson r) c hc
  rw [hcode] at hge
  exact absurd hge (by decide)

theorem lineText_head (r : Record) : ∃ cs, r.lineText.toList = '{' :: cs := by
  rw [lineText, Json.write, String.toList_ofList, toJson]
  cases r.stale with
  | none => exact ⟨_, rfl⟩
  | some b => exact ⟨_, rfl⟩

theorem not_all_isBlankByte (r : Record) : (Text.Utf8.encode r.lineText.toList).all isBlankByte = false := by
  obtain ⟨cs, hcs⟩ := lineText_head r
  rw [hcs]
  rfl

/-- A line of a record is read as that record; the lines after it have numbers one higher. -/
theorem ofLines_lineBytes {r : Record} (h : r.IsCanonical) (number : Nat) (bytes : List UInt8) :
    ofLines number (Text.splitOn lineEnd (r.lineBytes ++ bytes)) =
      ⟨r :: (ofLines (number + 1) (Text.splitOn lineEnd bytes)).records,
        (ofLines (number + 1) (Text.splitOn lineEnd bytes)).failures⟩ := by
  rw [lineBytes_eq, List.append_assoc, List.singleton_append, Text.splitOn_append (lineEnd_not_mem r), ofLines,
    not_all_isBlankByte, ofLine_lineText h]
  rfl

theorem ofLines_linesBytes {records : List Record} (h : ∀ r ∈ records, r.IsCanonical) (number : Nat) :
    ofLines number (Text.splitOn lineEnd (linesBytes records)) = ⟨records, []⟩ := by
  induction records generalizing number with
  | nil => rfl
  | cons r records ih =>
    obtain ⟨hr, hrecords⟩ := List.forall_mem_cons.mp h
    rw [linesBytes, List.flatMap_cons, ← linesBytes, ofLines_lineBytes hr, ih hrecords]

/-- The lines of records are read as these records, and none is set aside. -/
theorem ofLog_linesBytes {records : List Record} (h : ∀ r ∈ records, r.IsCanonical) :
    ofLog (linesBytes records) = ⟨records, []⟩ :=
  ofLines_linesBytes h 1

/-- Whatever lines hold, their records are canonical. -/
theorem isCanonical_of_mem_ofLines {number : Nat} {lines : List (List UInt8)} :
    ∀ r ∈ (ofLines number lines).records, r.IsCanonical := by
  induction lines generalizing number with
  | nil => exact fun r h => absurd h List.not_mem_nil
  | cons line lines ih =>
    rw [ofLines]
    split
    · exact ih
    · split
      · rename_i r hr
        exact List.forall_mem_cons.mpr ⟨isCanonical_of_ofLine hr, ih⟩
      · exact ih

theorem isCanonical_of_mem_ofLog {bytes : List UInt8} : ∀ r ∈ (ofLog bytes).records, r.IsCanonical :=
  isCanonical_of_mem_ofLines

theorem linesBytes_ne_nil {records : List Record} (h : records ≠ []) : linesBytes records ≠ [] := by
  obtain ⟨r, rest, rfl⟩ := List.exists_cons_of_ne_nil h
  rw [linesBytes, List.flatMap_cons, lineBytes_eq]
  simp

theorem linesBytes_append (records more : List Record) :
    linesBytes (records ++ more) = linesBytes records ++ linesBytes more :=
  List.flatMap_append

end Phrasebook.Record
