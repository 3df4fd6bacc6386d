import Phrasebook.Catalog.Store
import Phrasebook.Proofs.Limits
import Phrasebook.Proofs.Records

/-!
# Catalogs survive being written

A catalog is sound if no key comes twice and its records are canonical. A catalog that is read is sound, and a sound
catalog reads back from its file: entry for entry, in the order in which the file has them.

Results:
1. `isSound_of_ofBytes`: what is read is sound.
2. `ofBytes_fileText`: what is written reads back, with no part of it damaged.
-/

namespace Phrasebook.Catalog

/-- What every catalog holds that was read or merged. -/
structure IsSound (c : Catalog) : Prop where
  nodup : c.keys.Nodup
  canonical : ∀ entry ∈ c, entry.2.IsCanonical

theorem isSound_nil : IsSound [] where
  nodup := List.nodup_nil
  canonical := fun _ h => absurd h List.not_mem_nil

theorem IsSound.get? {c : Catalog} (h : c.IsSound) {key : String} {r : Record} (hr : c.get? key = some r) :
    r.IsCanonical :=
  h.canonical _ (Entries.mem_of_get? hr)

/-! ## 1. Order -/

theorem mem_arranged {sorted : Bool} {c : Catalog} {entry : String × Record} :
    entry ∈ c.arranged sorted ↔ entry ∈ c := by
  rw [arranged]
  split
  · exact List.mem_mergeSort
  · rfl

theorem IsSound.arranged {c : Catalog} (h : c.IsSound) (sorted : Bool) : IsSound (c.arranged sorted) where
  nodup := by
    rw [Catalog.arranged]
    split
    · exact Entries.nodup_mergeSort h.nodup
    · exact h.nodup
  canonical := fun entry hentry => h.canonical entry (mem_arranged.mp hentry)

theorem get?_arranged {c : Catalog} (h : c.IsSound) (sorted : Bool) (key : String) :
    Entries.get? key (c.arranged sorted) = c.get? key := by
  rw [arranged]
  split
  · exact Entries.get?_mergeSort h.nodup key
  · rfl

/-- Catalogs with the same entries in the same order have one file. -/
theorem fileText_congr {sorted : Bool} {c other : Catalog} (h : c.arranged sorted = other.arranged sorted) :
    c.fileText sorted = other.fileText sorted := by
  rw [fileText, fileText, dataText, dataText, toJson, toJson, h]

/-- They have one lookup module. -/
theorem moduleText_congr {sorted : Bool} {c other : Catalog} (h : c.arranged sorted = other.arranged sorted) :
    c.moduleText sorted = other.moduleText sorted := by
  rw [moduleText, moduleText, dataText, dataText, toJson, toJson, h]

/-! ## 2. Reading -/

theorem keys_of_entriesOf {members : List (String × Json)} {c : Catalog} (h : entriesOf members = .ok c) :
    c.keys = members.map Prod.fst ∧ ∀ entry ∈ c, entry.2.IsCanonical := by
  induction members generalizing c with
  | nil =>
    rw [entriesOf, Except.ok.injEq] at h
    rw [← h]
    exact ⟨rfl, fun _ hmem => absurd hmem List.not_mem_nil⟩
  | cons m members ih =>
    rw [entriesOf] at h
    split at h
    · exact absurd h (by simp)
    · rename_i r hr
      split at h
      · rename_i rest hrest
        rw [Except.ok.injEq] at h
        obtain ⟨hkeys, hcanonical⟩ := ih hrest
        rw [← h]
        refine ⟨by rw [Entries.keys, List.map_cons, List.map_cons, ← hkeys, Entries.keys], ?_⟩
        intro entry hentry
        rcases List.mem_cons.mp hentry with rfl | hentry
        · exact Record.isCanonical_of_ofJson hr
        · exact hcanonical entry hentry
      · exact absurd h (by simp)

theorem isSound_of_ofJson {j : Json} {loaded : Loaded} (h : ofJson j = .ok loaded) : loaded.catalog.IsSound := by
  rw [ofJson.eq_def] at h
  split at h
  · rename_i members
    dsimp only at h
    split at h
    · rename_i c hc
      obtain ⟨hkeys, hcanonical⟩ := keys_of_entriesOf hc
      rw [Except.ok.injEq] at h
      rw [← h]
      exact ⟨hkeys ▸ Entries.nodup_ofList members, hcanonical⟩
    · exact absurd h (by simp)
  · exact absurd h (by simp)

/-- What is read is sound. -/
theorem isSound_of_ofBytes {room : Json.Room} {bytes : List UInt8} {loaded : Loaded}
    (h : ofBytes room bytes = .ok loaded) : loaded.catalog.IsSound := by
  rw [ofBytes] at h
  split at h
  · exact absurd h (by simp)
  · split at h
    · exact absurd h (by simp)
    · exact isSound_of_ofJson h

/-! ## 3. Reading back -/

def members (c : Catalog) : List (String × Json) := c.map fun entry => (entry.1, entry.2.toJson)

theorem keys_members (c : Catalog) : Entries.keys c.members = c.keys := by
  rw [members, Entries.keys, Entries.keys, List.map_map]
  rfl

theorem membersArePlain_members (c : Catalog) : Json.membersArePlain c.members = true := by
  induction c with
  | nil => rfl
  | cons entry c ih =>
    rw [members] at ih
    rw [members, List.map_cons, Json.membersArePlain, ih, Record.isPlain_toJson]
    rfl

theorem isPlain_toJson (sorted : Bool) (c : Catalog) : (c.toJson sorted).isPlain = true :=
  membersArePlain_members (c.arranged sorted)

theorem entriesOf_members {c : Catalog} (h : ∀ entry ∈ c, entry.2.IsCanonical) : entriesOf c.members = .ok c := by
  induction c with
  | nil => rfl
  | cons entry c ih =>
    obtain ⟨hentry, hc⟩ := List.forall_mem_cons.mp h
    have hrest := ih hc
    rw [members] at hrest
    rw [members, List.map_cons, entriesOf, Record.ofJson_toJson hentry, hrest]

theorem isBroken_string (s : String) : isBroken (.string s) = false := rfl

theorem isBroken_slots (slots : Entries String String) :
    (slots.map fun slot => (slot.1, Json.string slot.2)).filter (fun m => isBroken m.2) = [] := by
  rw [List.filter_eq_nil_iff]
  intro m hm
  obtain ⟨slot, -, rfl⟩ := List.mem_map.mp hm
  exact Bool.false_ne_true

/-- No part of a written record is damaged. -/
theorem damageOf_toJson (key : String) (r : Record) : damageOf key r.toJson = [] := by
  have hslots := isBroken_slots r.translations
  obtain ⟨text, k, translations, context, stale⟩ := r
  cases stale with
  | none =>
    simp only [Record.toJson, damageOf, Json.get?, Json.member?, List.append_nil, List.foldl_cons, List.foldl_nil]
    simp only [String.reduceBEq, Bool.false_eq_true, if_false, if_true, BEq.rfl, Option.some_or, Option.any_some,
      Context.toJson, List.any_cons, List.any_nil, isBroken_string, Bool.or_self, hslots, List.map_nil, List.append_nil]
  | some b =>
    simp only [Record.toJson, damageOf, Json.get?, Json.member?, List.cons_append, List.nil_append, List.foldl_cons,
      List.foldl_nil]
    simp only [String.reduceBEq, Bool.false_eq_true, if_false, if_true, BEq.rfl, Option.some_or, Option.any_some,
      Context.toJson, List.any_cons, List.any_nil, isBroken_string, Bool.or_self, hslots, List.map_nil, List.append_nil]

theorem ofJson_toJson (sorted : Bool) {c : Catalog} (h : c.IsSound) :
    ofJson (c.toJson sorted) = .ok ⟨c.arranged sorted, []⟩ := by
  have hs := h.arranged sorted
  have hmembers : Entries.ofList (members (c.arranged sorted)) = members (c.arranged sorted) :=
    Entries.ofList_of_nodup ((keys_members _).symm ▸ hs.nodup)
  have hdamage : (members (c.arranged sorted)).flatMap (fun m => damageOf m.1 m.2) = [] := by
    rw [List.flatMap_eq_nil_iff]
    intro m hm
    obtain ⟨entry, -, rfl⟩ := List.mem_map.mp hm
    exact damageOf_toJson entry.1 entry.2
  rw [toJson, ← members, ofJson]
  simp only [hmembers, entriesOf_members hs.canonical, hdamage]

theorem unifyLines_of_ne_return {cs : List Char} (h : ∀ c ∈ cs, c ≠ '\r') : Text.unifyLines cs = cs := by
  induction cs with
  | nil => rfl
  | cons c cs ih =>
    obtain ⟨hc, hcs⟩ := List.forall_mem_cons.mp h
    rw [Text.unifyLines, ih hcs]
    · rintro r rfl
      exact absurd rfl hc
    · rintro rfl
      exact absurd rfl hc

theorem fileText_toList (sorted : Bool) (c : Catalog) :
    (c.fileText sorted).toList = Json.valueText .indented 0 (c.toJson sorted) ++ ['\n'] := by
  rw [fileText, dataText, Json.write, String.toList_append, String.toList_ofList]
  rfl

theorem depthOfMembers_members_le (c : Catalog) : Json.depthOfMembers c.members ≤ 2 := by
  induction c with
  | nil => exact Nat.zero_le 2
  | cons entry c ih =>
    rw [members] at ih
    rw [members, List.map_cons, Json.depthOfMembers, Record.depth_toJson]
    exact Nat.max_le.mpr ⟨Nat.le_refl 2, ih⟩

/-- There is always room for what a catalog is written as. -/
theorem depth_toJson_le (sorted : Bool) (c : Catalog) (room : Json.Room) : (c.toJson sorted).depth ≤ room.depth := by
  have hmembers := depthOfMembers_members_le (c.arranged sorted)
  have hroom := room.ample
  rw [toJson, ← members, Json.depth]
  omega

/-- A catalog reads back from its file, in the order of the file and without damage. -/
theorem ofBytes_fileText (room : Json.Room) (sorted : Bool) {c : Catalog} (h : c.IsSound) :
    ofBytes room (CatalogStore.bytesOf (c.fileText sorted)) = .ok ⟨c.arranged sorted, []⟩ := by
  have hreturn : ∀ d ∈ (c.fileText sorted).toList, d ≠ '\r' := by
    rw [fileText_toList]
    intro d hd
    rcases List.mem_append.mp hd with hd | hd
    · exact Json.ne_return_indented (isPlain_toJson sorted c) d hd
    · rw [List.mem_singleton.mp hd]
      decide
  rw [ofBytes, CatalogStore.bytesOf, Text.Utf8.decode_encode]
  simp only [unifyLines_of_ne_return hreturn]
  rw [fileText_toList, Json.readWithin_valueText Json.indented_isStandard (isPlain_toJson sorted c)
    (depth_toJson_le sorted c room) (List.all_eq_true.mp (by decide))]
  exact ofJson_toJson sorted h

end Phrasebook.Catalog
