import Phrasebook.Proofs.Builds

/-!
# Entries after edits by hand

The slots of the default locale and of the pseudo locale are made by the program, so that whatever a hand writes into them
between two merges should be gone after the next one. An entry with records is made anew, and is faithful to its text in
both slots and in the order of all. An entry without records is copied: only its pseudo slot is made anew, so that an
edited default slot, or a slot that was added out of order, stays as the hand left it.

Results:
1. `isFaithful_freshEntry`: an entry with records is faithful.
2. `isFaithful_staleEntry_iff`: one without is faithful just if the edited entry shows its text and has its slots in order.
3. `isComplete_of_history`: through all merges and edits no locale loses its slot.
4. `isFaithful_iff`: which entries of a merged catalog are faithful.
-/

namespace Phrasebook

/-! ## 1. Faithful entries -/

namespace Record

/-- The slots of the locales come first, and then all others by name. -/
def InOrder (slots : Entries String String) : Prop :=
  ∃ others, slots.keys = Locale.codes ++ others ∧ others.Pairwise (· < ·) ∧ ∀ name ∈ others, name ∉ Locale.codes

/-- There is a slot for every locale. -/
def IsComplete (r : Record) : Prop := ∀ l : Locale, l.code ∈ r.translations.keys

/-- The slots that the program fills show the text, every locale has a slot, and the slots are in order. -/
structure IsFaithful (r : Record) : Prop where
  fallback : r.translation Locale.fallback.code = r.text
  pseudo : r.translation Locale.pseudo.code = Pseudo.render r.text
  complete : r.IsComplete
  inOrder : InOrder r.translations

theorem InOrder.isComplete {r : Record} (h : InOrder r.translations) : r.IsComplete := by
  obtain ⟨others, hkeys, -⟩ := h
  intro l
  rw [hkeys]
  exact List.mem_append_left _ (List.mem_map_of_mem (Locale.mem_all l))

/-- Canonical slots are in order. -/
theorem inOrder_canonical (text : String) {given : Entries String String} (hn : given.keys.Nodup) :
    InOrder (canonical text given) := by
  refine ⟨(otherSlots given).keys, ?_, ?_, ?_⟩
  · rw [canonical_eq, Entries.keys, List.map_append, ← Entries.keys, ← Entries.keys, keys_localeSlots]
  · -- the slots are sorted by their names, and no name comes twice
    rw [otherSlots_eq]
    exact Entries.pairwise_keys_mergeSort (Entries.nodup_filter hn _)
  · intro name hname
    obtain ⟨slot, hslot, rfl⟩ := List.mem_map.mp hname
    have hnot := not_mem_codes_of_mem_otherSlots hslot
    rwa [← Bool.not_eq_true, List.contains_iff_mem] at hnot

theorem IsCanonical.inOrder {r : Record} (h : r.IsCanonical) : InOrder r.translations :=
  h.slots ▸ inOrder_canonical r.text h.nodup

end Record

/-! ## 2. What a merge makes -/

namespace Merge

variable {records : List Record} {prior : Catalog} {prune : Bool} {key : String}

/-- In the pseudo locale a fresh entry shows what is made from the text of the last record. -/
theorem translation_freshEntry_pseudo (last : Record) :
    (freshEntry records prior key last).translation Locale.pseudo.code = Pseudo.render last.text := by
  have hlocale : Locale.isGenerated Locale.pseudo.code = true := by decide
  rw [freshEntry_eq, Record.translation_make (nodup_freshSlots _ _ _ _) (by decide), freshSlots,
    Entries.get?_putAll_of_not_mem _ (not_mem_keys_kept hlocale),
    Entries.get?_putAll_of_not_mem _ (not_mem_keys_gathered hlocale)]
  rfl

/-- An entry with records is faithful, whatever the earlier catalog holds. -/
theorem isFaithful_freshEntry (records : List Record) (prior : Catalog) (key : String) (last : Record) :
    (freshEntry records prior key last).IsFaithful where
  fallback := translation_freshEntry_fallback last
  pseudo := translation_freshEntry_pseudo last
  complete := (Record.inOrder_canonical _ (nodup_freshSlots _ _ _ _)).isComplete
  inOrder := Record.inOrder_canonical _ (nodup_freshSlots _ _ _ _)

theorem translation_staleEntry_pseudo (r : Record) :
    (staleEntry r).translation Locale.pseudo.code = Pseudo.render r.text := by
  rw [Record.translation, staleEntry]
  dsimp only
  rw [Entries.get?_put, if_pos rfl]
  rfl

theorem keys_staleEntry {r : Record} (h : r.IsComplete) : (staleEntry r).translations.keys = r.translations.keys :=
  Entries.keys_put_of_mem (h .pseudo) _

/-- An entry without records is faithful just if it showed its text in the default locale, with its slots in order. -/
theorem isFaithful_staleEntry_iff {r : Record} (h : r.IsComplete) :
    (staleEntry r).IsFaithful ↔ r.translation Locale.fallback.code = r.text ∧ Record.InOrder r.translations := by
  have hfallback : (staleEntry r).translation Locale.fallback.code = r.translation Locale.fallback.code :=
    translation_staleEntry r (by decide)
  have hkeys := keys_staleEntry h
  constructor
  · intro hfaithful
    refine ⟨hfallback.symm.trans hfaithful.fallback, ?_⟩
    obtain ⟨others, horder⟩ := hfaithful.inOrder
    exact ⟨others, hkeys ▸ horder⟩
  · rintro ⟨htext, others, horder⟩
    exact {
      fallback := hfallback.trans htext
      pseudo := translation_staleEntry_pseudo r
      complete := fun l => hkeys ▸ h l
      inOrder := ⟨others, hkeys ▸ horder⟩ }

/-! ## 3. Edits between merges -/

/-- A catalog after edits by hand: no text was changed, no key added, and no locale has lost its slot. -/
def IsEdited (before after : Catalog) : Prop :=
  ∀ key r, after.get? key = some r →
    ∃ old, before.get? key = some old ∧ r.text = old.text ∧ (old.IsComplete → r.IsComplete)

/-- A catalog in which one slot was filled by hand. -/
def fillSlot (c : Catalog) (key locale value : String) : Catalog :=
  c.map fun entry => (entry.1,
    if entry.1 = key then { entry.2 with translations := entry.2.translations.put locale value } else entry.2)

/-- Any slot may be filled, also one that the program fills. -/
theorem isEdited_fillSlot (c : Catalog) (key locale value : String) : IsEdited c (fillSlot c key locale value) := by
  intro other r hr
  have hget := Entries.get?_map c
    (fun k r => if k = key then { r with translations := r.translations.put locale value } else r) other
  rw [← fillSlot, hr] at hget
  obtain ⟨old, hold, heq⟩ := Option.map_eq_some_iff.mp hget.symm
  refine ⟨old, hold, ?_⟩
  rw [← heq]
  split
  · exact ⟨rfl, fun hcomplete l => (Entries.mem_keys_put _ _ _ _).mpr (.inr (hcomplete l))⟩
  · exact ⟨rfl, id⟩

/-- The catalogs that come about by merges with edits between them, from one that was read. -/
inductive History : Catalog → Prop
  | start {c : Catalog} : c.IsSound → History c
  | merge {c edited : Catalog} (records : List Record) (prune : Bool) :
      History c → IsEdited c edited → History (catalog records edited prune)

/-- A merge gives every locale its slot, if the earlier catalog does. -/
theorem isComplete_catalog (h : ∀ key r, prior.get? key = some r → r.IsComplete) {r : Record}
    (hr : (catalog records prior prune).get? key = some r) : r.IsComplete := by
  rw [get?_catalog] at hr
  split at hr
  · obtain rfl := Option.some.inj hr
    exact (isFaithful_freshEntry _ _ _ _).complete
  · split at hr
    · cases hr
    · obtain ⟨old, hold, rfl⟩ := Option.map_eq_some_iff.mp hr
      have hcomplete := h key old hold
      intro l
      rw [keys_staleEntry hcomplete]
      exact hcomplete l

/-- Through all merges and edits every locale has its slot. -/
theorem isComplete_of_history {c : Catalog} (h : History c) : ∀ key r, c.get? key = some r → r.IsComplete := by
  induction h with
  | start hsound => exact fun key r hr => (hsound.get? hr).inOrder.isComplete
  | merge records prune _ hedited ih =>
    intro key r hr
    refine isComplete_catalog (fun key r hr => ?_) hr
    obtain ⟨old, hold, -, hcomplete⟩ := hedited key r hr
    exact hcomplete (ih key old hold)

theorem translation_catalog_pseudo {r : Record} (hr : (catalog records prior prune).get? key = some r) :
    r.translation Locale.pseudo.code = Pseudo.render r.text := by
  rw [get?_catalog] at hr
  split at hr
  · obtain rfl := Option.some.inj hr
    exact translation_freshEntry_pseudo _
  · split at hr
    · cases hr
    · obtain ⟨old, -, rfl⟩ := Option.map_eq_some_iff.mp hr
      exact translation_staleEntry_pseudo old

/-- Which entries are faithful after a merge, where every locale had its slot before. -/
theorem isFaithful_catalog_iff (h : ∀ key r, prior.get? key = some r → r.IsComplete) {r : Record}
    (hr : (catalog records prior prune).get? key = some r) :
    r.IsFaithful ↔ key ∈ records.map (·.key) ∨ ∃ old, prior.get? key = some old ∧
      old.translation Locale.fallback.code = old.text ∧ Record.InOrder old.translations := by
  rw [get?_catalog] at hr
  cases hlast : (latest records).get? key with
  | some last =>
    rw [hlast] at hr
    obtain rfl := Option.some.inj hr
    obtain ⟨hmem, hkey⟩ := mem_of_get?_latest hlast
    exact ⟨fun _ => .inl (hkey ▸ List.mem_map_of_mem hmem), fun _ => isFaithful_freshEntry records prior key last⟩
  | none =>
    have hnot := get?_latest_eq_none_iff.mp hlast
    rw [hlast] at hr
    dsimp only at hr
    split at hr
    · cases hr
    · obtain ⟨old, hold, rfl⟩ := Option.map_eq_some_iff.mp hr
      rw [isFaithful_staleEntry_iff (h key old hold)]
      constructor
      · exact fun hkept => .inr ⟨old, hold, hkept⟩
      · rintro (hmem | ⟨old', hold', hkept⟩)
        · exact absurd hmem hnot
        · obtain rfl := Option.some.inj (hold.symm.trans hold')
          exact hkept

/-- In a merge after any merges and edits, every entry shows what is made from its text in the pseudo locale, and has a
slot for every locale. It is faithful if it has a record, and else just if the edits have left it so: with the text in its
default slot, and with its slots in order. -/
theorem isFaithful_iff {c : Catalog} (h : History c) (hedited : IsEdited c prior) {r : Record}
    (hr : (catalog records prior prune).get? key = some r) :
    r.translation Locale.pseudo.code = Pseudo.render r.text ∧ r.IsComplete ∧
      (r.IsFaithful ↔ key ∈ records.map (·.key) ∨ ∃ old, prior.get? key = some old ∧
        old.translation Locale.fallback.code = old.text ∧ Record.InOrder old.translations) := by
  have hprior : ∀ key r, prior.get? key = some r → r.IsComplete := by
    intro key r hr
    obtain ⟨old, hold, -, hcomplete⟩ := hedited key r hr
    exact hcomplete (isComplete_of_history h key old hold)
  exact ⟨translation_catalog_pseudo hr, isComplete_catalog hprior hr, isFaithful_catalog_iff hprior hr⟩

/-! An entry whose default slot was filled by hand, and whose key then has no record. -/

namespace Sample

def greeting : Record := Record.make "Hi" "k" [] ⟨"a.jsx", "default", "root"⟩ none

def filled : Catalog := fillSlot [("k", greeting)] "k" "en" "Ho"

theorem isSound_greeting : Catalog.IsSound [("k", greeting)] where
  nodup := by decide
  canonical := by
    intro entry hentry
    rw [List.mem_singleton.mp hentry]
    exact Record.make_isCanonical _ (by decide) (by decide) _ _

end Sample

open Sample in
theorem not_isFaithful_of_filled_fallback : ∃ r, (catalog [] filled false).get? "k" = some r ∧ r.text = "Hi" ∧
    r.translation Locale.fallback.code = "Ho" ∧ ¬ r.IsFaithful := by
  have hr : (catalog [] filled false).get? "k" =
      some (staleEntry { greeting with translations := greeting.translations.put "en" "Ho" }) := rfl
  obtain ⟨-, -, hfaithful⟩ := isFaithful_iff (.start isSound_greeting) (isEdited_fillSlot _ "k" "en" "Ho") hr
  refine ⟨_, hr, rfl, by decide, fun h => ?_⟩
  rcases hfaithful.mp h with hmem | ⟨old, hold, htext, -⟩
  · exact absurd hmem List.not_mem_nil
  · obtain rfl := Option.some.inj hold
    exact absurd htext (by decide)

end Merge
end Phrasebook
