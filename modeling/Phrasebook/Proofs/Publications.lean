import Phrasebook.Proofs.Stores

/-!
# Catalogs as mappings

A catalog is a mapping from keys to entries that were validated. What is published of it is read back as the same
mapping; and where keys are put in order, the files depend on the mapping alone, not on the order in which its entries
came nor on that in which their translations were listed.

Results:
1. `Record.Same.eq`: canonical records that say the same are the same.
2. `Catalog.publication`: what is published of a mapping of validated entries.
-/

namespace Phrasebook

/-! ## 1. Entries -/

namespace Record

/-- Two records say the same: their translations are one mapping, in whatever order. -/
structure Same (r s : Record) : Prop where
  text : r.text = s.text
  key : r.key = s.key
  translations : ∀ name, r.translations.get? name = s.translations.get? name
  context : r.context = s.context
  stale : r.stale = s.stale

theorem Same.refl (r : Record) : Same r r := ⟨rfl, rfl, fun _ => rfl, rfl, rfl⟩

/-- Canonical records that say the same are the same: their slots have one order. -/
theorem Same.eq {r s : Record} (h : Same r s) (hr : r.IsCanonical) (hs : s.IsCanonical) : r = s := by
  have hslots : canonical r.text r.translations = canonical s.text s.translations := by
    rw [h.text]
    exact canonical_congr s.text hr.nodup hs.nodup h.translations
  calc
    r = make r.text r.key r.translations r.context r.stale := hr.make_eq.symm
    _ = make s.text s.key s.translations s.context s.stale := by
      rw [make, make, hslots, h.text, h.key, h.context, h.stale]
    _ = s := hs.make_eq

end Record

/-! ## 2. Mappings -/

namespace Catalog

/-- Two catalogs are one mapping: they have the same keys, with records that say the same. -/
def Same (c d : Catalog) : Prop := ∀ key, Option.Rel Record.Same (c.get? key) (d.get? key)

theorem same_of_get? {c d : Catalog} (h : ∀ key, c.get? key = d.get? key) : Same c d := by
  intro key
  rw [h key]
  cases d.get? key with
  | none => exact .none
  | some r => exact .some (.refl r)

/-- Sound catalogs that are one mapping answer the same. -/
theorem Same.get? {c d : Catalog} (h : Same c d) (hc : c.IsSound) (hd : d.IsSound) (key : String) :
    Entries.get? key c = Entries.get? key d := by
  have hkey := h key
  cases hr : Entries.get? key c with
  | none =>
    rw [hr] at hkey
    cases hs : Entries.get? key d with
    | none => rfl
    | some s => rw [hs] at hkey; nomatch hkey
  | some r =>
    rw [hr] at hkey
    cases hs : Entries.get? key d with
    | none => rw [hs] at hkey; nomatch hkey
    | some s =>
      rw [hs] at hkey
      obtain ⟨hsame⟩ := hkey
      rw [hsame.eq (hc.get? hr) (hd.get? hs)]

/-- They are the same catalog once their keys are in order. -/
theorem Same.arranged_eq {c d : Catalog} (h : Same c d) (hc : c.IsSound) (hd : d.IsSound) :
    c.arranged true = d.arranged true :=
  Entries.mergeSort_congr hc.nodup hd.nodup (h.get? hc hd)

/-- A mapping of validated entries is sound. -/
theorem isSound_of_entriesOf {members : Entries String Json} (hn : members.keys.Nodup) {c : Catalog}
    (h : entriesOf members = .ok c) : c.IsSound := by
  obtain ⟨hkeys, hcanonical⟩ := keys_of_entriesOf h
  exact ⟨hkeys ▸ hn, hcanonical⟩

/-- The keys of an arranged catalog: in order if that is wanted, else as they came. -/
theorem keys_arranged {c : Catalog} (h : c.IsSound) (sorted : Bool) :
    if sorted then (Entries.keys (c.arranged sorted)).Pairwise (· < ·) else Entries.keys (c.arranged sorted) = c.keys := by
  cases sorted with
  | true => exact Entries.pairwise_keys_mergeSort h.nodup
  | false => rfl

/-! ## 3. Publication -/

/-- What is published of a mapping of validated entries is read back as that mapping, with its keys in order or as they
came; and with keys in order, any other mapping of validated entries that is the same one has the same two files. -/
theorem publication {members : Entries String Json} (hn : members.keys.Nodup) {c : Catalog}
    (hc : entriesOf members = .ok c) :
    (∀ (store : CatalogStore) (w w' : Workspace), store.IsApart w → store.save w c = (w', none) →
      ∃ loaded : Catalog, store.load w' = .ok ⟨loaded, []⟩ ∧ Same loaded c ∧
        if store.sorted then loaded.keys.Pairwise (· < ·) else loaded.keys = c.keys) ∧
    ∀ (others : Entries String Json) (d : Catalog), others.keys.Nodup → entriesOf others = .ok d → Same c d →
      CatalogStore.bytesOf (c.fileText true) = CatalogStore.bytesOf (d.fileText true) ∧
        CatalogStore.bytesOf (c.moduleText true) = CatalogStore.bytesOf (d.moduleText true) := by
  have hsound := isSound_of_entriesOf hn hc
  refine ⟨fun store w w' hapart hsave => ?_, fun others d hn' hd hsame => ?_⟩
  · exact ⟨c.arranged store.sorted, CatalogStore.load_save hapart hsound hsave,
      same_of_get? (get?_arranged hsound store.sorted), keys_arranged hsound store.sorted⟩
  · have harranged := hsame.arranged_eq hsound (isSound_of_entriesOf hn' hd)
    rw [fileText_congr harranged, moduleText_congr harranged]
    exact ⟨rfl, rfl⟩

/-! Two entries whose text has a line end of two characters, handed in twice: in another order, and with their
translations listed in another order. -/

namespace Sample

/-- An entry with translations as they are listed. -/
def entry (slots : Entries String String) : Json :=
  .object
    [("translations", .object (slots.map fun slot => (slot.1, .string slot.2))), ("source_text", .string "Two\r\nlines"),
      ("key", .string "k"), ("context", .object [("file", .string "a.jsx")]), ("stale", .bool true)]

def listed : Entries String String := [("fr", "\u2028"), ("ru", "\""), ("de", ""), ("en", "")]

def relisted : Entries String String := listed.reverse

/-- The record that validation makes of an entry. -/
def record (slots : Entries String String) : Record :=
  .make "Two\r\nlines" "k" slots ⟨"a.jsx", "default", "root"⟩ (some true)

def inputs : Entries String Json := [("", entry listed), ("a|b", entry listed)]

def reordered : Entries String Json := [("a|b", entry relisted), ("", entry relisted)]

def store : CatalogStore := ⟨⟨"", ["c.json"]⟩, some ⟨"", ["c.js"]⟩, true⟩

def blank : Workspace := { disk := [], directory := ⟨"/", []⟩, events := [] }

theorem entriesOf_inputs : entriesOf inputs = .ok [("", record listed), ("a|b", record listed)] := rfl

theorem entriesOf_reordered : entriesOf reordered = .ok [("a|b", record relisted), ("", record relisted)] := rfl

theorem record_relisted : record relisted = record listed := by
  have hslots : Record.canonical "Two\r\nlines" relisted = Record.canonical "Two\r\nlines" listed :=
    Record.canonical_congr _ (by decide) (by decide) fun name =>
      Entries.get?_perm (List.reverse_perm listed) (by decide) name
  rw [record, record, Record.make, Record.make, hslots]

theorem same_reordered : Same [("", record listed), ("a|b", record listed)]
    [("a|b", record relisted), ("", record relisted)] := by
  rw [record_relisted]
  exact same_of_get? fun key => Entries.get?_perm (.swap _ _ _) (by simp [Entries.keys]) key

end Sample

open Sample in
theorem publication_two_lines :
    ∃ c d, entriesOf inputs = .ok c ∧ entriesOf reordered = .ok d ∧
      (∃ loaded : Catalog, store.load (store.save blank c).1 = .ok ⟨loaded, []⟩ ∧ Same loaded c ∧
        loaded.keys.Pairwise (· < ·)) ∧
      CatalogStore.bytesOf (c.fileText true) = CatalogStore.bytesOf (d.fileText true) ∧
        CatalogStore.bytesOf (c.moduleText true) = CatalogStore.bytesOf (d.moduleText true) := by
  have hnodup : inputs.keys.Nodup := by decide
  have hpublication := publication hnodup entriesOf_inputs
  have hapart : store.IsApart blank := by
    rintro path ⟨⟩
    decide
  exact ⟨_, _, entriesOf_inputs, entriesOf_reordered, hpublication.1 store blank _ hapart rfl,
    hpublication.2 reordered _ (by decide) entriesOf_reordered same_reordered⟩

end Catalog
end Phrasebook
