import Mathlib.Data.List.Nodup
import Mathlib.Data.String.Basic
import Phrasebook.Entries

/-!
# What entries hold

Entries are looked at through `get?` alone. The lemmas say what it answers after each operation; where a key could come
twice they ask for keys without duplicates, which every operation keeps.
-/

namespace Phrasebook.Entries

variable {α β γ : Type} [DecidableEq α]

/-! ## Looking up -/

theorem get?_cons (p : α × β) (rest : Entries α β) (key : α) :
    get? key (p :: rest) = if p.1 = key then some p.2 else get? key rest := rfl

theorem get?_eq_none_iff {entries : Entries α β} {key : α} : entries.get? key = none ↔ key ∉ entries.keys := by
  induction entries with
  | nil => simp [get?, keys]
  | cons p rest ih =>
    rw [get?_cons]
    by_cases h : p.1 = key
    · simp [h, keys]
    · simp only [if_neg h, ih, keys, List.map_cons, List.mem_cons, not_or]
      exact ⟨fun hn => ⟨fun he => h he.symm, hn⟩, fun hn => hn.2⟩

theorem mem_of_get? {entries : Entries α β} {key : α} {value : β} (h : entries.get? key = some value) :
    (key, value) ∈ entries := by
  induction entries with
  | nil => exact absurd h (by simp [get?])
  | cons p rest ih =>
    rw [get?_cons] at h
    split at h
    · rename_i hkey
      rw [← hkey, ← Option.some.inj h]
      exact List.mem_cons_self
    · exact List.mem_cons_of_mem _ (ih h)

theorem get?_of_mem {entries : Entries α β} (hn : entries.keys.Nodup) {key : α} {value : β}
    (h : (key, value) ∈ entries) : entries.get? key = some value := by
  induction entries with
  | nil => exact absurd h List.not_mem_nil
  | cons p rest ih =>
    rw [keys, List.map_cons, List.nodup_cons] at hn
    rw [get?_cons]
    rcases List.mem_cons.mp h with rfl | h
    · rw [if_pos rfl]
    · have hne : p.1 ≠ key := by
        rintro rfl
        exact hn.1 (List.mem_map.mpr ⟨_, h, rfl⟩)
      rw [if_neg hne, ih hn.2 h]

theorem get?_append (entries more : Entries α β) (key : α) :
    get? key (entries ++ more) = (entries.get? key).or (more.get? key) := by
  induction entries with
  | nil => rfl
  | cons p rest ih =>
    rw [List.cons_append, get?_cons, get?_cons, ih]
    split <;> rfl

/-- Values may change with their keys. -/
theorem get?_map (entries : Entries α β) (f : α → β → γ) (key : α) :
    get? key (entries.map fun entry => (entry.1, f entry.1 entry.2)) = (entries.get? key).map (f key) := by
  induction entries with
  | nil => rfl
  | cons p rest ih =>
    rw [List.map_cons, get?_cons, get?_cons, ih]
    by_cases h : p.1 = key
    · rw [if_pos h, if_pos h, h]; rfl
    · rw [if_neg h, if_neg h]

theorem get?_filter {entries : Entries α β} (hn : entries.keys.Nodup) (p : α × β → Bool) (key : α) :
    get? key (entries.filter p) = (entries.get? key).filter fun value => p (key, value) := by
  induction entries with
  | nil => rfl
  | cons q rest ih =>
    obtain ⟨k, v⟩ := q
    rw [keys, List.map_cons, List.nodup_cons] at hn
    rw [get?_cons]
    by_cases hk : k = key
    · subst hk
      have hnone : get? k (rest.filter p) = none := by
        rw [ih hn.2, get?_eq_none_iff.mpr hn.1]
        rfl
      by_cases hp : p (k, v) = true
      · rw [List.filter_cons_of_pos hp, get?_cons, if_pos rfl, if_pos rfl, Option.filter_some, if_pos hp]
      · rw [List.filter_cons_of_neg hp, hnone, if_pos rfl, Option.filter_some, if_neg hp]
    · by_cases hp : p (k, v) = true
      · rw [List.filter_cons_of_pos hp, get?_cons, if_neg hk, if_neg hk, ih hn.2]
      · rw [List.filter_cons_of_neg hp, if_neg hk, ih hn.2]

/-- Leaving out keys changes nothing at the others. -/
theorem get?_filter_keys (entries : Entries α β) (p : α → Bool) (key : α) :
    get? key (entries.filter fun entry => p entry.1) = if p key then entries.get? key else none := by
  induction entries with
  | nil => rw [List.filter_nil, get?, ite_self]
  | cons q rest ih =>
    rw [get?_cons]
    by_cases hp : p q.1 = true
    · rw [List.filter_cons_of_pos (p := fun entry : α × β => p entry.1) hp, get?_cons, ih]
      by_cases hk : q.1 = key
      · rw [if_pos hk, if_pos hk, if_pos (hk ▸ hp)]
      · rw [if_neg hk, if_neg hk]
    · rw [List.filter_cons_of_neg (p := fun entry : α × β => p entry.1) hp, ih]
      by_cases hk : q.1 = key
      · rw [if_neg (hk ▸ hp), if_neg (hk ▸ hp)]
      · rw [if_neg hk]

theorem get?_perm {entries others : Entries α β} (h : entries.Perm others) (hn : entries.keys.Nodup) (key : α) :
    entries.get? key = others.get? key := by
  have hn' : others.keys.Nodup := (h.map Prod.fst).nodup_iff.mp hn
  cases hget : others.get? key with
  | none =>
    rw [get?_eq_none_iff] at hget ⊢
    exact fun hmem => hget ((h.map Prod.fst).mem_iff.mp hmem)
  | some value => exact get?_of_mem hn (h.mem_iff.mpr (mem_of_get? hget))

/-- Entries that answer the same are the same, but for their order. -/
theorem perm_of_get? {entries others : Entries α β} (hn : entries.keys.Nodup) (hn' : others.keys.Nodup)
    (h : ∀ key, entries.get? key = others.get? key) : entries.Perm others := by
  refine (List.perm_ext_iff_of_nodup hn.of_map hn'.of_map).mpr ?_
  rintro ⟨key, value⟩
  constructor
  · intro hmem
    exact mem_of_get? ((h key).symm.trans (get?_of_mem hn hmem))
  · intro hmem
    exact mem_of_get? ((h key).trans (get?_of_mem hn' hmem))

/-! ## Putting -/

theorem put_of_not_mem {entries : Entries α β} {key : α} (h : key ∉ entries.keys) (value : β) :
    entries.put key value = entries ++ [(key, value)] := by
  induction entries with
  | nil => rfl
  | cons p rest ih =>
    rw [keys, List.map_cons, List.mem_cons, not_or] at h
    rw [put, if_neg (Ne.symm h.1), ih h.2, List.cons_append]

theorem keys_put_of_mem {entries : Entries α β} {key : α} (h : key ∈ entries.keys) (value : β) :
    (entries.put key value).keys = entries.keys := by
  induction entries with
  | nil => exact absurd h List.not_mem_nil
  | cons p rest ih =>
    rw [put]
    by_cases hp : p.1 = key
    · rw [if_pos hp, keys, List.map_cons, keys, List.map_cons]
    · rw [keys, List.map_cons, List.mem_cons] at h
      have hmem : key ∈ keys rest := h.resolve_left (Ne.symm hp)
      have hrest := ih hmem
      rw [keys, keys] at hrest
      rw [if_neg hp, keys, List.map_cons, keys, List.map_cons, hrest]

/-- Putting the same value again changes nothing. -/
theorem put_put (entries : Entries α β) (key : α) (value : β) :
    (entries.put key value).put key value = entries.put key value := by
  induction entries with
  | nil => simp [put]
  | cons p rest ih =>
    rw [put]
    split
    · rename_i hp
      rw [put, if_pos hp]
    · rename_i hp
      rw [put, if_neg hp, ih]

theorem filter_keys_put_of_neg (entries : Entries α β) {p : α → Bool} {key : α} (h : p key = false) (value : β) :
    (entries.put key value).filter (fun entry => p entry.1) = entries.filter fun entry => p entry.1 := by
  induction entries with
  | nil => simp [put, h]
  | cons q rest ih =>
    rw [put]
    by_cases hq : q.1 = key
    · rw [if_pos hq, List.filter_cons_of_neg (by simp [hq, h]), List.filter_cons_of_neg (by simp [hq, h])]
    · rw [if_neg hq, List.filter_cons, List.filter_cons, ih]

theorem put_append_of_mem {entries : Entries α β} {key : α} (h : key ∈ entries.keys) (value : β) (more : Entries α β) :
    put key value (entries ++ more) = entries.put key value ++ more := by
  induction entries with
  | nil => exact absurd h List.not_mem_nil
  | cons p rest ih =>
    rw [List.cons_append, put, put]
    by_cases hp : p.1 = key
    · rw [if_pos hp, if_pos hp, List.cons_append]
    · rw [keys, List.map_cons, List.mem_cons] at h
      rw [if_neg hp, if_neg hp, ih (h.resolve_left (Ne.symm hp)), List.cons_append]

theorem nodup_put {entries : Entries α β} (hn : entries.keys.Nodup) (key : α) (value : β) :
    (entries.put key value).keys.Nodup := by
  by_cases h : key ∈ entries.keys
  · rw [keys_put_of_mem h]; exact hn
  · rw [put_of_not_mem h, keys, List.map_append, List.nodup_append]
    refine ⟨hn, List.nodup_singleton _, ?_⟩
    intro a ha b hb hab
    rw [List.map_singleton, List.mem_singleton] at hb
    rw [hab, hb] at ha
    exact h ha

theorem nodup_putAll {entries : Entries α β} (hn : entries.keys.Nodup) (more : List (α × β)) :
    (entries.putAll more).keys.Nodup := by
  induction more generalizing entries with
  | nil => exact hn
  | cons p more ih => exact ih (nodup_put hn p.1 p.2)

theorem nodup_ofList (pairs : List (α × β)) : (ofList pairs).keys.Nodup := by
  have hnil : keys ([] : Entries α β) |>.Nodup := List.nodup_nil
  exact nodup_putAll hnil pairs

omit [DecidableEq α] in
theorem nodup_filter {entries : Entries α β} (hn : entries.keys.Nodup) (p : α × β → Bool) :
    keys (entries.filter p) |>.Nodup :=
  (List.filter_sublist.map Prod.fst).nodup hn

/-- Of several values for a key the last counts: the first from the end. -/
theorem get?_putAll (entries : Entries α β) (more : List (α × β)) (key : α) :
    (entries.putAll more).get? key = (get? key more.reverse).or (entries.get? key) := by
  induction more generalizing entries with
  | nil => rfl
  | cons p more ih =>
    have hstep : entries.putAll (p :: more) = (entries.put p.1 p.2).putAll more := rfl
    rw [hstep, ih, get?_put, List.reverse_cons, get?_append, get?_cons, Option.or_assoc]
    split <;> rfl

theorem get?_putAll_of_not_mem (entries : Entries α β) {more : List (α × β)} {key : α} (h : key ∉ keys more) :
    (entries.putAll more).get? key = entries.get? key := by
  rw [get?_putAll, get?_eq_none_iff.mpr, Option.none_or]
  rwa [keys, List.map_reverse, List.mem_reverse]

theorem get?_ofList (pairs : List (α × β)) (key : α) : (ofList pairs).get? key = get? key pairs.reverse := by
  have h := get?_putAll [] pairs key
  rw [show get? key ([] : Entries α β) = none from rfl, Option.or_none] at h
  exact h

theorem putAll_of_nodup (entries : Entries α β) {more : Entries α β} (hn : (keys (entries ++ more)).Nodup) :
    entries.putAll more = entries ++ more := by
  induction more generalizing entries with
  | nil => rw [List.append_nil]; rfl
  | cons p more ih =>
    have hstep : entries.putAll (p :: more) = (entries.put p.1 p.2).putAll more := rfl
    have hp : p.1 ∉ entries.keys := by
      rw [keys, List.map_append, List.nodup_append] at hn
      exact fun hmem => hn.2.2 p.1 hmem p.1 List.mem_cons_self rfl
    rw [hstep, put_of_not_mem hp, ih, List.append_assoc]
    · rfl
    · rw [List.append_assoc]; exact hn

/-- Entries without duplicates are made of themselves. -/
theorem ofList_of_nodup {entries : Entries α β} (hn : entries.keys.Nodup) : ofList entries = entries :=
  putAll_of_nodup [] hn

theorem mem_keys_ofList {pairs : List (α × β)} {key : α} : key ∈ (ofList pairs).keys ↔ key ∈ pairs.map Prod.fst := by
  have h := get?_ofList pairs key
  rw [← not_iff_not, ← get?_eq_none_iff, h, get?_eq_none_iff, keys, List.map_reverse, List.mem_reverse]

/-! ## Putting in order -/

/-- Entries with texts as keys compare by their keys. -/
def precedes (a b : String × β) : Bool := !decide (b.1 < a.1)

omit α [DecidableEq α] in
theorem precedes_iff (a b : String × β) : precedes a b = true ↔ a.1 ≤ b.1 := by
  simp only [precedes, Bool.not_eq_true', decide_eq_false_iff_not, not_lt]

theorem pairwise_mergeSort (entries : Entries String β) :
    (entries.mergeSort precedes).Pairwise fun a b => precedes a b = true := by
  have htrans : ∀ a b c : String × β, precedes a b = true → precedes b c = true → precedes a c = true := by
    intro a b c hab hbc
    rw [precedes_iff] at *
    exact le_trans hab hbc
  have htotal : ∀ a b : String × β, (precedes a b || precedes b a) = true := by
    intro a b
    rw [Bool.or_eq_true, precedes_iff, precedes_iff]
    exact le_total a.1 b.1
  exact List.pairwise_mergeSort htrans htotal entries

theorem nodup_mergeSort {entries : Entries String β} (hn : entries.keys.Nodup) :
    keys (entries.mergeSort precedes) |>.Nodup :=
  ((List.mergeSort_perm entries precedes).map Prod.fst).nodup_iff.mpr hn

/-- The keys of entries in order rise, if none comes twice. -/
theorem pairwise_keys_mergeSort {entries : Entries String β} (hn : entries.keys.Nodup) :
    (keys (entries.mergeSort precedes)).Pairwise (· < ·) := by
  have hsorted : (keys (entries.mergeSort precedes)).Pairwise (· ≤ ·) := by
    rw [keys, List.pairwise_map]
    exact (pairwise_mergeSort entries).imp fun h => (precedes_iff _ _).mp h
  exact (hsorted.and (nodup_mergeSort hn)).imp fun h => lt_of_le_of_ne h.1 h.2

theorem get?_mergeSort {entries : Entries String β} (hn : entries.keys.Nodup) (key : String) :
    get? key (entries.mergeSort precedes) = entries.get? key :=
  get?_perm (List.mergeSort_perm entries precedes) (nodup_mergeSort hn) key

omit α [DecidableEq α] in
/-- Entries that answer the same are the same once they are in order. -/
theorem mergeSort_congr {entries others : Entries String β} (hn : entries.keys.Nodup) (hn' : others.keys.Nodup)
    (h : ∀ key, entries.get? key = others.get? key) : entries.mergeSort precedes = others.mergeSort precedes := by
  have hperm : entries.Perm others := perm_of_get? hn hn' h
  refine List.Perm.eq_of_pairwise ?_ (pairwise_mergeSort entries) (pairwise_mergeSort others)
    ((List.mergeSort_perm entries precedes).trans (hperm.trans (List.mergeSort_perm others precedes).symm))
  intro a b ha hb hab hba
  have hkey : a.1 = b.1 := le_antisymm ((precedes_iff a b).mp hab) ((precedes_iff b a).mp hba)
  exact List.inj_on_of_nodup_map hn (List.mem_mergeSort.mp ha) (hperm.mem_iff.mpr (List.mem_mergeSort.mp hb)) hkey

end Phrasebook.Entries
