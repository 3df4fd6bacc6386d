/-!
# Entries in the order they were made

A list of keys with values in which every key keeps the place of its first entry and the value of its last. The view
of such a list is `get?`; `put` changes it at one key only, and appends a key that is new.
-/

namespace Phrasebook

/-- Keys with values, in the order in which the keys first came. -/
abbrev Entries (α β : Type) := List (α × β)

namespace Entries

variable {α β : Type} [DecidableEq α]

def get? (key : α) : Entries α β → Option β
  | [] => none
  | (k, v) :: rest => if k = key then some v else get? key rest

def keys (entries : Entries α β) : List α := entries.map Prod.fst

/-- Gives a key a value: in its place if it has one, else at the end. -/
def put (key : α) (value : β) : Entries α β → Entries α β
  | [] => [(key, value)]
  | (k, v) :: rest => if k = key then (k, value) :: rest else (k, v) :: put key value rest

/-- Makes entries of pairs: of pairs with one key the first gives the place and the last the value. -/
def ofList (pairs : List (α × β)) : Entries α β := pairs.foldl (fun e p => e.put p.1 p.2) []

/-- Puts all pairs of the second into the first, in order. -/
def putAll (entries : Entries α β) (more : List (α × β)) : Entries α β :=
  more.foldl (fun e p => e.put p.1 p.2) entries

theorem get?_put (entries : Entries α β) (key other : α) (value : β) :
    (entries.put key value).get? other = if key = other then some value else entries.get? other := by
  induction entries with
  | nil => simp [put, get?]
  | cons p rest ih =>
    obtain ⟨k, v⟩ := p
    by_cases h : k = key
    · subst h
      by_cases h' : k = other <;> simp [put, get?, h']
    · by_cases h' : k = other
      · subst h'
        simp [put, get?, h, Ne.symm h]
      · simp [put, get?, h, h', ih]

theorem mem_keys_put (entries : Entries α β) (key other : α) (value : β) :
    other ∈ (entries.put key value).keys ↔ other = key ∨ other ∈ entries.keys := by
  induction entries with
  | nil => simp [put, keys]
  | cons p rest ih =>
    obtain ⟨k, v⟩ := p
    simp only [keys] at ih
    by_cases h : k = key
    · subst h; simp [put, keys]
    · simp only [put, if_neg h, keys, List.map_cons, List.mem_cons, ih]
      constructor
      · rintro (rfl | rfl | h'')
        · exact .inr (.inl rfl)
        · exact .inl rfl
        · exact .inr (.inr h'')
      · rintro (rfl | rfl | h'')
        · exact .inr (.inl rfl)
        · exact .inl rfl
        · exact .inr (.inr h'')

end Entries
end Phrasebook
