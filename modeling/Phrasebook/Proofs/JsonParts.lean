import Phrasebook.Json.Reader

/-!
# Values and their parts

The reader goes down into a value with less fuel at each part. What one step of it does is said here once, by which parts
it reads and what stands between them; all that is proved of whole values follows these steps.

Results:
1. `escape_cases`, `characters_iff`: a step over the characters of a string.
2. `items_iff`, `members_iff`: a step over items or members.
3. `value_iff`: a step into a value.
4. `readChars_iff`, `readStrict_iff`: a whole text.
-/

namespace Phrasebook.Json

/-! ## 1. Strings -/

theorem exists_of_map_eq_ok {α β : Type} {f : α → β} {found : Except Refusal α} {y : β} (h : found.map f = .ok y) :
    ∃ x, found = .ok x ∧ f x = y := by
  cases found with
  | error e => exact absurd h (by simp [Except.map])
  | ok x => exact ⟨x, rfl, Except.ok.inj h⟩

theorem escape_letter {c e : Char} (hu : c ≠ 'u') (he : escaped? c = some e) (left rest : List Char) :
    escape left (c :: rest) = .ok ((e, true), 1) := by
  rw [escape.eq_def]
  split
  · simp_all
  · simp_all
  · simp_all
  · simp_all

/-- The number of an escape that a text starts with. -/
def numberAhead? : List Char → Option Nat
  | '\\' :: 'u' :: a :: b :: c :: d :: _ :: _ => fourDigits a b c d
  | _ => none

theorem numberAhead?_eq_some {cs : List Char} {n : Nat} (h : numberAhead? cs = some n) :
    ∃ a b c d x rest, cs = '\\' :: 'u' :: a :: b :: c :: d :: x :: rest ∧ fourDigits a b c d = some n := by
  rw [numberAhead?.eq_def] at h
  split at h
  · exact ⟨_, _, _, _, _, _, rfl, h⟩
  · exact absurd h (by simp)

/-- The two kinds of escapes. -/
theorem escape_cases {left r : List Char} {piece : Piece} {n : Nat} (h : escape left r = .ok (piece, n)) :
    (∃ c e rest, r = c :: rest ∧ c ≠ 'u' ∧ escaped? c = some e ∧ piece = (e, true) ∧ n = 1) ∨
      (∃ a b c d k rest, r = 'u' :: a :: b :: c :: d :: rest ∧ rest ≠ [] ∧ fourDigits a b c d = some k ∧
        (n = 5 ∨ n = 11 ∧ ∃ m, numberAhead? rest = some m)) := by
  rw [escape.eq_def] at h
  split at h
  · exact absurd h (by simp)
  · rename_i a b c d rest
    right
    split at h
    · exact absurd h (by simp)
    · rename_i hne
      rw [List.isEmpty_iff] at hne
      split at h
      · exact absurd h (by simp)
      · rename_i k hk
        have hfive {piece' : Piece} (h : (.ok (piece', 5) : Except Refusal (Piece × Nat)) = .ok (piece, n)) : n = 5 :=
          (Prod.mk.inj (Except.ok.inj h)).2.symm
        refine ⟨a, b, c, d, k, rest, rfl, hne, hk, ?_⟩
        split at h
        · split at h
          · split at h
            · exact absurd h (by simp)
            · rename_i m hm
              split at h
              · exact .inr ⟨(Prod.mk.inj (Except.ok.inj h)).2.symm, m, hm⟩
              · exact .inl (hfive h)
          · exact .inl (hfive h)
        · split at h
          · exact .inl (hfive h)
          · exact .inl (hfive h)
  · exact absurd h (by simp)
  · rename_i c rest _ hu
    left
    split at h
    · rename_i e he
      obtain ⟨rfl, rfl⟩ := Prod.mk.inj (Except.ok.inj h)
      exact ⟨c, e, rest, rfl, hu, he, rfl, rfl⟩
    · exact absurd h (by simp)

/-- How the characters of a string are read up to the quote that closes it, after some that are left out. -/
inductive ReadsCharacters (start : List Char) : Nat → List Char → List Piece → List Char → Prop
  | taken {n : Nat} {c : Char} {r left : List Char} {pieces : List Piece}
    (hrest : characters start n r = .ok (pieces, left)) : ReadsCharacters start (n + 1) (c :: r) pieces left
  | quote {left : List Char} : ReadsCharacters start 0 ('"' :: left) [] left
  | escaped {n : Nat} {r left : List Char} {piece : Piece} {pieces : List Piece}
    (hescape : escape ('\\' :: r) r = .ok (piece, n)) (hrest : characters start n r = .ok (pieces, left)) :
    ReadsCharacters start 0 ('\\' :: r) (piece :: pieces) left
  | plain {c : Char} {r left : List Char} {pieces : List Piece} (hquote : c ≠ '"') (hslash : c ≠ '\\')
    (hcontrol : ¬ c.toNat < 0x20) (hrest : characters start 0 r = .ok (pieces, left)) :
    ReadsCharacters start 0 (c :: r) ((c, true) :: pieces) left

/-- A step over the characters of a string. -/
theorem characters_iff {start cs left : List Char} {n : Nat} {pieces : List Piece} :
    characters start n cs = .ok (pieces, left) ↔ ReadsCharacters start n cs pieces left := by
  constructor
  · intro h
    cases cs with
    | nil => exact absurd h (by simp [characters, refuse])
    | cons c r =>
      cases n with
      | succ n => exact .taken h
      | zero =>
        rw [characters] at h
        split at h
        · rename_i hquote
          obtain ⟨rfl, rfl⟩ := Prod.mk.inj (Except.ok.inj h)
          rw [beq_iff_eq.mp hquote]
          exact .quote
        · rename_i hquote
          split at h
          · rename_i hslash
            rw [beq_iff_eq.mp hslash] at h ⊢
            split at h
            · exact absurd h (by simp)
            · rename_i hescape
              obtain ⟨⟨ps, left'⟩, hrest, heq⟩ := exists_of_map_eq_ok h
              obtain ⟨rfl, rfl⟩ := Prod.mk.inj heq
              exact .escaped hescape hrest
          · rename_i hslash
            split at h
            · exact absurd h (by simp [refuse])
            · rename_i hcontrol
              obtain ⟨⟨ps, left'⟩, hrest, heq⟩ := exists_of_map_eq_ok h
              obtain ⟨rfl, rfl⟩ := Prod.mk.inj heq
              exact .plain (by simpa using hquote) (by simpa using hslash) hcontrol hrest
  · intro h
    cases h with
    | taken hrest => exact hrest
    | quote => rfl
    | escaped hescape hrest =>
      rw [characters, if_neg (by decide), if_pos (by decide), hescape]
      dsimp only
      rw [hrest]
      rfl
    | plain hquote hslash hcontrol hrest =>
      rw [characters, if_neg (by simpa using hquote), if_neg (by simpa using hslash), if_neg hcontrol, hrest]
      rfl

/-! ## 2. Items and members -/

/-- How items are read up to the bracket that closes their array. -/
inductive ReadsItems (n : Nat) : List Char → List Json → List Char → Prop
  | last {cs r left : List Char} {j : Json} (hvalue : value n cs = .ok (j, r)) (hskip : skip r = ']' :: left) :
    ReadsItems n cs [j] left
  | more {cs r rest left : List Char} {j : Json} {js : List Json} (hvalue : value n cs = .ok (j, r))
    (hskip : skip r = ',' :: rest) (hitems : items n (skip rest) = .ok (js, left)) : ReadsItems n cs (j :: js) left

/-- How members are read up to the brace that closes their object. -/
inductive ReadsMembers (n : Nat) : List Char → List (String × Json) → List Char → Prop
  | last {q r r' s left : List Char} {pieces : List Piece} {j : Json}
    (hname : characters ('"' :: q) 0 q = .ok (pieces, r)) (hcolon : skip r = ':' :: r')
    (hvalue : value n (skip r') = .ok (j, s)) (hskip : skip s = '}' :: left) :
    ReadsMembers n ('"' :: q) [(textOf pieces, j)] left
  | more {q r r' s rest left : List Char} {pieces : List Piece} {j : Json} {ms : List (String × Json)}
    (hname : characters ('"' :: q) 0 q = .ok (pieces, r)) (hcolon : skip r = ':' :: r')
    (hvalue : value n (skip r') = .ok (j, s)) (hskip : skip s = ',' :: rest)
    (hmembers : members n (skip rest) = .ok (ms, left)) : ReadsMembers n ('"' :: q) ((textOf pieces, j) :: ms) left

variable {n : Nat} {cs left : List Char}

/-- A step over items reads the first and then the others, if a comma follows it. -/
theorem items_iff {js : List Json} : items (n + 1) cs = .ok (js, left) ↔ ReadsItems n cs js left := by
  constructor
  · intro h
    rw [items] at h
    split at h
    · exact absurd h (by simp)
    · rename_i hvalue
      split at h
      · rename_i hskip
        obtain ⟨rfl, rfl⟩ := Prod.mk.inj (Except.ok.inj h)
        exact .last hvalue hskip
      · rename_i hskip
        obtain ⟨⟨js, left'⟩, hitems, heq⟩ := exists_of_map_eq_ok h
        obtain ⟨rfl, rfl⟩ := Prod.mk.inj heq
        exact .more hvalue hskip hitems
      · exact absurd h (by simp [refuse])
  · rintro (⟨hvalue, hskip⟩ | ⟨hvalue, hskip, hitems⟩)
    · rw [items, hvalue]
      simp only [hskip]
    · rw [items, hvalue]
      simp only [hskip, hitems]
      rfl

/-- A step over members reads the first, its name before its value, and then the others, if a comma follows it. -/
theorem members_iff {ms : List (String × Json)} :
    members (n + 1) cs = .ok (ms, left) ↔ ReadsMembers n cs ms left := by
  constructor
  · intro h
    rw [members.eq_def] at h
    dsimp only at h
    split at h
    · split at h
      · exact absurd h (by simp)
      · rename_i hname
        split at h
        · rename_i hcolon
          split at h
          · exact absurd h (by simp)
          · rename_i hvalue
            split at h
            · rename_i hskip
              obtain ⟨rfl, rfl⟩ := Prod.mk.inj (Except.ok.inj h)
              exact .last hname hcolon hvalue hskip
            · rename_i hskip
              obtain ⟨⟨ms, left'⟩, hmembers, heq⟩ := exists_of_map_eq_ok h
              obtain ⟨rfl, rfl⟩ := Prod.mk.inj heq
              exact .more hname hcolon hvalue hskip hmembers
            · exact absurd h (by simp [refuse])
        · exact absurd h (by simp [refuse])
    · exact absurd h (by simp [refuse])
  · rintro (⟨hname, hcolon, hvalue, hskip⟩ | ⟨hname, hcolon, hvalue, hskip, hmembers⟩)
    · rw [members, hname]
      simp only [hcolon, hvalue, hskip]
    · rw [members, hname]
      simp only [hcolon, hvalue, hskip, hmembers]
      rfl

/-! ## 3. Values -/

/-- How a value is read: from readings of its parts, for which there is less fuel. -/
inductive ReadsValue (n : Nat) : List Char → Json → List Char → Prop
  | string {r left : List Char} {pieces : List Piece} (hstring : characters ('"' :: r) 0 r = .ok (pieces, left)) :
    ReadsValue n ('"' :: r) (ofPieces pieces) left
  | noMembers {r left : List Char} (hskip : skip r = '}' :: left) : ReadsValue n ('{' :: r) (.object []) left
  | object {r left : List Char} {ms : List (String × Json)} (hmembers : members n (skip r) = .ok (ms, left)) :
    ReadsValue n ('{' :: r) (.object ms) left
  | noItems {r left : List Char} (hskip : skip r = ']' :: left) : ReadsValue n ('[' :: r) (.array []) left
  | array {r left : List Char} {js : List Json} (hitems : items n (skip r) = .ok (js, left)) :
    ReadsValue n ('[' :: r) (.array js) left
  | scalar {cs left : List Char} {j : Json} (hfound : (word? cs).or (number? cs) = some (j, left)) :
    ReadsValue n cs j left

/-- No word or number starts with a quote or a bracket, or with the mark of a byte order. -/
theorem scalar_eq_none {c : Char} (hc : c ∈ ['"', '{', '[', ']', '\uFEFF']) (r : List Char) :
    (word? (c :: r)).or (number? (c :: r)) = none := by
  simp only [List.mem_cons, List.not_mem_nil, or_false] at hc
  rcases hc with rfl | rfl | rfl | rfl | rfl <;> rfl

/-- What is read in a step into a value. -/
theorem ReadsValue.of_value {j : Json} (h : Json.value (n + 1) cs = .ok (j, left)) : ReadsValue n cs j left := by
  rw [value.eq_def] at h
  dsimp only at h
  split at h
  · obtain ⟨⟨ps, left'⟩, hstring, heq⟩ := exists_of_map_eq_ok h
    obtain ⟨rfl, rfl⟩ := Prod.mk.inj heq
    exact .string hstring
  · split at h
    · rename_i hskip
      obtain ⟨rfl, rfl⟩ := Prod.mk.inj (Except.ok.inj h)
      exact .noMembers hskip
    · obtain ⟨⟨ms, left'⟩, hmembers, heq⟩ := exists_of_map_eq_ok h
      obtain ⟨rfl, rfl⟩ := Prod.mk.inj heq
      exact .object hmembers
  · split at h
    · rename_i hskip
      obtain ⟨rfl, rfl⟩ := Prod.mk.inj (Except.ok.inj h)
      exact .noItems hskip
    · obtain ⟨⟨js, left'⟩, hitems, heq⟩ := exists_of_map_eq_ok h
      obtain ⟨rfl, rfl⟩ := Prod.mk.inj heq
      exact .array hitems
  · split at h
    · rename_i found hfound
      rw [Except.ok.injEq] at h
      exact .scalar (h ▸ hfound)
    · exact absurd h (by simp [refuse])

/-- From a character on that starts no value none is read. -/
theorem value_ne {c : Char} (hc : c = ']' ∨ c = '\uFEFF') (r : List Char) (j : Json) :
    value n (c :: r) ≠ .ok (j, left) := by
  intro h
  cases n with
  | zero => exact absurd h (by simp [value, refuse])
  | succ n =>
    rcases hc with rfl | rfl
    · cases ReadsValue.of_value h with
      | scalar hfound => exact absurd (hfound.symm.trans (scalar_eq_none (by decide) r)) (by simp)
    · cases ReadsValue.of_value h with
      | scalar hfound => exact absurd (hfound.symm.trans (scalar_eq_none (by decide) r)) (by simp)

/-- No members are read from a closing brace on. -/
theorem members_brace_ne (ms : List (String × Json)) (r : List Char) : members n ('}' :: r) ≠ .ok (ms, left) := by
  intro h
  cases n with
  | zero => exact absurd h (by simp [members, refuse])
  | succ n => cases members_iff.mp h

/-- No items are read from a closing bracket on. -/
theorem items_bracket_ne (js : List Json) (r : List Char) : items n (']' :: r) ≠ .ok (js, left) := by
  intro h
  cases n with
  | zero => exact absurd h (by simp [items, refuse])
  | succ n =>
    cases items_iff.mp h with
    | last hvalue => exact value_ne (.inl rfl) r _ hvalue
    | more hvalue => exact value_ne (.inl rfl) r _ hvalue

/-- A step into a value reads its characters, its parts, or a word or number. -/
theorem value_iff {j : Json} : value (n + 1) cs = .ok (j, left) ↔ ReadsValue n cs j left := by
  refine ⟨ReadsValue.of_value, fun h => ?_⟩
  cases h with
  | string hstring =>
    rw [value, hstring]
    rfl
  | noMembers hskip =>
    rw [value, hskip]
    rfl
  | object hmembers =>
    rw [value]
    split
    · rename_i hskip
      rw [hskip] at hmembers
      exact absurd hmembers (members_brace_ne _ _)
    · rw [hmembers]
      rfl
  | noItems hskip =>
    rw [value, hskip]
    rfl
  | array hitems =>
    rw [value]
    split
    · rename_i hskip
      rw [hskip] at hitems
      exact absurd hitems (items_bracket_ne _ _)
    · rw [hitems]
      rfl
  | scalar hfound =>
    rw [value.eq_def]
    dsimp only
    split
    · exact absurd (hfound.symm.trans (scalar_eq_none (by decide) _)) (by simp)
    · exact absurd (hfound.symm.trans (scalar_eq_none (by decide) _)) (by simp)
    · exact absurd (hfound.symm.trans (scalar_eq_none (by decide) _)) (by simp)
    · rw [hfound]

/-! ## 4. Whole texts -/

/-- A whole text is read as the value that its characters are read as, between blanks. -/
theorem readChars_iff {j : Json} :
    readChars cs = .ok j ↔ ∃ left, value (fuelFor cs) (skip cs) = .ok (j, left) ∧ skip left = [] := by
  constructor
  · intro h
    rw [readChars] at h
    split at h
    · exact absurd h (by simp)
    · split at h
      · exact absurd h (by simp)
      · rename_i hvalue
        split at h
        · rename_i hskip
          obtain rfl := Except.ok.inj h
          exact ⟨_, hvalue, hskip⟩
        · exact absurd h (by simp)
  · rintro ⟨left, hvalue, hskip⟩
    have hmark : ¬ (cs.head? == some '\uFEFF') = true := by
      rw [beq_iff_eq]
      intro hhead
      obtain ⟨rest, rfl⟩ := List.head?_eq_some_iff.mp hhead
      exact value_ne (.inr rfl) rest j hvalue
    rw [readChars, if_neg hmark, hvalue]
    simp only [hskip]

/-- The strict reader looks at the strings and at the depth besides. -/
theorem readStrict_iff {j : Json} :
    readStrict cs = some j ↔ readChars cs = .ok j ∧ stringsAreTexts cs.length cs = true ∧ j.depth ≤ maxDepth := by
  rw [readStrict]
  cases readChars cs with
  | error e => simp
  | ok k =>
    simp only [Option.ite_none_right_eq_some, Bool.and_eq_true, decide_eq_true_eq, Option.some.injEq, Except.ok.injEq]
    constructor
    · rintro ⟨⟨htexts, hdepth⟩, rfl⟩
      exact ⟨rfl, htexts, hdepth⟩
    · rintro ⟨rfl, htexts, hdepth⟩
      exact ⟨⟨htexts, hdepth⟩, rfl⟩

end Phrasebook.Json
