import Phrasebook.Text.Utf8

/-!
# Decoding inverts encoding

Results:
1. `decode_encode`: the text of the bytes of a text is that text.
2. `mem_encode_lt`: a byte below 0x80 among the bytes of a text is one of its characters, so that cutting the bytes at
   an ASCII character never cuts another one.
-/

namespace Phrasebook.Text.Utf8

/-! ## Bytes as numbers -/

theorem toNat_ofNat_of_lt {n : Nat} (h : n < 256) : (UInt8.ofNat n).toNat = n := by
  rw [UInt8.toNat_ofNat', Nat.mod_eq_of_lt h]

theorem val_lt (c : Char) : c.val.toNat < 0x110000 := by
  have h := c.valid
  simp only [UInt32.isValidChar, Nat.isValidChar] at h
  omega

/-- No character is half of a surrogate pair. -/
theorem val_not_half (c : Char) : c.val.toNat < 0xd800 ∨ 0xe000 ≤ c.val.toNat := by
  have h := c.valid
  simp only [UInt32.isValidChar, Nat.isValidChar] at h
  omega

theorem isContinuation_iff (b : UInt8) : isContinuation b = true ↔ 0x80 ≤ b.toNat ∧ b.toNat ≤ 0xbf := by
  simp [isContinuation, UInt8.le_iff_toNat_le]

theorem continuesThree_iff (a b : UInt8) :
    continuesThree a b = true ↔
      (0x80 ≤ b.toNat ∧ b.toNat ≤ 0xbf) ∧ (a.toNat = 0xe0 → 0xa0 ≤ b.toNat) ∧ (a.toNat = 0xed → b.toNat < 0xa0) := by
  simp only [continuesThree, Bool.and_eq_true, Bool.not_eq_true', Bool.and_eq_false_iff, isContinuation_iff,
    beq_eq_false_iff_ne, ne_eq, ← UInt8.toNat_inj, decide_eq_false_iff_not, UInt8.lt_iff_toNat_lt,
    UInt8.le_iff_toNat_le, UInt8.reduceToNat]
  omega

theorem continuesFour_iff (a b : UInt8) :
    continuesFour a b = true ↔
      (0x80 ≤ b.toNat ∧ b.toNat ≤ 0xbf) ∧ (a.toNat = 0xf0 → 0x90 ≤ b.toNat) ∧ (a.toNat = 0xf4 → b.toNat < 0x90) := by
  simp only [continuesFour, Bool.and_eq_true, Bool.not_eq_true', Bool.and_eq_false_iff, isContinuation_iff,
    beq_eq_false_iff_ne, ne_eq, ← UInt8.toNat_inj, decide_eq_false_iff_not, UInt8.lt_iff_toNat_lt,
    UInt8.le_iff_toNat_le, UInt8.reduceToNat]
  omega

/-! ## One character

The four ranges of first bytes. -/

theorem decodeFrom_one {place : Nat} {a : UInt8} {rest : List UInt8} (ha : a.toNat < 0x80) :
    decodeFrom place (a :: rest) = (decodeFrom (place + 1) rest).map (Char.ofNat a.toNat :: ·) := by
  rw [decodeFrom.eq_def]
  simp [UInt8.lt_iff_toNat_lt, ha]

theorem decodeFrom_two {place : Nat} {a b : UInt8} {rest : List UInt8} (ha : 0xc2 ≤ a.toNat) (ha' : a.toNat < 0xe0)
    (hb : isContinuation b = true) :
    decodeFrom place (a :: b :: rest) =
      (decodeFrom (place + 2) rest).map (Char.ofNat (a.toNat % 32 * 64 + low b) :: ·) := by
  rw [decodeFrom.eq_def]
  have h1 : ¬ a.toNat < 0x80 := by omega
  have h2 : ¬ (a.toNat < 0xc2 ∨ 0xf4 < a.toNat) := by omega
  simp [UInt8.lt_iff_toNat_lt, h1, h2, ha', hb]

theorem decodeFrom_three {place : Nat} {a b c : UInt8} {rest : List UInt8} (ha : 0xe0 ≤ a.toNat) (ha' : a.toNat < 0xf0)
    (hb : continuesThree a b = true) (hc : isContinuation c = true) :
    decodeFrom place (a :: b :: c :: rest) =
      (decodeFrom (place + 3) rest).map (Char.ofNat (a.toNat % 16 * 4096 + low b * 64 + low c) :: ·) := by
  rw [decodeFrom.eq_def]
  have h1 : ¬ a.toNat < 0x80 := by omega
  have h2 : ¬ (a.toNat < 0xc2 ∨ 0xf4 < a.toNat) := by omega
  have h3 : ¬ a.toNat < 0xe0 := by omega
  simp [UInt8.lt_iff_toNat_lt, h1, h2, h3, ha', hb, hc]

theorem decodeFrom_four {place : Nat} {a b c d : UInt8} {rest : List UInt8} (ha : 0xf0 ≤ a.toNat) (ha' : a.toNat ≤ 0xf4)
    (hb : continuesFour a b = true) (hc : isContinuation c = true) (hd : isContinuation d = true) :
    decodeFrom place (a :: b :: c :: d :: rest) =
      (decodeFrom (place + 4) rest).map
        (Char.ofNat (a.toNat % 8 * 262144 + low b * 4096 + low c * 64 + low d) :: ·) := by
  rw [decodeFrom.eq_def]
  have h1 : ¬ a.toNat < 0x80 := by omega
  have h2 : ¬ (a.toNat < 0xc2 ∨ 0xf4 < a.toNat) := by omega
  have h3 : ¬ a.toNat < 0xe0 := by omega
  have h4 : ¬ a.toNat < 0xf0 := by omega
  simp [UInt8.lt_iff_toNat_lt, h1, h2, h3, h4, hb, hc, hd]

theorem decodeFrom_encodeChar (place : Nat) (c : Char) (rest : List UInt8) :
    decodeFrom place (String.utf8EncodeChar c ++ rest) =
      (decodeFrom (place + (String.utf8EncodeChar c).length) rest).map (c :: ·) := by
  have hlt := val_lt c
  have hhalf := val_not_half c
  have hc : Char.ofNat c.val.toNat = c := Char.ofNat_toNat c
  simp only [String.utf8EncodeChar]
  generalize c.val.toNat = v at *
  split
  · have ha := toNat_ofNat_of_lt (n := v) (by omega)
    rw [List.singleton_append, decodeFrom_one (by omega), ha, hc, List.length_singleton]
  · split
    · have ha := toNat_ofNat_of_lt (n := v / 64 % 0x20 + 0xc0) (by omega)
      have hb := toNat_ofNat_of_lt (n := v % 0x40 + 0x80) (by omega)
      rw [List.cons_append, List.singleton_append,
        decodeFrom_two (by omega) (by omega) ((isContinuation_iff _).mpr (by omega))]
      have hv : (UInt8.ofNat (v / 64 % 0x20 + 0xc0)).toNat % 32 * 64 + low (UInt8.ofNat (v % 0x40 + 0x80)) = v := by
        rw [low, ha, hb]; omega
      rw [hv, hc]
      rfl
    · split
      · have ha := toNat_ofNat_of_lt (n := v / 4096 % 0x10 + 0xe0) (by omega)
        have hb := toNat_ofNat_of_lt (n := v / 64 % 0x40 + 0x80) (by omega)
        have hd := toNat_ofNat_of_lt (n := v % 0x40 + 0x80) (by omega)
        simp only [List.cons_append, List.nil_append]
        rw [decodeFrom_three (by omega) (by omega) ((continuesThree_iff _ _).mpr (by omega))
          ((isContinuation_iff _).mpr (by omega))]
        have hv : (UInt8.ofNat (v / 4096 % 0x10 + 0xe0)).toNat % 16 * 4096 +
            low (UInt8.ofNat (v / 64 % 0x40 + 0x80)) * 64 + low (UInt8.ofNat (v % 0x40 + 0x80)) = v := by
          rw [low, low, ha, hb, hd]; omega
        rw [hv, hc]
        rfl
      · have ha := toNat_ofNat_of_lt (n := v / 262144 % 0x08 + 0xf0) (by omega)
        have hb := toNat_ofNat_of_lt (n := v / 4096 % 0x40 + 0x80) (by omega)
        have hd := toNat_ofNat_of_lt (n := v / 64 % 0x40 + 0x80) (by omega)
        have he := toNat_ofNat_of_lt (n := v % 0x40 + 0x80) (by omega)
        simp only [List.cons_append, List.nil_append]
        rw [decodeFrom_four (by omega) (by omega) ((continuesFour_iff _ _).mpr (by omega))
          ((isContinuation_iff _).mpr (by omega)) ((isContinuation_iff _).mpr (by omega))]
        have hv : (UInt8.ofNat (v / 262144 % 0x08 + 0xf0)).toNat % 8 * 262144 +
            low (UInt8.ofNat (v / 4096 % 0x40 + 0x80)) * 4096 + low (UInt8.ofNat (v / 64 % 0x40 + 0x80)) * 64 +
              low (UInt8.ofNat (v % 0x40 + 0x80)) = v := by
          rw [low, low, low, ha, hb, hd, he]; omega
        rw [hv, hc]
        rfl

/-! ## Texts -/

theorem encode_append (cs ds : List Char) : encode (cs ++ ds) = encode cs ++ encode ds := List.flatMap_append

/-- The bytes of a text are read as this text, whatever follows them. -/
theorem decodeFrom_encode_append (place : Nat) (cs : List Char) (rest : List UInt8) :
    decodeFrom place (encode cs ++ rest) = (decodeFrom (place + (encode cs).length) rest).map (cs ++ ·) := by
  induction cs generalizing place with
  | nil =>
    show decodeFrom place rest = (decodeFrom place rest).map fun ds => ds
    cases decodeFrom place rest <;> rfl
  | cons c cs ih =>
    have hcons : encode (c :: cs) = String.utf8EncodeChar c ++ encode cs := List.flatMap_cons
    rw [hcons, List.append_assoc, decodeFrom_encodeChar, ih, List.length_append, Nat.add_assoc]
    cases decodeFrom (place + ((String.utf8EncodeChar c).length + (encode cs).length)) rest <;> rfl

theorem decodeFrom_encode (place : Nat) (cs : List Char) : decodeFrom place (encode cs) = .ok cs := by
  have h := decodeFrom_encode_append place cs []
  rw [List.append_nil, decodeFrom.eq_def (place + _)] at h
  rw [h]
  exact congrArg Except.ok (List.append_nil cs)

/-- Encoding loses nothing. -/
theorem decode_encode (cs : List Char) : decode (encode cs) = .ok cs := decodeFrom_encode 0 cs

/-- All bytes of a character but an ASCII one have their high bit set. -/
theorem mem_encodeChar_lt {c : Char} {b : UInt8} (hb : b.toNat < 0x80) (h : b ∈ String.utf8EncodeChar c) :
    b.toNat = c.toNat := by
  have hlt := val_lt c
  simp only [String.utf8EncodeChar] at h
  rw [Char.toNat]
  generalize c.val.toNat = v at *
  -- every byte but the one of the first range is a sum with 0x80 or more
  have large {n : Nat} (h1 : 0x80 ≤ n) (h2 : n < 256) : b ≠ UInt8.ofNat n := by
    rintro rfl
    rw [toNat_ofNat_of_lt h2] at hb
    omega
  split at h
  · rw [List.mem_singleton] at h
    rw [h, toNat_ofNat_of_lt (by omega)]
  · split at h
    · simp only [List.mem_cons, List.not_mem_nil, or_false] at h
      rcases h with h | h
      · exact absurd h (large (by omega) (by omega))
      · exact absurd h (large (by omega) (by omega))
    · split at h
      · simp only [List.mem_cons, List.not_mem_nil, or_false] at h
        rcases h with h | h | h
        · exact absurd h (large (by omega) (by omega))
        · exact absurd h (large (by omega) (by omega))
        · exact absurd h (large (by omega) (by omega))
      · simp only [List.mem_cons, List.not_mem_nil, or_false] at h
        rcases h with h | h | h | h
        · exact absurd h (large (by omega) (by omega))
        · exact absurd h (large (by omega) (by omega))
        · exact absurd h (large (by omega) (by omega))
        · exact absurd h (large (by omega) (by omega))

theorem mem_encode_lt {cs : List Char} {b : UInt8} (hb : b.toNat < 0x80) (h : b ∈ encode cs) :
    ∃ c ∈ cs, c.toNat = b.toNat := by
  obtain ⟨c, hc, h⟩ := List.mem_flatMap.mp h
  exact ⟨c, hc, (mem_encodeChar_lt hb h).symm⟩

/-! ## Cut characters

Where the bytes of a character are cut off, nothing can be read, be it that the bytes end there or that an ASCII
character follows. -/

/-- What may follow a cut character: the end, or an ASCII character. -/
def IsForeign (rest : List UInt8) : Prop := ∀ b ∈ rest.head?, b.toNat < 0x80

theorem IsForeign.cases {rest : List UInt8} (h : IsForeign rest) :
    rest = [] ∨ ∃ b more, rest = b :: more ∧ isContinuation b = false := by
  cases rest with
  | nil => exact .inl rfl
  | cons b more =>
    refine .inr ⟨b, more, rfl, ?_⟩
    have hb : b.toNat < 0x80 := h b rfl
    rw [Bool.eq_false_iff, Ne, isContinuation_iff]
    omega

theorem decodeFrom_cut_two {place : Nat} {a : UInt8} {rest : List UInt8} (ha : 0xc2 ≤ a.toNat) (ha' : a.toNat < 0xe0)
    (hrest : IsForeign rest) : ∃ fault, decodeFrom place (a :: rest) = .error fault := by
  rw [decodeFrom.eq_def]
  have h1 : ¬ a.toNat < 0x80 := by omega
  have h2 : ¬ (a.toNat < 0xc2 ∨ 0xf4 < a.toNat) := by omega
  rcases hrest.cases with rfl | ⟨b, more, rfl, hb⟩
  · simp [UInt8.lt_iff_toNat_lt, h1, h2, ha']
  · simp [UInt8.lt_iff_toNat_lt, h1, h2, ha', hb]

theorem continuesThree_of_not {a b : UInt8} (h : isContinuation b = false) : continuesThree a b = false := by
  rw [continuesThree, h, Bool.false_and, Bool.false_and]

theorem continuesFour_of_not {a b : UInt8} (h : isContinuation b = false) : continuesFour a b = false := by
  rw [continuesFour, h, Bool.false_and, Bool.false_and]

theorem decodeFrom_cut_three {place : Nat} {a : UInt8} {more rest : List UInt8} (ha : 0xe0 ≤ a.toNat)
    (ha' : a.toNat < 0xf0) (hmore : more.length + 1 < 3) (hrest : IsForeign rest) :
    ∃ fault, decodeFrom place (a :: (more ++ rest)) = .error fault := by
  rw [decodeFrom.eq_def]
  have h1 : ¬ a.toNat < 0x80 := by omega
  have h2 : ¬ (a.toNat < 0xc2 ∨ 0xf4 < a.toNat) := by omega
  have h3 : ¬ a.toNat < 0xe0 := by omega
  match more with
  | [] =>
    rcases hrest.cases with rfl | ⟨b, tail, rfl, hb⟩
    · simp [UInt8.lt_iff_toNat_lt, h1, h2, h3, ha']
    · simp [UInt8.lt_iff_toNat_lt, h1, h2, h3, ha', continuesThree_of_not hb]
  | [b] =>
    cases hb : continuesThree a b with
    | false => simp [UInt8.lt_iff_toNat_lt, h1, h2, h3, ha', hb]
    | true =>
      rcases hrest.cases with rfl | ⟨c, tail, rfl, hc⟩
      · simp [UInt8.lt_iff_toNat_lt, h1, h2, h3, ha', hb]
      · simp [UInt8.lt_iff_toNat_lt, h1, h2, h3, ha', hb, hc]

theorem decodeFrom_cut_four {place : Nat} {a : UInt8} {more rest : List UInt8} (ha : 0xf0 ≤ a.toNat)
    (ha' : a.toNat ≤ 0xf4) (hmore : more.length + 1 < 4) (hrest : IsForeign rest) :
    ∃ fault, decodeFrom place (a :: (more ++ rest)) = .error fault := by
  rw [decodeFrom.eq_def]
  have h1 : ¬ a.toNat < 0x80 := by omega
  have h2 : ¬ (a.toNat < 0xc2 ∨ 0xf4 < a.toNat) := by omega
  have h3 : ¬ a.toNat < 0xe0 := by omega
  have h4 : ¬ a.toNat < 0xf0 := by omega
  match more with
  | [] =>
    rcases hrest.cases with rfl | ⟨b, tail, rfl, hb⟩
    · simp [UInt8.lt_iff_toNat_lt, h1, h2, h3, h4]
    · simp [UInt8.lt_iff_toNat_lt, h1, h2, h3, h4, continuesFour_of_not hb]
  | b :: more =>
    cases hb : continuesFour a b with
    | false => simp [UInt8.lt_iff_toNat_lt, h1, h2, h3, h4, hb]
    | true =>
      match more with
      | [] =>
        rcases hrest.cases with rfl | ⟨c, tail, rfl, hc⟩
        · simp [UInt8.lt_iff_toNat_lt, h1, h2, h3, h4, hb]
        · simp [UInt8.lt_iff_toNat_lt, h1, h2, h3, h4, hb, hc]
      | [c] =>
        cases hc : isContinuation c with
        | false => simp [UInt8.lt_iff_toNat_lt, h1, h2, h3, h4, hb, hc]
        | true =>
          rcases hrest.cases with rfl | ⟨d, tail, rfl, hd⟩
          · simp [UInt8.lt_iff_toNat_lt, h1, h2, h3, h4, hb, hc]
          · simp [UInt8.lt_iff_toNat_lt, h1, h2, h3, h4, hb, hc, hd]

/-- A cut character cannot be read. -/
theorem decodeFrom_cut {c : Char} {part rest : List UInt8} (place : Nat) (hpart : part <+: String.utf8EncodeChar c)
    (hne : part ≠ []) (hproper : part ≠ String.utf8EncodeChar c) (hrest : IsForeign rest) :
    ∃ fault, decodeFrom place (part ++ rest) = .error fault := by
  have hlength : part.length < (String.utf8EncodeChar c).length :=
    Nat.lt_of_le_of_ne hpart.length_le fun heq => hproper (hpart.eq_of_length heq)
  obtain ⟨a, more, rfl⟩ := List.exists_cons_of_ne_nil hne
  have hlt := val_lt c
  rw [List.cons_append]
  simp only [String.utf8EncodeChar] at hpart hlength
  generalize c.val.toNat = v at *
  split at hpart
  · rename_i h
    rw [if_pos h] at hlength
    exact absurd hlength (by simp)
  · rename_i h
    rw [if_neg h] at hlength
    split at hpart
    · rename_i h'
      rw [if_pos h'] at hlength
      obtain ⟨rfl, -⟩ := List.cons_prefix_cons.mp hpart
      have hmore : more = [] := by simpa using Nat.lt_of_succ_lt_succ hlength
      rw [hmore, List.nil_append]
      have ha := toNat_ofNat_of_lt (n := v / 64 % 0x20 + 0xc0) (by omega)
      exact decodeFrom_cut_two (by omega) (by omega) hrest
    · rename_i h'
      rw [if_neg h'] at hlength
      split at hpart
      · rename_i h''
        rw [if_pos h''] at hlength
        obtain ⟨rfl, -⟩ := List.cons_prefix_cons.mp hpart
        have ha := toNat_ofNat_of_lt (n := v / 4096 % 0x10 + 0xe0) (by omega)
        exact decodeFrom_cut_three (by omega) (by omega) hlength hrest
      · rename_i h''
        rw [if_neg h''] at hlength
        obtain ⟨rfl, -⟩ := List.cons_prefix_cons.mp hpart
        have ha := toNat_ofNat_of_lt (n := v / 262144 % 0x08 + 0xf0) (by omega)
        exact decodeFrom_cut_four (by omega) (by omega) hlength hrest

/-- The bytes of a text are cut between two characters or within one. -/
theorem exists_of_prefix_encode {cs : List Char} {bytes : List UInt8} (h : bytes <+: encode cs) :
    ∃ front, front <+: cs ∧ (bytes = encode front ∨ ∃ c part, part <+: String.utf8EncodeChar c ∧ part ≠ [] ∧
      part ≠ String.utf8EncodeChar c ∧ bytes = encode front ++ part) := by
  induction cs generalizing bytes with
  | nil => exact ⟨[], List.prefix_rfl, .inl (List.prefix_nil.mp h)⟩
  | cons c cs ih =>
    have hcons (ds : List Char) : encode (c :: ds) = String.utf8EncodeChar c ++ encode ds := List.flatMap_cons
    rw [hcons] at h
    rcases List.prefix_or_prefix_of_prefix h (List.prefix_append _ _) with hpart | ⟨more, rfl⟩
    · by_cases hnil : bytes = []
      · exact ⟨[], List.nil_prefix, .inl hnil⟩
      · by_cases hwhole : bytes = String.utf8EncodeChar c
        · exact ⟨[c], by simp, .inl (by rw [hcons, hwhole]; exact (List.append_nil _).symm)⟩
        · exact ⟨[], List.nil_prefix, .inr ⟨c, bytes, hpart, hnil, hwhole, rfl⟩⟩
    · obtain ⟨front, hfront, hcases⟩ := ih ((List.prefix_append_right_inj _).mp h)
      refine ⟨c :: front, List.cons_prefix_cons.mpr ⟨rfl, hfront⟩, ?_⟩
      rcases hcases with rfl | ⟨d, part, hpart, hne, hproper, rfl⟩
      · exact .inl (hcons front).symm
      · exact .inr ⟨d, part, hpart, hne, hproper, by rw [hcons, List.append_assoc]⟩

end Phrasebook.Text.Utf8
