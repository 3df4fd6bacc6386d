import Phrasebook.Json.Writer
import Phrasebook.Proofs.JsonParts

/-!
# Reading JSON inverts writing it

Numbers are left aside; of the rest every value reads back as it was, whatever follows it. The fuel of the reader
suffices because every step takes a character.

Results:
1. `characters_stringText`: a string reads back, with all its escapes.
2. `value_valueText`: a value reads back, in every layout that differs from the compact one by blanks only.
3. `readChars_valueText_append`: what comes after a value decides whether a text reads back.
-/

namespace Phrasebook.Json

/-! ## Layouts and values -/

/-- A layout that writes a value as a reader expects it: signs with nothing but blanks around them. -/
structure Layout.IsStandard (layout : Layout) : Prop where
  ascii : layout.ascii = false
  afterName : ∃ blanks, layout.afterName.toList = ':' :: blanks ∧ ∀ c ∈ blanks, isBlank c = true
  betweenItems : ∃ blanks, layout.betweenItems.toList = ',' :: blanks ∧ ∀ c ∈ blanks, isBlank c = true

theorem compact_isStandard : Layout.compact.IsStandard where
  ascii := rfl
  afterName := ⟨[], by decide, by simp⟩
  betweenItems := ⟨[], by decide, by simp⟩

theorem indented_isStandard : Layout.indented.IsStandard where
  ascii := rfl
  afterName := ⟨[' '], by decide, List.all_eq_true.mp (by decide)⟩
  betweenItems := ⟨[], by decide, by simp⟩

mutual
/-- Whether a value is built without numbers and without halves of surrogate pairs. -/
def isPlain : Json → Bool
  | null => true
  | bool _ => true
  | integer _ => false
  | decimal _ => false
  | string _ => true
  | broken _ => false
  | array items => arePlain items
  | object members => membersArePlain members
def arePlain : List Json → Bool
  | [] => true
  | j :: js => isPlain j && arePlain js
/-- Whether the values of some members are plain. -/
def membersArePlain : List (String × Json) → Bool
  | [] => true
  | (_, j) :: ms => isPlain j && membersArePlain ms
end

/-! ## Blanks -/

theorem skip_of_blank {blanks : List Char} (h : ∀ c ∈ blanks, isBlank c = true) (cs : List Char) :
    skip (blanks ++ cs) = skip cs :=
  List.dropWhile_append_of_pos h

theorem skip_cons {c : Char} (h : isBlank c = false) (cs : List Char) : skip (c :: cs) = c :: cs := by
  rw [skip, List.dropWhile_cons_of_neg (by simp [h])]

theorem isBlank_lineBreak (layout : Layout) (level : Nat) : ∀ c ∈ lineBreak layout level, isBlank c = true := by
  intro c hc
  rw [lineBreak] at hc
  split at hc
  · rcases List.mem_cons.mp hc with rfl | hc
    · rfl
    · rw [List.eq_of_mem_replicate hc]; rfl
  · exact absurd hc List.not_mem_nil

theorem skip_lineBreak (layout : Layout) (level : Nat) {c : Char} (h : isBlank c = false) (cs : List Char) :
    skip (lineBreak layout level ++ c :: cs) = c :: cs := by
  rw [skip_of_blank (isBlank_lineBreak layout level), skip_cons h]

/-! ## Strings -/

theorem characters_drop (start : List Char) (dropped cs : List Char) :
    characters start dropped.length (dropped ++ cs) = characters start 0 cs := by
  induction dropped with
  | nil => rfl
  | cons d dropped ih =>
    rw [List.length_cons, List.cons_append, characters]
    exact ih

/-- What the escape of a control character reads as. -/
theorem fourDigits_hexDigits :
    ∀ n, n < 32 → ∃ a b c d, Text.hexDigits 4 n = [a, b, c, d] ∧ fourDigits a b c d = some n := by
  intro n hn
  refine ⟨Text.hexDigit (n / 16 / 16 / 16 % 16), Text.hexDigit (n / 16 / 16 % 16), Text.hexDigit (n / 16 % 16),
    Text.hexDigit (n % 16), by simp only [Text.hexDigits, List.nil_append, List.cons_append], ?_⟩
  revert n
  decide

theorem characters_letter (start : List Char) {letter c : Char} (hu : letter ≠ 'u') (h : escaped? letter = some c)
    (cs : List Char) :
    characters start 0 ('\\' :: letter :: cs) =
      (characters start 0 cs).map fun (ps, left) => ((c, true) :: ps, left) := by
  rw [characters, if_neg (by decide), if_pos (by decide), escape_letter hu h]
  exact congrArg (Except.map _) (characters_drop start [letter] cs)

theorem characters_unicodeEscape (start : List Char) {n : Nat} (hn : n < 32) {cs : List Char} (hcs : cs ≠ []) :
    characters start 0 (unicodeEscape n ++ cs) =
      (characters start 0 cs).map fun (ps, left) => ((Char.ofNat n, true) :: ps, left) := by
  obtain ⟨a, b, c, d, hd, hv⟩ := fourDigits_hexDigits n hn
  have hhigh : isHighHalf n = false := by simp [isHighHalf]; omega
  have hlow : isLowHalf n = false := by simp [isLowHalf]; omega
  have he : escape ('\\' :: 'u' :: a :: b :: c :: d :: cs) ('u' :: a :: b :: c :: d :: cs) =
      .ok ((Char.ofNat n, true), 5) := by
    rw [escape.eq_def]
    simp [hcs, hv, hhigh, hlow]
  rw [unicodeEscape, hd]
  simp only [List.cons_append, List.nil_append]
  rw [characters, if_neg (by decide), if_pos (by decide), he]
  exact congrArg (Except.map _) (characters_drop start ['u', a, b, c, d] cs)

/-- The three ways to write a character: by a letter, by its number, or as it is. -/
theorem charText_cases (c : Char) :
    (∃ letter, charText false c = ['\\', letter] ∧ letter ≠ 'u' ∧ escaped? letter = some c ∧ 0x20 ≤ letter.toNat) ∨
      (c.toNat < 0x20 ∧ charText false c = unicodeEscape c.toNat) ∨
      (0x20 ≤ c.toNat ∧ c ≠ '"' ∧ c ≠ '\\' ∧ charText false c = [c]) := by
  rw [charText]
  by_cases h1 : c = '"'
  · subst h1; exact .inl ⟨'"', by decide, by decide, by decide, by decide⟩
  by_cases h2 : c = '\\'
  · subst h2; exact .inl ⟨'\\', by decide, by decide, by decide, by decide⟩
  by_cases h3 : c = '\n'
  · subst h3; exact .inl ⟨'n', by decide, by decide, by decide, by decide⟩
  by_cases h4 : c = '\r'
  · subst h4; exact .inl ⟨'r', by decide, by decide, by decide, by decide⟩
  by_cases h5 : c = '\t'
  · subst h5; exact .inl ⟨'t', by decide, by decide, by decide, by decide⟩
  by_cases h6 : c = '\x08'
  · subst h6; exact .inl ⟨'b', by decide, by decide, by decide, by decide⟩
  by_cases h7 : c = '\x0c'
  · subst h7; exact .inl ⟨'f', by decide, by decide, by decide, by decide⟩
  simp only [beq_iff_eq, h1, h2, h3, h4, h5, h6, h7, if_false, Bool.false_and, Bool.false_eq_true]
  by_cases h8 : c.toNat < 0x20
  · exact .inr (.inl ⟨h8, if_pos h8⟩)
  · exact .inr (.inr ⟨by omega, h1, h2, if_neg h8⟩)

theorem characters_charText (start : List Char) (c : Char) {cs : List Char} (hcs : cs ≠ []) :
    characters start 0 (charText false c ++ cs) =
      (characters start 0 cs).map fun (ps, left) => ((c, true) :: ps, left) := by
  rcases charText_cases c with ⟨letter, htext, hu, hletter, -⟩ | ⟨hlt, htext⟩ | ⟨hge, hquote, hslash, htext⟩
  · rw [htext]
    exact characters_letter start hu hletter cs
  · rw [htext, characters_unicodeEscape start hlt hcs, Char.ofNat_toNat]
  · rw [htext, List.singleton_append, characters, if_neg (by simpa using hquote), if_neg (by simpa using hslash),
      if_neg (by omega)]

/-- A string reads back. -/
theorem characters_stringText (start : List Char) (s : List Char) (rest : List Char) :
    characters start 0 (s.flatMap (charText false) ++ '"' :: rest) = .ok (s.map (·, true), rest) := by
  induction s with
  | nil => rw [List.flatMap_nil, List.nil_append, characters, if_pos (by decide), List.map_nil]
  | cons c s ih =>
    rw [List.flatMap_cons, List.append_assoc, characters_charText start c (by simp), ih]
    rfl

theorem textOf_map (s : String) : textOf (s.toList.map (·, true)) = s := by
  simp [textOf, Function.comp_def]

theorem ofPieces_map (s : String) : ofPieces (s.toList.map (·, true)) = .string s := by
  rw [ofPieces, if_pos (by simp), textOf_map]

/-! ## Values -/

/-- No value starts with a blank. -/
theorem valueText_head (layout : Layout) (level : Nat) {j : Json} (hj : j.isPlain = true) :
    ∃ c cs, valueText layout level j = c :: cs ∧ isBlank c = false := by
  cases j with
  | null => exact ⟨'n', _, rfl, by decide⟩
  | bool b => cases b <;> exact ⟨_, _, rfl, by decide⟩
  | integer n => exact absurd hj (by simp [isPlain])
  | decimal x => exact absurd hj (by simp [isPlain])
  | string s => exact ⟨'"', _, by rw [valueText, stringText]; rfl, by decide⟩
  | broken s => exact absurd hj (by simp [isPlain])
  | array items =>
    cases items with
    | nil => exact ⟨'[', _, by rw [valueText], by decide⟩
    | cons j js => exact ⟨'[', _, by rw [valueText]; rfl, by decide⟩
  | object members =>
    cases members with
    | nil => exact ⟨'{', _, by rw [valueText], by decide⟩
    | cons m ms => exact ⟨'{', _, by rw [valueText]; rfl, by decide⟩

theorem skip_valueText (layout : Layout) (level : Nat) {j : Json} (hj : j.isPlain = true) (cs : List Char) :
    skip (valueText layout level j ++ cs) = valueText layout level j ++ cs := by
  obtain ⟨c, text, htext, hc⟩ := valueText_head layout level hj
  rw [htext, List.cons_append, skip_cons hc]

/-- A member with those after it, from its name on. -/
def memberText (layout : Layout) (level : Nat) (m : String × Json) (ms : List (String × Json)) : List Char :=
  stringText layout.ascii m.1 ++ layout.afterName.toList ++ valueText layout level m.2 ++ membersText layout level ms

def itemText (layout : Layout) (level : Nat) (j : Json) (js : List Json) : List Char :=
  valueText layout level j ++ itemsText layout level js

theorem valueText_object (layout : Layout) (level : Nat) (m : String × Json) (ms : List (String × Json)) :
    valueText layout level (object (m :: ms)) =
      '{' :: lineBreak layout (level + 1) ++ memberText layout (level + 1) m ms ++ lineBreak layout level ++ ['}'] := by
  rw [valueText, memberText]
  simp only [List.append_assoc, List.cons_append]

theorem valueText_array (layout : Layout) (level : Nat) (j : Json) (js : List Json) :
    valueText layout level (array (j :: js)) =
      '[' :: lineBreak layout (level + 1) ++ itemText layout (level + 1) j js ++ lineBreak layout level ++ [']'] := by
  rw [valueText, itemText]
  simp only [List.append_assoc, List.cons_append]

theorem membersText_cons (layout : Layout) (level : Nat) (m : String × Json) (ms : List (String × Json)) :
    membersText layout level (m :: ms) =
      layout.betweenItems.toList ++ lineBreak layout level ++ memberText layout level m ms := by
  rw [membersText, memberText]
  simp only [List.append_assoc]

theorem itemsText_cons (layout : Layout) (level : Nat) (j : Json) (js : List Json) :
    itemsText layout level (j :: js) =
      layout.betweenItems.toList ++ lineBreak layout level ++ itemText layout level j js := by
  rw [itemsText, itemText]
  simp only [List.append_assoc]

/-- A member begins with the quote of its name. -/
theorem memberText_head {layout : Layout} (hl : layout.IsStandard) (level : Nat) (m : String × Json)
    (ms : List (String × Json)) :
    memberText layout level m ms =
      '"' :: (m.1.toList.flatMap (charText false) ++
        '"' :: (layout.afterName.toList ++ (valueText layout level m.2 ++ membersText layout level ms))) := by
  rw [memberText, stringText, hl.ascii]
  simp only [List.append_assoc, List.cons_append, List.nil_append]

/-! ## Reading a value -/

section Reading

variable {layout : Layout} (hl : layout.IsStandard)

include hl

/-- Between two items stand a comma and blanks. -/
theorem skip_between (level : Nat) (cs : List Char) :
    ∃ r, skip (layout.betweenItems.toList ++ (lineBreak layout level ++ cs)) = ',' :: r ∧ skip r = skip cs := by
  obtain ⟨blanks, hcomma, hblanks⟩ := hl.betweenItems
  refine ⟨blanks ++ (lineBreak layout level ++ cs), ?_, ?_⟩
  · rw [hcomma, List.cons_append, skip_cons (by decide)]
  · rw [skip_of_blank hblanks, skip_of_blank (isBlank_lineBreak layout level)]

theorem length_betweenItems_pos : 0 < layout.betweenItems.toList.length := by
  obtain ⟨blanks, hcomma, -⟩ := hl.betweenItems
  rw [hcomma]
  exact Nat.succ_pos _

/-- After a name stand a colon and blanks. -/
theorem skip_afterName (cs : List Char) :
    ∃ r, skip (layout.afterName.toList ++ cs) = ':' :: r ∧ skip r = skip cs := by
  obtain ⟨blanks, hcolon, hblanks⟩ := hl.afterName
  refine ⟨blanks ++ cs, ?_, skip_of_blank hblanks cs⟩
  rw [hcolon, List.cons_append, skip_cons (by decide)]

/-- A member starts with no blank. -/
theorem skip_memberText (level : Nat) (m : String × Json) (ms : List (String × Json)) (cs : List Char) :
    skip (memberText layout level m ms ++ cs) = memberText layout level m ms ++ cs := by
  rw [memberText_head hl, List.cons_append, skip_cons (by decide)]

mutual
/-- A value reads back, with as much fuel as its text has characters. -/
theorem value_valueText (level : Nat) (j : Json) (hj : j.isPlain = true) (n : Nat) (rest : List Char)
    (hn : (valueText layout level j).length < n) :
    value n (valueText layout level j ++ rest) = .ok (j, rest) := by
  -- the recursion is on the fuel: each part of a text is shorter than the whole
  obtain ⟨n, rfl⟩ : ∃ m, n = m + 1 := ⟨n - 1, by omega⟩
  match j with
  | null => rfl
  | bool b => cases b <;> rfl
  | string s =>
    rw [valueText, stringText, hl.ascii, List.cons_append, List.cons_append, List.append_assoc,
      List.singleton_append, ← ofPieces_map]
    exact value_iff.mpr (.string (characters_stringText _ _ _))
  | array [] => rfl
  | array (j :: js) =>
    rw [valueText_array] at hn ⊢
    have hitems := items_itemText (level + 1) j js hj n level rest (by simp at hn; omega)
    have hplain : j.isPlain = true := by simp_all [isPlain, arePlain]
    simp only [List.cons_append, List.append_assoc, List.nil_append, itemText] at hitems ⊢
    refine value_iff.mpr (.array ?_)
    rw [skip_of_blank (isBlank_lineBreak layout _), skip_valueText layout _ hplain]
    exact hitems
  | object [] => rfl
  | object (m :: ms) =>
    rw [valueText_object] at hn ⊢
    have hmembers := members_memberText (level + 1) m ms hj n level rest (by simp at hn; omega)
    simp only [List.cons_append, List.append_assoc, List.nil_append] at hmembers ⊢
    refine value_iff.mpr (.object ?_)
    rw [skip_of_blank (isBlank_lineBreak layout _), skip_memberText hl]
    exact hmembers
termination_by n
/-- The items of an array read back. -/
theorem items_itemText (level : Nat) (j : Json) (js : List Json) (hj : arePlain (j :: js) = true) (n lower : Nat)
    (rest : List Char) (hn : (itemText layout level j js).length + 1 < n) :
    items n (itemText layout level j js ++ (lineBreak layout lower ++ ']' :: rest)) = .ok (j :: js, rest) := by
  obtain ⟨n, rfl⟩ : ∃ m, n = m + 1 := ⟨n - 1, by omega⟩
  simp only [arePlain, Bool.and_eq_true] at hj
  rw [itemText, List.length_append] at hn
  rw [itemText, List.append_assoc]
  have hread := value_valueText level j hj.1 n
    (itemsText layout level js ++ (lineBreak layout lower ++ ']' :: rest)) (by omega)
  match js with
  | [] => exact items_iff.mpr (.last hread (skip_lineBreak layout lower (by decide) rest))
  | j' :: js =>
    rw [itemsText_cons] at hn hread ⊢
    simp only [List.append_assoc, List.length_append] at hn hread ⊢
    have hpos := length_betweenItems_pos hl
    obtain ⟨r, hcomma, hskip⟩ := skip_between hl level
      (itemText layout level j' js ++ (lineBreak layout lower ++ ']' :: rest))
    have hj' : j'.isPlain = true := by simp_all [arePlain]
    refine items_iff.mpr (.more hread hcomma ?_)
    rw [hskip, itemText, List.append_assoc, skip_valueText layout level hj', ← List.append_assoc, ← itemText]
    exact items_itemText level j' js hj.2 n lower rest (by omega)
termination_by n
/-- The members of an object read back. -/
theorem members_memberText (level : Nat) (m : String × Json) (ms : List (String × Json))
    (hm : membersArePlain (m :: ms) = true) (n lower : Nat) (rest : List Char)
    (hn : (memberText layout level m ms).length + 1 < n) :
    members n (memberText layout level m ms ++ (lineBreak layout lower ++ '}' :: rest)) = .ok (m :: ms, rest) := by
  obtain ⟨n, rfl⟩ : ∃ m, n = m + 1 := ⟨n - 1, by omega⟩
  simp only [membersArePlain, Bool.and_eq_true] at hm
  rw [memberText_head hl] at hn ⊢
  simp only [List.length_cons, List.length_append] at hn
  simp only [List.cons_append, List.append_assoc]
  have hread := value_valueText level m.2 hm.1 n
    (membersText layout level ms ++ (lineBreak layout lower ++ '}' :: rest)) (by omega)
  obtain ⟨q, hcolon, hskip⟩ := skip_afterName hl
    (valueText layout level m.2 ++ (membersText layout level ms ++ (lineBreak layout lower ++ '}' :: rest)))
  rw [skip_valueText layout level hm.1] at hskip
  rw [← hskip] at hread
  match ms with
  | [] =>
    have hlast := members_iff.mpr
      (.last (characters_stringText _ m.1.toList _) hcolon hread (skip_lineBreak layout lower (by decide) rest))
    rwa [textOf_map] at hlast
  | m' :: ms =>
    simp only [membersText_cons, List.append_assoc, List.length_append] at hn hread hcolon ⊢
    obtain ⟨r, hcomma, hskip'⟩ := skip_between hl level
      (memberText layout level m' ms ++ (lineBreak layout lower ++ '}' :: rest))
    have hnext := members_memberText level m' ms hm.2 n lower rest (by omega)
    rw [← skip_memberText hl, ← hskip'] at hnext
    have hmore := members_iff.mpr (.more (characters_stringText _ m.1.toList _) hcolon hread hcomma hnext)
    rwa [textOf_map] at hmore
termination_by n
end

end Reading

/-! ## Whole texts -/

/-- A written value is read, and what follows it decides whether there is too much of it. -/
theorem readChars_valueText_append {layout : Layout} (hl : layout.IsStandard) {j : Json} (hj : j.isPlain = true)
    (more : List Char) :
    readChars (valueText layout 0 j ++ more) =
      match skip more with
      | [] => .ok j
      | left => .error ⟨.extraData, left⟩ := by
  have hmark : (valueText layout 0 j ++ more).head? ≠ some '\uFEFF' := by
    cases j with
    | bool b => cases b <;> simp [valueText]
    | array items => cases items <;> simp [valueText]
    | object members => cases members <;> simp [valueText]
    | integer n => exact absurd hj (by simp [isPlain])
    | decimal x => exact absurd hj (by simp [isPlain])
    | null | string s | broken s => simp [valueText, stringText]
  have hread := value_valueText hl 0 j hj (fuelFor (valueText layout 0 j ++ more)) more
    (by rw [fuelFor, List.length_append]; omega)
  rw [readChars, if_neg (by simpa using hmark), skip_valueText layout 0 hj]
  split
  · rename_i heq
    exact absurd (hread.symm.trans heq) (by simp)
  · rename_i heq
    obtain ⟨rfl, rfl⟩ := Prod.mk.inj (Except.ok.inj (hread.symm.trans heq))
    rfl

/-- A value with blanks after it is read as it was written. -/
theorem readChars_valueText {layout : Layout} (hl : layout.IsStandard) {j : Json} (hj : j.isPlain = true)
    {blanks : List Char} (hblanks : ∀ c ∈ blanks, isBlank c = true) :
    readChars (valueText layout 0 j ++ blanks) = .ok j := by
  have hskip : skip blanks = [] := by
    rw [← List.append_nil blanks, skip_of_blank hblanks]
    rfl
  rw [readChars_valueText_append hl hj, hskip]

/-! ## Line ends in what is written -/

theorem toNat_hexDigit_ge : ∀ n, n < 16 → 0x20 ≤ (Text.hexDigit n).toNat := by decide

theorem toNat_hexDigits_ge (count value : Nat) : ∀ c ∈ Text.hexDigits count value, 0x20 ≤ c.toNat := by
  intro c hc
  obtain ⟨n, hn, rfl⟩ := Text.mem_hexDigits hc
  exact toNat_hexDigit_ge n hn

/-- No control character is written in a string: all are escaped. -/
theorem toNat_charText_ge (c : Char) : ∀ d ∈ charText false c, 0x20 ≤ d.toNat := by
  intro d hd
  rcases charText_cases c with ⟨letter, htext, -, -, hge⟩ | ⟨-, htext⟩ | ⟨hge, -, -, htext⟩
  · rw [htext, List.mem_cons, List.mem_singleton] at hd
    rcases hd with rfl | rfl
    · decide
    · exact hge
  · rw [htext, unicodeEscape, List.mem_cons, List.mem_cons] at hd
    rcases hd with rfl | rfl | hd
    · decide
    · decide
    · exact toNat_hexDigits_ge _ _ d hd
  · rw [htext, List.mem_singleton] at hd
    rw [hd]
    exact hge

/-- A property of all that a layout writes by itself and of all characters that are not escaped. -/
structure Layout.Keeps (layout : Layout) (P : Char → Prop) : Prop where
  ascii : layout.ascii = false
  shown : ∀ c : Char, 0x20 ≤ c.toNat → P c
  afterName : ∀ c ∈ layout.afterName.toList, P c
  betweenItems : ∀ c ∈ layout.betweenItems.toList, P c
  lineBreak : ∀ level, ∀ c ∈ lineBreak layout level, P c

section Characters

variable {layout : Layout} {P : Char → Prop} (hk : layout.Keeps P)

include hk

theorem Layout.Keeps.all {cs : List Char} (h : (cs.all fun c => 0x20 ≤ c.toNat) = true) : ∀ c ∈ cs, P c :=
  fun c hc => hk.shown c (of_decide_eq_true (List.all_eq_true.mp h c hc))

theorem forall_stringText (s : String) : ∀ c ∈ stringText layout.ascii s, P c := by
  intro c hc
  rw [hk.ascii, stringText, List.mem_append, List.mem_cons, List.mem_flatMap, List.mem_singleton] at hc
  rcases hc with (rfl | ⟨d, -, hd⟩) | rfl
  · exact hk.shown _ (by decide)
  · exact hk.shown _ (toNat_charText_ge d c hd)
  · exact hk.shown _ (by decide)

mutual
/-- What a layout keeps holds of a written value. -/
theorem forall_valueText (level : Nat) (j : Json) (hj : j.isPlain = true) : ∀ c ∈ valueText layout level j, P c := by
  match j with
  | null =>
    rw [valueText]
    exact hk.all (by decide)
  | bool true =>
    rw [valueText]
    exact hk.all (by decide)
  | bool false =>
    rw [valueText]
    exact hk.all (by decide)
  | string s => exact forall_stringText hk s
  | array [] =>
    rw [valueText]
    exact hk.all (by decide)
  | array (j :: js) =>
    rw [isPlain, arePlain, Bool.and_eq_true] at hj
    intro c hc
    simp only [valueText, List.mem_append, List.mem_cons, List.not_mem_nil, or_false] at hc
    rcases hc with ((((rfl | hc) | hc) | hc) | hc) | rfl
    · exact hk.shown _ (by decide)
    · exact hk.lineBreak _ c hc
    · exact forall_valueText _ j hj.1 c hc
    · exact forall_itemsText _ js hj.2 c hc
    · exact hk.lineBreak _ c hc
    · exact hk.shown _ (by decide)
  | object [] =>
    rw [valueText]
    exact hk.all (by decide)
  | object ((name, j) :: ms) =>
    rw [isPlain, membersArePlain, Bool.and_eq_true] at hj
    intro c hc
    simp only [valueText, List.mem_append, List.mem_cons, List.not_mem_nil, or_false] at hc
    rcases hc with ((((((rfl | hc) | hc) | hc) | hc) | hc) | hc) | rfl
    · exact hk.shown _ (by decide)
    · exact hk.lineBreak _ c hc
    · exact forall_stringText hk name c hc
    · exact hk.afterName c hc
    · exact forall_valueText _ j hj.1 c hc
    · exact forall_membersText _ ms hj.2 c hc
    · exact hk.lineBreak _ c hc
    · exact hk.shown _ (by decide)
theorem forall_itemsText (level : Nat) (js : List Json) (hj : arePlain js = true) :
    ∀ c ∈ itemsText layout level js, P c := by
  match js with
  | [] => exact fun c hc => absurd hc List.not_mem_nil
  | j :: js =>
    rw [arePlain, Bool.and_eq_true] at hj
    intro c hc
    simp only [itemsText, List.mem_append] at hc
    rcases hc with ((hc | hc) | hc) | hc
    · exact hk.betweenItems c hc
    · exact hk.lineBreak _ c hc
    · exact forall_valueText _ j hj.1 c hc
    · exact forall_itemsText _ js hj.2 c hc
theorem forall_membersText (level : Nat) (ms : List (String × Json)) (hm : membersArePlain ms = true) :
    ∀ c ∈ membersText layout level ms, P c := by
  match ms with
  | [] => exact fun c hc => absurd hc List.not_mem_nil
  | (name, j) :: ms =>
    rw [membersArePlain, Bool.and_eq_true] at hm
    intro c hc
    simp only [membersText, List.mem_append] at hc
    rcases hc with ((((hc | hc) | hc) | hc) | hc) | hc
    · exact hk.betweenItems c hc
    · exact hk.lineBreak _ c hc
    · exact forall_stringText hk name c hc
    · exact hk.afterName c hc
    · exact forall_valueText _ j hm.1 c hc
    · exact forall_membersText _ ms hm.2 c hc
end

end Characters

/-- A compact text is one line. -/
theorem toNat_compact_ge {j : Json} (hj : j.isPlain = true) : ∀ c ∈ valueText .compact 0 j, 0x20 ≤ c.toNat := by
  refine forall_valueText ⟨rfl, fun _ h => h, by simp [Layout.compact], by simp [Layout.compact], ?_⟩ 0 j hj
  simp [lineBreak, Layout.compact]

/-- An indented text has no carriage return. -/
theorem ne_return_indented {j : Json} (hj : j.isPlain = true) : ∀ c ∈ valueText .indented 0 j, c ≠ '\r' := by
  refine forall_valueText ⟨rfl, ?_, by simp [Layout.indented], by simp [Layout.indented], ?_⟩ 0 j hj
  · rintro c hc rfl
    exact absurd hc (by decide)
  · rintro level c hc rfl
    rcases List.mem_cons.mp hc with hc | hc
    · exact absurd hc (by decide)
    · exact absurd (List.eq_of_mem_replicate hc) (by decide)

end Phrasebook.Json
