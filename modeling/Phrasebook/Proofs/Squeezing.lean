import Phrasebook.Proofs.Numerals
import Phrasebook.Proofs.StrictReading

/-!
# Blanks between the parts of a JSON text

A text can be squeezed: the blanks between its values, names and signs are left out, those in its strings stay. A text
that is read as a value is read as the same value when it is squeezed. So two texts that are read and differ in such
blanks alone hold the same value.

Results:
1. `squeeze`: a text without the blanks outside its strings.
2. `scalar_squeeze`: a word or a number is read from the squeezed text.
3. `characters_read`: a string is read the same whatever follows it, and squeezing keeps it.
4. `value_squeeze`: what is read as a value is read from the squeezed text.
5. `readStrict_squeeze`: so it is for whole texts.
-/

namespace Phrasebook.Json

/-! ## 1. Squeezed texts -/

def Place.next : Place → Char → Place
  | outside, c => if c == '"' then inside else outside
  | inside, c => if c == '"' then outside else if c == '\\' then escaped else inside
  | escaped, _ => inside

/-- The rest of a text from a place on, without its blanks outside of strings. -/
def squeezeFrom : Place → List Char → List Char
  | _, [] => []
  | place, c :: cs =>
    if place == .outside && isBlank c then squeezeFrom place cs else c :: squeezeFrom (place.next c) cs

/-- A text without its blanks outside of strings. -/
def squeeze (cs : List Char) : List Char := squeezeFrom .outside cs

theorem squeeze_blank {c : Char} (h : isBlank c = true) (cs : List Char) : squeeze (c :: cs) = squeeze cs := by
  rw [squeeze, squeezeFrom, h]
  rfl

theorem squeeze_cons {c : Char} (h : isBlank c = false) (hquote : c ≠ '"') (cs : List Char) :
    squeeze (c :: cs) = c :: squeeze cs := by
  rw [squeeze, squeezeFrom, h, Place.next, beq_eq_false_iff_ne.mpr hquote]
  rfl

theorem squeeze_quote (cs : List Char) : squeeze ('"' :: cs) = '"' :: squeezeFrom .inside cs := rfl

theorem squeeze_skip (cs : List Char) : squeeze (skip cs) = squeeze cs := by
  induction cs with
  | nil => rfl
  | cons c cs ih =>
    cases hblank : isBlank c with
    | false => rw [skip_cons hblank]
    | true => rw [squeeze_blank hblank, ← ih, skip, List.dropWhile_cons_of_pos hblank, skip]

/-- A text goes on after its blanks with no blank. -/
theorem isBlank_of_skip {cs rest : List Char} {c : Char} (h : skip cs = c :: rest) : isBlank c = false := by
  have hhead := List.head?_dropWhile_not isBlank cs
  rw [← skip, h] at hhead
  simpa using hhead

theorem squeeze_of_skip {cs rest : List Char} {c : Char} (h : skip cs = c :: rest) (hquote : c ≠ '"') :
    squeeze cs = c :: squeeze rest := by
  rw [← squeeze_skip, h, squeeze_cons (isBlank_of_skip h) hquote]

theorem squeeze_of_skip_eq_nil {cs : List Char} (h : skip cs = []) : squeeze cs = [] := by
  rw [← squeeze_skip, h]
  rfl

/-- A squeezed text starts with what the text starts with after its blanks. -/
theorem exists_squeeze_eq_cons {cs rest : List Char} {c : Char} (h : skip cs = c :: rest) :
    ∃ tail, squeeze cs = c :: tail := by
  rw [← squeeze_skip, h, squeeze, squeezeFrom, isBlank_of_skip h]
  exact ⟨_, rfl⟩

theorem skip_squeeze (cs : List Char) : skip (squeeze cs) = squeeze cs := by
  cases h : skip cs with
  | nil =>
    rw [squeeze_of_skip_eq_nil h]
    rfl
  | cons c rest =>
    obtain ⟨tail, htail⟩ := exists_squeeze_eq_cons h
    rw [htail, skip_cons (isBlank_of_skip h)]

/-! ## 2. Numbers and words -/

/-- A character that squeezing keeps outside of strings, and that starts no string, array or object. -/
def isPlainSign (c : Char) : Bool := !isBlank c && c != '"' && c != '{' && c != '['

theorem squeeze_append {read : List Char} (h : ∀ c ∈ read, isPlainSign c = true) (rest : List Char) :
    squeeze (read ++ rest) = read ++ squeeze rest := by
  induction read with
  | nil => rfl
  | cons c read ih =>
    obtain ⟨hc, hread⟩ := List.forall_mem_cons.mp h
    simp only [isPlainSign, Bool.and_eq_true, Bool.not_eq_true', bne_iff_ne] at hc
    rw [List.cons_append, squeeze_cons hc.1.1.1 hc.1.1.2, ih hread, List.cons_append]

theorem isPlainSign_of_isNumeral {c : Char} (h : isNumeral c = true) : isPlainSign c = true := by
  have hne {d : Char} (hd : isNumeral d = false) : c ≠ d := by
    rintro rfl
    exact absurd h (by rw [hd]; decide)
  simp [isPlainSign, isBlank, hne (d := ' ') (by decide), hne (d := '\t') (by decide), hne (d := '\n') (by decide),
    hne (d := '\r') (by decide), hne (d := '"') (by decide), hne (d := '\x7b') (by decide), hne (d := '[') (by decide)]

theorem isPlainSign_words : ∀ w ∈ words, ∀ c ∈ w.1.toList, isPlainSign c = true := by
  have h : (words.all fun w => w.1.toList.all isPlainSign) = true := by decide
  simpa [List.all_eq_true] using h

/-- A word or a number is read the same from the squeezed text, and so whatever ends it. -/
theorem scalar_squeeze {cs left : List Char} {j : Json} (h : (word? cs).or (number? cs) = some (j, left))
    (hend : Ends isNumeral (squeeze left)) : (word? (squeeze cs)).or (number? (squeeze cs)) = some (j, squeeze left) := by
  rw [Option.or_eq_some_iff] at h
  rcases h with hword | ⟨-, hnumber⟩
  · obtain ⟨w, hmem, rfl, hagain⟩ := word?_read hword
    rw [squeeze_append (isPlainSign_words w hmem), hagain]
    rfl
  · obtain ⟨read, rfl, -, hnumerals, hagain⟩ := number?_read hnumber
    have hsigns : ∀ c ∈ read, isPlainSign c = true := fun c hc => isPlainSign_of_isNumeral (hnumerals c hc)
    obtain ⟨hnumber', hword'⟩ := hagain _ hend
    rw [squeeze_append hsigns, hword', hnumber']
    rfl

/-! ## 3. Strings -/

/-- A part of a string over which squeezing goes without leaving the string. -/
def StaysInside (cs : List Char) : Prop := ∀ rest, squeezeFrom .inside (cs ++ rest) = cs ++ squeezeFrom .inside rest

namespace StaysInside

theorem nil : StaysInside [] := fun _ => rfl

theorem append {cs ds : List Char} (h : StaysInside cs) (h' : StaysInside ds) : StaysInside (cs ++ ds) := by
  intro rest
  rw [List.append_assoc, h, h', List.append_assoc]

theorem of_ne {c : Char} (hquote : c ≠ '"') (hslash : c ≠ '\\') : StaysInside [c] := by
  intro rest
  rw [List.singleton_append, squeezeFrom, Place.next, beq_eq_false_iff_ne.mpr hquote, beq_eq_false_iff_ne.mpr hslash]
  rfl

theorem escape (c : Char) : StaysInside ['\\', c] := fun _ => rfl

theorem digits {a b c d : Char} {n : Nat} (h : fourDigits a b c d = some n) : StaysInside [a, b, c, d] := by
  have hone {x : Char} {m : Nat} (hx : hexValue? x = some m) : StaysInside [x] :=
    of_ne (ne_of_hexValue? hx).1 (ne_of_hexValue? hx).2
  simp only [fourDigits, bind, Option.bind_eq_some_iff] at h
  obtain ⟨_, ha, _, hb, _, hc, _, hd, -⟩ := h
  exact (hone ha).append ((hone hb).append ((hone hc).append (hone hd)))

theorem unicode {a b c d : Char} {n : Nat} (h : fourDigits a b c d = some n) : StaysInside ['\\', 'u', a, b, c, d] :=
  (escape 'u').append (digits h)

end StaysInside

/-- Whether a text starts with no escape whose digits are none. -/
def StartsWell (cs : List Char) : Prop :=
  ∀ a b c d x rest, cs = '\\' :: 'u' :: a :: b :: c :: d :: x :: rest → ∃ n, fourDigits a b c d = some n

theorem startsWell_of_numberAhead? {cs : List Char} {n : Nat} (h : numberAhead? cs = some n) : StartsWell cs := by
  rintro a b c d x rest rfl
  exact ⟨n, h⟩

/-- What is read on as a string starts well. -/
theorem startsWell_of_characters {start cs left : List Char} {pieces : List Piece}
    (h : characters start 0 cs = .ok (pieces, left)) : StartsWell cs := by
  rintro a b c d x rest rfl
  cases hdigits : fourDigits a b c d with
  | some n => exact ⟨n, rfl⟩
  | none => exact absurd h (by simp [characters, escape, hdigits])

/-- The number of an escape within a string does not depend on what follows the string. -/
theorem numberAhead?_quote (read left left' : List Char) :
    numberAhead? (read ++ '"' :: left) = numberAhead? (read ++ '"' :: left') := by
  -- the quote is no digit, so the escape ends before it
  have hone (left left' : List Char) {n : Nat} (h : numberAhead? (read ++ '"' :: left) = some n) :
      numberAhead? (read ++ '"' :: left') = some n := by
    obtain ⟨a, b, c, d, x, rest, heq, hdigits⟩ := numberAhead?_eq_some h
    have hlong : ∃ more, read = '\\' :: 'u' :: a :: b :: c :: d :: more := by
      simp only [fourDigits, bind, Option.bind_eq_some_iff] at hdigits
      obtain ⟨_, ha, _, hb, _, hc, _, hd, -⟩ := hdigits
      have ha := (ne_of_hexValue? ha).1
      have hb := (ne_of_hexValue? hb).1
      have hc := (ne_of_hexValue? hc).1
      have hd := (ne_of_hexValue? hd).1
      rcases read with _ | ⟨r₁, _ | ⟨r₂, _ | ⟨r₃, _ | ⟨r₄, _ | ⟨r₅, _ | ⟨r₆, more⟩⟩⟩⟩⟩⟩ <;>
        simp_all [eq_comm]
    obtain ⟨more, rfl⟩ := hlong
    cases more with
    | nil => exact hdigits
    | cons y more => exact hdigits
  cases h : numberAhead? (read ++ '"' :: left) with
  | some n => exact (hone left left' h).symm
  | none =>
    cases h' : numberAhead? (read ++ '"' :: left') with
    | none => rfl
    | some n => exact absurd (hone left' left h') (by rw [h]; simp)

/-- What an escape with a number stands for, where the text after it starts well. -/
theorem escape_unicode {left rest : List Char} {a b c d : Char} {n : Nat} (hn : fourDigits a b c d = some n)
    (hrest : rest ≠ []) (hwell : StartsWell rest) :
    escape left ('u' :: a :: b :: c :: d :: rest) = .ok
      (match isHighHalf n, numberAhead? rest with
      | true, some m => if isLowHalf m then ((ofHalves n m, true), 11) else ((halfMark, false), 5)
      | true, none => ((halfMark, false), 5)
      | false, _ => if isLowHalf n then ((halfMark, false), 5) else ((Char.ofNat n, true), 5)) := by
  rw [escape, if_neg (by simpa using hrest), hn]
  dsimp only
  cases hhigh : isHighHalf n with
  | false =>
    rw [if_neg (by decide)]
    split <;> rfl
  | true =>
    rw [if_pos rfl]
    split
    · rename_i a' b' c' d' x rest'
      obtain ⟨m, hm⟩ := hwell _ _ _ _ _ _ rfl
      rw [numberAhead?, hm]
      dsimp only
      split <;> rfl
    · rename_i hno
      have hnone : numberAhead? rest = none := by
        cases hahead : numberAhead? rest with
        | none => rfl
        | some m =>
          obtain ⟨a', b', c', d', x, rest', heq, -⟩ := numberAhead?_eq_some hahead
          exact absurd heq (hno _ _ _ _ _ _)
      rw [hnone]

/-- The escape after a backslash in a string does not depend on what follows the string, and squeezing keeps it. -/
theorem escape_read {start start' left left₁ left₂ end₁ end₂ read : List Char} {piece : Piece} {n : Nat}
    {pieces pieces' : List Piece} (h : escape left (read ++ '"' :: end₁) = .ok (piece, n)) (hn : n ≤ read.length)
    (h₁ : characters start n (read ++ '"' :: end₁) = .ok (pieces, left₁))
    (h₂ : characters start' n (read ++ '"' :: end₂) = .ok (pieces', left₂)) (left' : List Char) :
    escape left' (read ++ '"' :: end₂) = .ok (piece, n) ∧ StaysInside ('\\' :: read.take n) := by
  rcases escape_cases h with ⟨c, e, rest, hr, hu, he, rfl, rfl⟩ | ⟨a, b, c, d, k, rest, hr, hne, hk, hcount⟩
  · obtain ⟨x, more, rfl⟩ := List.exists_cons_of_length_pos hn
    obtain ⟨rfl, -⟩ := List.cons.inj hr
    exact ⟨escape_letter hu he _ _, .escape x⟩
  · have hlength : 5 ≤ read.length := by omega
    obtain ⟨more, rfl, rfl⟩ : ∃ more, read = 'u' :: a :: b :: c :: d :: more ∧ rest = more ++ '"' :: end₁ := by
      rcases read with _ | ⟨r₁, _ | ⟨r₂, _ | ⟨r₃, _ | ⟨r₄, _ | ⟨r₅, more⟩⟩⟩⟩⟩ <;> simp_all
    have hdrop (start end' : List Char) : characters start 5 ('u' :: a :: b :: c :: d :: more ++ '"' :: end') =
        characters start 0 (more ++ '"' :: end') := characters_drop start ['u', a, b, c, d] _
    have hahead := numberAhead?_quote more end₁ end₂
    have hwell : StartsWell (more ++ '"' :: end₁) ∧ StartsWell (more ++ '"' :: end₂) := by
      rcases hcount with rfl | ⟨rfl, m, hm⟩
      · rw [hdrop] at h₁ h₂
        exact ⟨startsWell_of_characters h₁, startsWell_of_characters h₂⟩
      · exact ⟨startsWell_of_numberAhead? hm, startsWell_of_numberAhead? (hahead ▸ hm)⟩
    refine ⟨?_, ?_⟩
    · have hread := (escape_unicode hk hne hwell.1).symm.trans h
      rw [hahead] at hread
      exact (escape_unicode hk (by simp) hwell.2).trans hread
    · rcases hcount with rfl | ⟨rfl, m, hm⟩
      · exact .unicode hk
      · obtain ⟨a', b', c', d', x, rest, heq, hdigits⟩ := numberAhead?_eq_some hm
        obtain ⟨more', rfl⟩ : ∃ more', more = '\\' :: 'u' :: a' :: b' :: c' :: d' :: more' := by
          rcases more with _ | ⟨r₁, _ | ⟨r₂, _ | ⟨r₃, _ | ⟨r₄, _ | ⟨r₅, _ | ⟨r₆, more⟩⟩⟩⟩⟩⟩ <;> simp_all
        exact (StaysInside.unicode hk).append (.unicode hdigits)

/-- A string is read the same whatever follows it, and squeezing keeps it. -/
theorem characters_read {start cs left : List Char} {n : Nat} {pieces : List Piece}
    (h : characters start n cs = .ok (pieces, left)) :
    ∃ read, cs = read ++ '"' :: left ∧ n ≤ read.length ∧ StaysInside (read.drop n) ∧
      ∀ start' left', characters start' n (read ++ '"' :: left') = .ok (pieces, left') := by
  induction cs generalizing n pieces with
  | nil => cases characters_iff.mp h
  | cons c r ih =>
    cases characters_iff.mp h with
    | taken hrest =>
      obtain ⟨read, hr, hn, hstays, hagain⟩ := ih hrest
      exact ⟨c :: read, by rw [hr]; rfl, Nat.succ_le_succ hn, hstays, hagain⟩
    | quote => exact ⟨[], rfl, Nat.le_refl 0, .nil, fun _ _ => rfl⟩
    | escaped hescape hrest =>
      obtain ⟨read, rfl, hn, hstays, hagain⟩ := ih hrest
      have hkept (start' end' : List Char) := escape_read hescape hn hrest (hagain start' end')
      refine ⟨'\\' :: read, rfl, Nat.zero_le _, ?_, fun start' end' => ?_⟩
      · have hall := (hkept start left []).2.append hstays
        rwa [List.cons_append, List.take_append_drop] at hall
      · exact characters_iff.mpr (.escaped (hkept start' end' _).1 (hagain _ _))
    | plain hquote hslash hcontrol hrest =>
      obtain ⟨read, rfl, -, hstays, hagain⟩ := ih hrest
      refine ⟨c :: read, rfl, Nat.zero_le _, ?_, fun start' end' => ?_⟩
      · exact (StaysInside.of_ne hquote hslash).append hstays
      · exact characters_iff.mpr (.plain hquote hslash hcontrol (hagain _ _))

/-- A name or a string from its opening quote on. -/
theorem characters_squeeze {start r left : List Char} {pieces : List Piece}
    (h : characters start 0 r = .ok (pieces, left)) :
    ∃ tail, squeeze ('"' :: r) = '"' :: tail ∧ ∀ start', characters start' 0 tail = .ok (pieces, squeeze left) := by
  obtain ⟨read, rfl, -, hstays, hagain⟩ := characters_read h
  refine ⟨read ++ '"' :: squeeze left, ?_, fun start' => hagain start' _⟩
  rw [squeeze_quote, ← List.drop_zero (l := read), hstays]
  rfl

/-! ## 4. Values -/

/-- What ends an item ends every number. -/
theorem ends_of_skip {cs rest : List Char} {c : Char} (h : skip cs = c :: rest) (hc : c = ',' ∨ c = ']' ∨ c = '}') :
    Ends isNumeral (squeeze cs) := by
  obtain ⟨tail, htail⟩ := exists_squeeze_eq_cons h
  rw [htail]
  refine .cons ?_ _
  rcases hc with rfl | rfl | rfl <;> decide

theorem length_squeeze_of_skip {cs rest : List Char} {c : Char} (h : skip cs = c :: rest) (hquote : c ≠ '"') :
    (squeeze cs).length = (squeeze rest).length + 1 := by
  rw [squeeze_of_skip h hquote, List.length_cons]

/-- What the reader finds after blanks it finds in the squeezed text. -/
theorem skip_squeeze_of_skip {cs rest : List Char} {c : Char} (h : skip cs = c :: rest) (hquote : c ≠ '"') :
    skip (squeeze cs) = c :: squeeze rest :=
  (skip_squeeze cs).trans (squeeze_of_skip h hquote)

/-- A reader goes on where a part ends, so what is left is shorter. -/
theorem length_le_of_value {n : Nat} {cs left : List Char} {j : Json} (h : value n cs = .ok (j, left)) :
    left.length ≤ cs.length := by
  obtain ⟨read, rfl, -⟩ := isBalanced_of_value n h
  rw [List.length_append]
  omega

/-- A name is read from the squeezed text, which is shorter after its colon. -/
theorem name_squeeze {q r r' : List Char} {pieces : List Piece} (hname : characters ('"' :: q) 0 q = .ok (pieces, r))
    (hcolon : skip r = ':' :: r') :
    ∃ tail, squeeze ('"' :: q) = '"' :: tail ∧ (∀ start, characters start 0 tail = .ok (pieces, squeeze r)) ∧
      (squeeze r').length < tail.length := by
  obtain ⟨tail, htail, hagain⟩ := characters_squeeze hname
  refine ⟨tail, htail, hagain, ?_⟩
  have hshorter := length_squeeze_of_skip hcolon (by decide)
  obtain ⟨read, heq, -⟩ := characters_read (hagain [])
  rw [heq, List.length_append, List.length_cons]
  omega

mutual
/-- What is read as a value is read as the same value from the squeezed text. -/
theorem value_squeeze (n : Nat) {cs left : List Char} {j : Json} (h : value n cs = .ok (j, left))
    (hend : Ends isNumeral (squeeze left)) (m : Nat) (hm : 2 * (squeeze cs).length < m) :
    value m (squeeze cs) = .ok (j, squeeze left) := by
  obtain ⟨m, rfl⟩ : ∃ k, m = k + 1 := ⟨m - 1, by omega⟩
  match n with
  | 0 => exact absurd h (by simp [value, refuse])
  | n + 1 =>
    rw [value_iff]
    cases value_iff.mp h with
    | string hstring =>
      obtain ⟨tail, htail, hagain⟩ := characters_squeeze hstring
      rw [htail]
      exact .string (hagain _)
    | noMembers hskip =>
      rw [squeeze_cons (by decide) (by decide)]
      exact .noMembers (skip_squeeze_of_skip hskip (by decide))
    | object hmembers =>
      rw [squeeze_cons (by decide) (by decide), List.length_cons] at hm
      rw [squeeze_cons (by decide) (by decide)]
      have hagain := members_squeeze n hmembers m (by rw [squeeze_skip]; omega)
      rw [squeeze_skip, ← skip_squeeze] at hagain
      exact .object hagain
    | noItems hskip =>
      rw [squeeze_cons (by decide) (by decide)]
      exact .noItems (skip_squeeze_of_skip hskip (by decide))
    | array hitems =>
      rw [squeeze_cons (by decide) (by decide), List.length_cons] at hm
      rw [squeeze_cons (by decide) (by decide)]
      have hagain := items_squeeze n hitems m (by rw [squeeze_skip]; omega)
      rw [squeeze_skip, ← skip_squeeze] at hagain
      exact .array hagain
    | scalar hfound => exact .scalar (scalar_squeeze hfound hend)
/-- So are the items of an array. -/
theorem items_squeeze (n : Nat) {cs left : List Char} {js : List Json} (h : items n cs = .ok (js, left))
    (m : Nat) (hm : 2 * (squeeze cs).length + 1 < m) : items m (squeeze cs) = .ok (js, squeeze left) := by
  obtain ⟨m, rfl⟩ : ∃ k, m = k + 1 := ⟨m - 1, by omega⟩
  match n with
  | 0 => exact absurd h (by simp [items, refuse])
  | n + 1 =>
    rw [items_iff]
    cases items_iff.mp h with
    | last hvalue hskip =>
      have hitem := value_squeeze n hvalue (ends_of_skip hskip (.inr (.inl rfl))) m (by omega)
      exact .last hitem (skip_squeeze_of_skip hskip (by decide))
    | more hvalue hskip hitems =>
      have hitem := value_squeeze n hvalue (ends_of_skip hskip (.inl rfl)) m (by omega)
      have hle := length_le_of_value hitem
      have hshorter := length_squeeze_of_skip hskip (by decide)
      have hmore := items_squeeze n hitems m (by rw [squeeze_skip]; omega)
      rw [squeeze_skip, ← skip_squeeze] at hmore
      exact .more hitem (skip_squeeze_of_skip hskip (by decide)) hmore
/-- So are the members of an object. -/
theorem members_squeeze (n : Nat) {cs left : List Char} {ms : List (String × Json)} (h : members n cs = .ok (ms, left))
    (m : Nat) (hm : 2 * (squeeze cs).length + 1 < m) : members m (squeeze cs) = .ok (ms, squeeze left) := by
  obtain ⟨m, rfl⟩ : ∃ k, m = k + 1 := ⟨m - 1, by omega⟩
  match n with
  | 0 => exact absurd h (by simp [members, refuse])
  | n + 1 =>
    rw [members_iff]
    cases members_iff.mp h with
    | last hname hcolon hvalue hskip =>
      obtain ⟨tail, htail, hagain, hshorter⟩ := name_squeeze hname hcolon
      rw [htail, List.length_cons] at hm
      have hitem := value_squeeze n hvalue (ends_of_skip hskip (.inr (.inr rfl))) m (by rw [squeeze_skip]; omega)
      rw [squeeze_skip, ← skip_squeeze] at hitem
      rw [htail]
      exact .last (hagain _) (skip_squeeze_of_skip hcolon (by decide)) hitem (skip_squeeze_of_skip hskip (by decide))
    | more hname hcolon hvalue hskip hmembers =>
      obtain ⟨tail, htail, hagain, hshorter⟩ := name_squeeze hname hcolon
      rw [htail, List.length_cons] at hm
      have hitem := value_squeeze n hvalue (ends_of_skip hskip (.inl rfl)) m (by rw [squeeze_skip]; omega)
      rw [squeeze_skip] at hitem
      have hle := length_le_of_value hitem
      have hshorter' := length_squeeze_of_skip hskip (by decide)
      have hmore := members_squeeze n hmembers m (by rw [squeeze_skip]; omega)
      rw [← skip_squeeze] at hitem
      rw [squeeze_skip, ← skip_squeeze] at hmore
      rw [htail]
      exact .more (hagain _) (skip_squeeze_of_skip hcolon (by decide)) hitem
        (skip_squeeze_of_skip hskip (by decide)) hmore
end

/-! ## 5. Whole texts -/

/-- A text that is read as a value is read as the same value when it is squeezed. -/
theorem readChars_squeeze {cs : List Char} {j : Json} (h : readChars cs = .ok j) : readChars (squeeze cs) = .ok j := by
  obtain ⟨left, hvalue, hskip⟩ := readChars_iff.mp h
  have hnil := squeeze_of_skip_eq_nil hskip
  have hagain := value_squeeze _ hvalue (by rw [hnil]; exact .nil) (fuelFor (squeeze cs))
    (by rw [squeeze_skip, fuelFor]; omega)
  rw [squeeze_skip, hnil] at hagain
  refine readChars_iff.mpr ⟨[], ?_, rfl⟩
  rw [skip_squeeze]
  exact hagain

/-- Squeezing breaks no string. -/
theorem holdsTexts_squeeze {n : Nat} {cs : List Char} (h : stringsAreTexts n cs = true) : HoldsTexts (squeeze cs) := by
  induction n generalizing cs with
  | zero =>
    cases cs with
    | nil => exact .nil
    | cons c r => exact absurd h (by simp [stringsAreTexts])
  | succ n ih =>
    cases cs with
    | nil => exact .nil
    | cons c r =>
      cases stringsAreTexts_iff.mp h with
      | quote hstring htexts hleft =>
        obtain ⟨tail, htail, hagain⟩ := characters_squeeze hstring
        rw [htail]
        exact .quote (hagain _) htexts (ih hleft)
      | cons hc hrest =>
        cases hblank : isBlank c with
        | true =>
          rw [squeeze_blank hblank]
          exact ih hrest
        | false =>
          rw [squeeze_cons hblank hc]
          exact .cons hc (ih hrest)

theorem readStrict_squeeze {cs : List Char} {j : Json} (h : readStrict cs = some j) :
    readStrict (squeeze cs) = some j := by
  obtain ⟨hread, htexts, hdepth⟩ := readStrict_iff.mp h
  exact readStrict_iff.mpr ⟨readChars_squeeze hread, holdsTexts_squeeze htexts, hdepth⟩

end Phrasebook.Json
