import Mathlib.Data.List.TakeWhile
import Phrasebook.Json.Limits
import Phrasebook.Proofs.JsonText
import Phrasebook.Proofs.Numerals

/-!
# What is read is nested

A walk over a JSON text needs to know only how many brackets are open and whether it is in a string. Whatever the reader
accepts, the walk goes over it and ends as it began. So a text that is cut within an object is no value, and no other
text makes it one by following it, unless it closes what was open.

Results:
1. `walk`: where a walk stands after a text, if the text can be part of a value at all.
2. `isBalanced_of_value`: what is read as a value leaves the walk as it was.
3. `walk_of_readChars`: a text that is read as an object closes at its end what its first brace opened.
4. `walk_cut`: a cut object is still open.
-/

namespace Phrasebook.Json

/-! ## 1. Walks -/

/-- How many brackets are open, and the place. -/
structure Nesting where
  depth : Nat
  place : Place
  deriving DecidableEq, Repr

/-- The characters of numbers, words and signs; no other stand outside strings but brackets and quotes. -/
def isBare (c : Char) : Bool := isBlank c || c.isDigit || ",:+-.eEInfityNaulrs".toList.contains c

/-- One step of a walk; nothing where no value can have the character. -/
def step : Nesting → Char → Option Nesting
  | ⟨depth, .outside⟩, c =>
    if c == '"' then some ⟨depth, .inside⟩
    else if c == '{' || c == '[' then some ⟨depth + 1, .outside⟩
    else if c == '}' || c == ']' then if depth = 0 then none else some ⟨depth - 1, .outside⟩
    else if isBare c then some ⟨depth, .outside⟩
    else none
  | ⟨depth, .inside⟩, c =>
    some ⟨depth, if c == '"' then .outside else if c == '\\' then .escaped else .inside⟩
  | ⟨depth, .escaped⟩, _ => some ⟨depth, .inside⟩

def walk : Nesting → List Char → Option Nesting
  | n, [] => some n
  | n, c :: cs => (step n c).bind fun n' => walk n' cs

theorem walk_append (n : Nesting) (cs ds : List Char) : walk n (cs ++ ds) = (walk n cs).bind fun n' => walk n' ds := by
  induction cs generalizing n with
  | nil => rfl
  | cons c cs ih =>
    rw [List.cons_append, walk, walk]
    cases step n c with
    | none => rfl
    | some n' => exact ih n'

/-- Brackets that were open before make no difference. -/
theorem step_deeper {n n' : Nesting} {c : Char} (h : step n c = some n') (more : Nat) :
    step ⟨n.depth + more, n.place⟩ c = some ⟨n'.depth + more, n'.place⟩ := by
  obtain ⟨depth, place⟩ := n
  cases place with
  | outside =>
    simp only [step] at h ⊢
    split at h
    · rw [← Option.some.inj h, if_pos ‹_›]
    · rw [if_neg ‹_›]
      split at h
      · rw [← Option.some.inj h, if_pos ‹_›, Nat.add_right_comm]
      · rw [if_neg ‹_›]
        split at h
        · rw [if_pos ‹_›]
          split at h
          · exact absurd h (by simp)
          · rename_i hopen
            have hdepth : depth + more - 1 = depth - 1 + more := by omega
            rw [← Option.some.inj h, if_neg (by omega), hdepth]
        · rw [if_neg ‹_›]
          split at h
          · rw [← Option.some.inj h, if_pos ‹_›]
          · exact absurd h (by simp)
  | inside | escaped =>
    rw [step, Option.some.injEq] at h
    rw [← h]
    rfl

theorem walk_deeper {n n' : Nesting} {cs : List Char} (h : walk n cs = some n') (more : Nat) :
    walk ⟨n.depth + more, n.place⟩ cs = some ⟨n'.depth + more, n'.place⟩ := by
  induction cs generalizing n with
  | nil =>
    rw [walk, Option.some.injEq] at h
    rw [h]
    rfl
  | cons c cs ih =>
    rw [walk] at h ⊢
    obtain ⟨m, hstep, hrest⟩ := Option.bind_eq_some_iff.mp h
    rw [step_deeper hstep more]
    exact ih hrest

/-- A text that a walk outside of strings leaves as it was. -/
def IsBalanced (cs : List Char) : Prop := ∀ depth, walk ⟨depth, .outside⟩ cs = some ⟨depth, .outside⟩

namespace IsBalanced

theorem nil : IsBalanced [] := fun _ => rfl

theorem append {cs ds : List Char} (h : IsBalanced cs) (h' : IsBalanced ds) : IsBalanced (cs ++ ds) := by
  intro depth
  rw [walk_append, h depth]
  exact h' depth

theorem of_bare {cs : List Char} (h : ∀ c ∈ cs, isBare c = true) : IsBalanced cs := by
  induction cs with
  | nil => exact nil
  | cons c cs ih =>
    obtain ⟨hc, hcs⟩ := List.forall_mem_cons.mp h
    have hne {d : Char} (hd : isBare d = false) : (c == d) = false := by
      rw [beq_eq_false_iff_ne]
      rintro rfl
      exact absurd hc (by rw [hd]; decide)
    intro depth
    rw [walk, step, hne (by decide), hne (by decide), hne (by decide), hne (by decide), hne (by decide), hc]
    exact ih hcs depth

theorem of_blank {cs : List Char} (h : ∀ c ∈ cs, isBlank c = true) : IsBalanced cs :=
  of_bare fun c hc => by rw [isBare, h c hc, Bool.true_or, Bool.true_or]

/-- A balanced text in brackets is balanced. -/
theorem bracketed {cs : List Char} (h : IsBalanced cs) {first last : Char} (hfirst : first = '{' ∨ first = '[')
    (hlast : last = '}' ∨ last = ']') : IsBalanced (first :: cs ++ [last]) := by
  intro depth
  have hopen : step ⟨depth, .outside⟩ first = some ⟨depth + 1, .outside⟩ := by
    rcases hfirst with rfl | rfl <;> rfl
  have hclose : step ⟨depth + 1, .outside⟩ last = some ⟨depth, .outside⟩ := by
    rcases hlast with rfl | rfl <;> rfl
  rw [List.cons_append, walk, hopen, Option.bind_some, walk_append, h, Option.bind_some, walk, hclose]
  rfl

/-- A string is balanced. -/
theorem quoted {cs : List Char} (h : ∀ depth, walk ⟨depth, .inside⟩ cs = some ⟨depth, .inside⟩) :
    IsBalanced ('"' :: cs ++ ['"']) := by
  intro depth
  rw [List.cons_append, walk]
  show walk ⟨depth, .inside⟩ (cs ++ ['"']) = _
  rw [walk_append, h]
  rfl

end IsBalanced

/-! ## 2. What is read -/

theorem exists_blanks (cs : List Char) : ∃ blanks, cs = blanks ++ skip cs ∧ ∀ c ∈ blanks, isBlank c = true :=
  ⟨cs.takeWhile isBlank, List.takeWhile_append_dropWhile.symm, fun _ hc => List.mem_takeWhile_imp hc⟩

/-- A sign between values. -/
theorem isBalanced_sign {c : Char} (h : isBare c = true) : IsBalanced [c] :=
  .of_bare fun _ hd => List.mem_singleton.mp hd ▸ h

/-! ### Words and numbers -/

theorem bare_words : ∀ w ∈ words, ∀ c ∈ w.1.toList, isBare c = true := by
  have h : (words.all fun w => w.1.toList.all isBare) = true := by decide
  simpa only [List.all_eq_true] using h

theorem bare_of_isNumeral {c : Char} (h : isNumeral c = true) : isBare c = true := by
  rw [isNumeral, Bool.or_eq_true] at h
  rcases h with hdigit | hsign
  · rw [isBare, hdigit, Bool.or_true, Bool.true_or]
  · have hsigns : ("+-.eE".toList.all isBare) = true := by decide
    exact List.all_eq_true.mp hsigns c (List.contains_iff_mem.mp hsign)

theorem scalar_spec {cs left : List Char} {j : Json} (h : (word? cs).or (number? cs) = some (j, left)) :
    ∃ read, cs = read ++ left ∧ ∀ c ∈ read, isBare c = true := by
  rcases Option.or_eq_some_iff.mp h with hword | ⟨-, hnumber⟩
  · obtain ⟨w, hmem, hcs, -⟩ := word?_read hword
    exact ⟨w.1.toList, hcs, bare_words w hmem⟩
  · obtain ⟨read, hcs, -, hnumerals, -⟩ := number?_read hnumber
    exact ⟨read, hcs, fun c hc => bare_of_isNumeral (hnumerals c hc)⟩

/-! ### Strings -/

theorem ne_of_hexValue? {c : Char} {n : Nat} (h : hexValue? c = some n) : c ≠ '"' ∧ c ≠ '\\' := by
  constructor
  · rintro rfl
    exact absurd h (by simp [hexValue?])
  · rintro rfl
    exact absurd h (by simp [hexValue?])

/-- Four hexadecimal digits keep a walk in its string. -/
theorem walk_fourDigits {a b c d : Char} {n : Nat} (h : fourDigits a b c d = some n) (depth : Nat) (cs : List Char) :
    walk ⟨depth, .inside⟩ (a :: b :: c :: d :: cs) = walk ⟨depth, .inside⟩ cs := by
  have hstep {x : Char} (hx : x ≠ '"' ∧ x ≠ '\\') : step ⟨depth, .inside⟩ x = some ⟨depth, .inside⟩ := by
    simp [step, hx.1, hx.2]
  simp only [fourDigits, bind, Option.bind_eq_some_iff] at h
  obtain ⟨_, ha, _, hb, _, hc, _, hd, -⟩ := h
  simp only [walk, hstep (ne_of_hexValue? ha), hstep (ne_of_hexValue? hb), hstep (ne_of_hexValue? hc),
    hstep (ne_of_hexValue? hd), Option.bind_some]

/-- An escape ends in the string that it is in. -/
theorem escape_spec {left r : List Char} {piece : Piece} {n : Nat} (h : escape left r = .ok (piece, n)) :
    ∃ e rest, r = e ++ rest ∧ e.length = n ∧ ∀ depth, walk ⟨depth, .escaped⟩ e = some ⟨depth, .inside⟩ := by
  rcases escape_cases h with
    ⟨c, e, rest, rfl, -, -, -, rfl⟩ | ⟨a, b, c, d, k, rest, rfl, -, hdigits, rfl | ⟨rfl, m, hahead⟩⟩
  · exact ⟨[c], rest, rfl, rfl, fun _ => rfl⟩
  · exact ⟨['u', a, b, c, d], rest, rfl, rfl, fun depth => walk_fourDigits hdigits depth []⟩
  · -- two numbers that are halves of one character
    obtain ⟨a', b', c', d', x, rest, rfl, hdigits'⟩ := numberAhead?_eq_some hahead
    refine ⟨['u', a, b, c, d, '\\', 'u', a', b', c', d'], x :: rest, rfl, rfl, fun depth => ?_⟩
    exact (walk_fourDigits hdigits depth _).trans (walk_fourDigits hdigits' depth [])

/-- A string is read up to a quote; what is read of it, but for the characters left out, stays in the string. -/
theorem characters_spec {start cs left : List Char} {n : Nat} {pieces : List Piece}
    (h : characters start n cs = .ok (pieces, left)) :
    ∃ read, cs = read ++ '"' :: left ∧ n ≤ read.length ∧
      ∀ depth, walk ⟨depth, .inside⟩ (read.drop n) = some ⟨depth, .inside⟩ := by
  induction cs generalizing n pieces with
  | nil => cases characters_iff.mp h
  | cons c r ih =>
    cases characters_iff.mp h with
    | taken hrest =>
      obtain ⟨read, hr, hn, hwalk⟩ := ih hrest
      exact ⟨c :: read, by rw [hr]; rfl, by simpa using hn, hwalk⟩
    | quote => exact ⟨[], rfl, Nat.le_refl 0, fun _ => rfl⟩
    | escaped hescape hrest =>
      obtain ⟨e, rest, hr, rfl, hwalkEscape⟩ := escape_spec hescape
      obtain ⟨read, hread, hlength, hwalk⟩ := ih hrest
      -- the characters left out are those of the escape
      have htake : read.take e.length = e := by
        have happend : (read ++ '"' :: left).take e.length = read.take e.length :=
          List.take_append_of_le_length hlength
        rw [← happend, ← hread, hr, List.take_left']
        rfl
      refine ⟨'\\' :: read, by rw [hread]; rfl, Nat.zero_le _, fun depth => ?_⟩
      rw [List.drop_zero, ← List.take_append_drop e.length read, htake]
      show walk ⟨depth, .escaped⟩ (e ++ read.drop e.length) = _
      rw [walk_append, hwalkEscape, Option.bind_some, hwalk]
    | plain hquote hslash _ hrest =>
      obtain ⟨read, hread, -, hwalk⟩ := ih hrest
      refine ⟨c :: read, by rw [hread]; rfl, Nat.zero_le _, fun depth => ?_⟩
      rw [List.drop_zero, walk, step, if_neg (by simpa using hquote), if_neg (by simpa using hslash)]
      exact hwalk depth

/-- A name or a string, from its opening quote on. -/
theorem isBalanced_of_characters {start r left : List Char} {pieces : List Piece}
    (h : characters start 0 r = .ok (pieces, left)) :
    ∃ read, r = read ++ '"' :: left ∧ IsBalanced ('"' :: read ++ ['"']) := by
  obtain ⟨read, hr, -, hwalk⟩ := characters_spec h
  exact ⟨read, hr, .quoted hwalk⟩

/-! ### Values -/

/-- Blanks before a balanced text do not matter. -/
theorem exists_balanced_of_skip {r left : List Char} (inner : List Char) (h : skip r = inner ++ left)
    (hinner : IsBalanced inner) : ∃ read, r = read ++ left ∧ IsBalanced read := by
  obtain ⟨blanks, hr, hblanks⟩ := exists_blanks r
  exact ⟨blanks ++ inner, by rw [hr, h, List.append_assoc], (IsBalanced.of_blank hblanks).append hinner⟩

/-- What is read in brackets. -/
theorem exists_bracketed {first last : Char} (hfirst : first = '{' ∨ first = '[') (hlast : last = '}' ∨ last = ']')
    {r left : List Char} (inner : List Char) (h : skip r = inner ++ last :: left) (hinner : IsBalanced inner) :
    ∃ read, first :: r = read ++ left ∧ IsBalanced read := by
  obtain ⟨read, hr, hread⟩ := exists_balanced_of_skip inner h hinner
  exact ⟨first :: read ++ [last], by rw [hr]; simp, hread.bracketed hfirst hlast⟩

/-- Nor do a sign and the blanks around it. -/
theorem exists_balanced_of_sign {c : Char} (hc : isBare c = true) {r rest left : List Char} (inner : List Char)
    (hsign : skip r = c :: rest) (h : skip rest = inner ++ left) (hinner : IsBalanced inner) :
    ∃ read, r = read ++ left ∧ IsBalanced read := by
  obtain ⟨more, hrest, hmore⟩ := exists_balanced_of_skip inner h hinner
  exact exists_balanced_of_skip ([c] ++ more) (by rw [hsign, hrest]; rfl) ((isBalanced_sign hc).append hmore)

/-- What is read of a member and after it. -/
theorem exists_balanced_of_member {q r r' item rest left : List Char} {pieces : List Piece}
    (hname : characters ('"' :: q) 0 q = .ok (pieces, r)) (hcolon : skip r = ':' :: r')
    (hitem : skip r' = item ++ (rest ++ left)) (hread : IsBalanced (item ++ rest)) :
    ∃ read, '"' :: q = read ++ left ∧ IsBalanced read := by
  obtain ⟨name, rfl, hquoted⟩ := isBalanced_of_characters hname
  rw [← List.append_assoc] at hitem
  obtain ⟨more, rfl, hmore⟩ := exists_balanced_of_sign (by decide) _ hcolon hitem hread
  exact ⟨'"' :: name ++ ['"'] ++ more, by simp, hquoted.append hmore⟩

mutual
/-- What is read as a value is balanced. -/
theorem isBalanced_of_value (n : Nat) {cs left : List Char} {j : Json} (h : value n cs = .ok (j, left)) :
    ∃ read, cs = read ++ left ∧ IsBalanced read := by
  match n with
  | 0 => exact absurd h (by simp [value, refuse])
  | n + 1 =>
    cases value_iff.mp h with
    | string hstring =>
      obtain ⟨read, hr, hread⟩ := isBalanced_of_characters hstring
      exact ⟨_, by rw [hr]; simp, hread⟩
    | noMembers hskip => exact exists_bracketed (.inl rfl) (.inl rfl) [] hskip .nil
    | object hmembers =>
      obtain ⟨read, hr, hread⟩ := isBalanced_of_members n hmembers
      exact exists_bracketed (.inl rfl) (.inl rfl) read hr hread
    | noItems hskip => exact exists_bracketed (.inr rfl) (.inr rfl) [] hskip .nil
    | array hitems =>
      obtain ⟨read, hr, hread⟩ := isBalanced_of_items n hitems
      exact exists_bracketed (.inr rfl) (.inr rfl) read hr hread
    | scalar hfound =>
      obtain ⟨read, hcs, hread⟩ := scalar_spec hfound
      exact ⟨read, hcs, .of_bare hread⟩
/-- So are the items of an array before its closing bracket. -/
theorem isBalanced_of_items (n : Nat) {cs left : List Char} {js : List Json} (h : items n cs = .ok (js, left)) :
    ∃ read, cs = read ++ ']' :: left ∧ IsBalanced read := by
  match n with
  | 0 => exact absurd h (by simp [items, refuse])
  | n + 1 =>
    cases items_iff.mp h with
    | last hvalue hskip =>
      obtain ⟨item, rfl, hitem⟩ := isBalanced_of_value n hvalue
      obtain ⟨read, rfl, hread⟩ := exists_balanced_of_skip [] hskip .nil
      exact ⟨item ++ read, (List.append_assoc ..).symm, hitem.append hread⟩
    | more hvalue hskip hitems =>
      obtain ⟨item, rfl, hitem⟩ := isBalanced_of_value n hvalue
      obtain ⟨inner, hrest, hinner⟩ := isBalanced_of_items n hitems
      obtain ⟨read, rfl, hread⟩ := exists_balanced_of_sign (by decide) inner hskip hrest hinner
      exact ⟨item ++ read, (List.append_assoc ..).symm, hitem.append hread⟩
/-- So are the members of an object before its closing brace. -/
theorem isBalanced_of_members (n : Nat) {cs left : List Char} {ms : List (String × Json)}
    (h : members n cs = .ok (ms, left)) : ∃ read, cs = read ++ '}' :: left ∧ IsBalanced read := by
  match n with
  | 0 => exact absurd h (by simp [members, refuse])
  | n + 1 =>
    cases members_iff.mp h with
    | last hname hcolon hvalue hskip =>
      obtain ⟨item, hrest, hitem⟩ := isBalanced_of_value n hvalue
      obtain ⟨read, rfl, hread⟩ := exists_balanced_of_skip [] hskip .nil
      exact exists_balanced_of_member hname hcolon hrest (hitem.append hread)
    | more hname hcolon hvalue hskip hmembers =>
      obtain ⟨item, hrest, hitem⟩ := isBalanced_of_value n hvalue
      obtain ⟨inner, hmore, hinner⟩ := isBalanced_of_members n hmembers
      obtain ⟨read, rfl, hread⟩ := exists_balanced_of_sign (by decide) inner hskip hmore hinner
      exact exists_balanced_of_member hname hcolon hrest (hitem.append hread)
end

/-! ## 3. Whole texts -/

/-- Over a text that is read as a value a walk goes, and all that it opens it closes. -/
theorem walk_of_readChars {cs : List Char} {j : Json} (h : readChars cs = .ok j) :
    walk ⟨0, .outside⟩ cs = some ⟨0, .outside⟩ := by
  obtain ⟨left, hvalue, hend⟩ := readChars_iff.mp h
  obtain ⟨read, hread, hbalanced⟩ := isBalanced_of_value _ hvalue
  obtain ⟨blanks, hleft, hblanks⟩ := exists_blanks left
  rw [hend, List.append_nil] at hleft
  have hskip : skip cs = read ++ blanks ++ [] := by rw [hread, hleft, List.append_nil]
  obtain ⟨text, hcs, htext⟩ := exists_balanced_of_skip _ hskip (hbalanced.append (.of_blank hblanks))
  rw [hcs, List.append_nil]
  exact htext 0

theorem walk_of_readStrict {cs : List Char} {j : Json} (h : readStrict cs = some j) :
    walk ⟨0, .outside⟩ cs = some ⟨0, .outside⟩ :=
  walk_of_readChars (readStrict_iff.mp h).1

/-! ## 4. Cut texts -/

/-- A text in brackets that is cut is still open where it ends. -/
theorem walk_cut {inner cut : List Char} (h : IsBalanced inner) (hcut : cut <+: '{' :: inner ++ ['}']) (hne : cut ≠ [])
    (hproper : cut ≠ '{' :: inner ++ ['}']) : ∃ depth place, walk ⟨0, .outside⟩ cut = some ⟨depth + 1, place⟩ := by
  obtain ⟨c, rest, rfl⟩ := List.exists_cons_of_ne_nil hne
  rw [List.cons_append, List.cons_prefix_cons] at hcut
  obtain ⟨rfl, hrest⟩ := hcut
  rw [List.prefix_concat_iff] at hrest
  rcases hrest with heq | ⟨more, rfl⟩
  · exact absurd (by rw [heq]; rfl) hproper
  · have hwalk := h 0
    rw [walk_append] at hwalk
    obtain ⟨n, hn, -⟩ := Option.bind_eq_some_iff.mp hwalk
    exact ⟨n.depth, n.place, walk_deeper hn 1⟩

/-- What a layout puts between the braces of an object is balanced. -/
theorem isBalanced_members {layout : Layout} (hl : layout.IsStandard) (level : Nat) {m : String × Json}
    {ms : List (String × Json)} (hm : membersArePlain (m :: ms) = true) :
    ∃ inner, valueText layout level (object (m :: ms)) = '{' :: inner ++ ['}'] ∧ IsBalanced inner := by
  have hmembers := members_memberText hl (level + 1) m ms hm
    ((memberText layout (level + 1) m ms).length + 2) level [] (by omega)
  obtain ⟨read, hread, hbalanced⟩ := isBalanced_of_members _ hmembers
  rw [← List.append_assoc] at hread
  refine ⟨lineBreak layout (level + 1) ++ read, ?_, (IsBalanced.of_blank (isBlank_lineBreak layout _)).append hbalanced⟩
  rw [valueText_object, ← List.append_cancel_right hread]
  simp

end Phrasebook.Json
