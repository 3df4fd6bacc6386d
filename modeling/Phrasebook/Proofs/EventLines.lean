import Mathlib.Data.List.Basic
import Phrasebook.Event.Line
import Phrasebook.Proofs.Entries

/-!
# Events on one line

What is put around the values of an event has no line break in it: neither the bars, the colors and the blanks that fill
up the level, nor numbers, nor values within others, which are shown in quotes. The texts of an event are shown as they
are, and so are its strings and the names of its fields: where one of them breaks the line, so does the event, and what
comes after the break looks like an event of its own.

Results:
1. `not_mem_innerText`: no value within another breaks a line, and of those that stand alone only strings do.
2. `mem_levelText_iff`: lower case neither makes nor loses a line break.
3. `mem_lineText_iff`: a line break of an event is one of a text that is shown as it is.
4. `isOneLine_lineText_iff`: a line is one just if each of these texts is.
5. `isOneLine_render_iff`: which events have a line without line breaks.
-/

namespace Phrasebook.Event

open Text (quotedChar hexDigit)

/-- The characters at which a text is cut into lines. -/
def lineBreaks : List Char :=
  ['\n', '\x0b', '\x0c', '\r', '\x1c', '\x1d', '\x1e', '\u0085', '\u2028', '\u2029']

/-- A text in which no line ends. -/
def IsOneLine (text : String) : Prop := ∀ c ∈ lineBreaks, c ∉ text.toList

-- the instance looks at the line breaks alone, not at all characters
instance (text : String) : Decidable (IsOneLine text) := List.decidableBAll (· ∉ text.toList) lineBreaks

/-- What is shown of a value as it is: strings that stand alone. -/
def asGiven : Json → Option String
  | .string s => some s
  | .broken s => some s
  | _ => none

theorem asGiven_eq (j : Json) : asGiven j = j.text? := by cases j <;> rfl

/-- What is shown of a field as it is: its name, and its value if that is a string. -/
def fieldTexts (field : String × Json) : List String := field.1 :: (asGiven field.2).toList

/-- The texts before the fields that are shown as they are. -/
def headTexts (style : LineStyle) (time level text : String) : List String :=
  (if style.showTool then [style.tool] else []) ++ [time, level, text]

/-- The texts of an event that are shown as they are. -/
def givenTexts (style : LineStyle) (time level text : String) (fields : List (String × Json)) : List String :=
  headTexts style time level text ++ (fields.filter isShown).flatMap fieldTexts

section

variable {c : Char} (hc : c ∈ lineBreaks)

include hc

/-- What is checked of the line breaks. -/
theorem of_all {p : Char → Bool} (h : lineBreaks.all p = true) : p c = true := List.all_eq_true.mp h c hc

/-- What is written with other characters has no line break in it. -/
theorem not_mem_of_isOneLine {text : String} (h : IsOneLine text) : c ∉ text.toList := h c hc

theorem ne_of_not_mem {d : Char} (h : d ∉ lineBreaks) : c ≠ d := fun heq => h (heq ▸ hc)

/-! ## 1. Values -/

theorem not_mem_digits (n : Nat) : c ∉ Nat.toDigits 10 n := by
  have hdigit := of_all hc (p := fun d => !d.isDigit) (by decide)
  exact Decimal.not_mem_toDigits ((Bool.not_eq_true' _).mp hdigit) n

theorem not_mem_toString (n : Int) : c ∉ (toString n).toList := by
  rw [Int.toString_eq_repr]
  cases n with
  | ofNat n =>
    show c ∉ n.repr.toList
    rw [Nat.toList_repr]
    exact not_mem_digits hc n
  | negSucc n =>
    show c ∉ ("-" ++ n.succ.repr).toList
    rw [String.toList_append, Nat.toList_repr, List.mem_append, not_or]
    exact ⟨not_mem_of_isOneLine hc (by decide), not_mem_digits hc _⟩

theorem not_mem_exponentText (e : Int) : c ∉ Decimal.exponentText e := by
  have hdigits : c ∉ Decimal.digitsOf e.natAbs := not_mem_digits hc _
  have hsign {d : Char} (hd : d ∉ lineBreaks) : c ∉ ['e', d] := by
    rw [List.mem_pair, not_or]
    exact ⟨ne_of_not_mem hc (by decide), ne_of_not_mem hc hd⟩
  rw [Decimal.exponentText, List.mem_append, not_or]
  constructor
  · split
    · exact hsign (by decide)
    · exact hsign (by decide)
  · split
    · exact fun hmem => (List.mem_cons.mp hmem).elim (ne_of_not_mem hc (by decide)) hdigits
    · exact hdigits

theorem not_mem_positional {digits : List Char} (h : c ∉ digits) (exponent : Int) :
    c ∉ Decimal.positional digits exponent := by
  have hzero : c ≠ '0' := ne_of_not_mem hc (by decide)
  have hpoint : c ≠ '.' := ne_of_not_mem hc (by decide)
  have htake (n : Nat) : c ∉ digits.take n := fun hmem => h (List.mem_of_mem_take hmem)
  have hdrop (n : Nat) : c ∉ digits.drop n := fun hmem => h (List.mem_of_mem_drop hmem)
  rw [Decimal.positional]
  dsimp only
  split
  · split
    · simp [hzero, hpoint, h]
    · split
      · simp [hzero, hpoint, h]
      · simp [hpoint, htake, hdrop]
  · have hexponent := not_mem_exponentText hc (digits.length + exponent - 1)
    split
    · simp [htake, hexponent]
    · simp only [List.mem_append, List.mem_cons, not_or]
      exact ⟨⟨htake 1, hpoint, hdrop 1⟩, hexponent⟩

theorem not_mem_shortestText (x : Decimal.Binary64) : c ∉ (Decimal.shortestText Json.shownSpelling x).toList := by
  have hsign (negative : Bool) : c ∉ (Decimal.signText negative).toList := by
    cases negative <;> exact not_mem_of_isOneLine hc (by decide)
  cases x with
  | nan => exact not_mem_of_isOneLine hc (by decide)
  | infinite negative =>
    rw [Decimal.shortestText, String.toList_append, List.mem_append, not_or]
    exact ⟨hsign negative, not_mem_of_isOneLine hc (by decide)⟩
  | finite negative m e =>
    rw [Decimal.shortestText]
    split
    · rw [String.toList_append, List.mem_append, not_or]
      exact ⟨hsign negative, not_mem_of_isOneLine hc (by decide)⟩
    · dsimp only
      rw [String.toList_append, List.mem_append, not_or, String.toList_ofList]
      refine ⟨hsign negative, not_mem_positional hc (fun hmem => ?_) _⟩
      -- the digits that are kept are digits
      rw [Decimal.withoutZeros, List.mem_reverse] at hmem
      exact not_mem_digits hc _ (List.mem_reverse.mp ((List.dropWhile_suffix _).subset hmem))

theorem not_mem_hexDigits (count value : Nat) : c ∉ Text.hexDigits count value := by
  intro hmem
  obtain ⟨n, hn, rfl⟩ := Text.mem_hexDigits hmem
  have hnone : ∀ n < 16, hexDigit n ∉ lineBreaks := by decide
  exact hnone n hn hc

/-- Characters without a printed form are escaped, and line breaks have none. -/
theorem not_mem_quotedChar {quote : Char} (hquote : quote ∉ lineBreaks) (d : Char) : c ∉ quotedChar quote d := by
  have hslash : c ≠ '\\' := ne_of_not_mem hc (by decide)
  have hescape {e : Char} (he : e ∉ lineBreaks) : c ∉ ['\\', e] := by
    rw [List.mem_pair, not_or]
    exact ⟨hslash, ne_of_not_mem hc he⟩
  have hhex {e : Char} (he : e ∉ lineBreaks) (count : Nat) : c ∉ '\\' :: e :: Text.hexDigits count d.toNat := by
    rw [List.mem_cons, List.mem_cons, not_or, not_or]
    exact ⟨hslash, ne_of_not_mem hc he, not_mem_hexDigits hc _ _⟩
  have hrange := of_all hc (p := fun d => !(' ' ≤ d && d ≤ '~')) (by decide)
  have hprintable := of_all hc (p := fun d => !Text.isPrintable d) (by decide +kernel)
  rw [Bool.not_eq_true'] at hrange hprintable
  rw [quotedChar]
  split_ifs with hmarked _ _ _ hplain hprinted
  · rw [Bool.or_eq_true, beq_iff_eq, beq_iff_eq] at hmarked
    rcases hmarked with rfl | rfl
    · exact hescape hquote
    · exact hescape (by decide)
  · exact hescape (by decide)
  · exact hescape (by decide)
  · exact hescape (by decide)
  · rw [List.mem_singleton]
    rintro rfl
    exact absurd hplain (by simp [hrange])
  · rw [List.mem_singleton]
    rintro rfl
    exact absurd hprinted (by simp [hprintable])
  · exact hhex (by decide) 2
  · exact hhex (by decide) 4
  · exact hhex (by decide) 8

theorem not_mem_quoted (s : String) : c ∉ (Text.quoted s).toList := by
  rw [Text.quoted, String.toList_ofList]
  generalize hquote : (if s.toList.contains '\'' && !s.toList.contains '"' then '"' else '\'') = quote
  have hplain : quote ∉ lineBreaks := by
    rw [← hquote]
    split <;> decide
  simp only [List.cons_append, List.mem_cons, List.mem_append, List.mem_flatMap, List.not_mem_nil, or_false, not_or,
    not_exists, not_and]
  exact ⟨ne_of_not_mem hc hplain, fun d _ => not_mem_quotedChar hc hplain d, ne_of_not_mem hc hplain⟩

omit hc in
/-- Between texts with something else between them a line breaks just where it does in one of them. -/
theorem mem_intercalate_iff {separator : String} (h : c ∉ separator.toList) (texts : List String) :
    c ∈ (separator.intercalate texts).toList ↔ ∃ text ∈ texts, c ∈ text.toList := by
  induction texts with
  | nil => simp
  | cons text texts ih =>
    cases texts with
    | nil => simp
    | cons next texts =>
      rw [String.intercalate_cons_cons, String.toList_append, String.toList_append, List.mem_append, List.mem_append,
        ih]
      simp [h]

theorem not_mem_intercalate (separator : String) (h : IsOneLine separator) {texts : List String}
    (htexts : ∀ text ∈ texts, c ∉ text.toList) : c ∉ (separator.intercalate texts).toList := by
  rw [mem_intercalate_iff (h c hc)]
  rintro ⟨text, hmem, hbreak⟩
  exact htexts text hmem hbreak

/-- What is put around a text without line breaks. -/
theorem not_mem_append {before text after : String} (hbefore : IsOneLine before) (hafter : IsOneLine after)
    (h : c ∉ text.toList) : c ∉ (before ++ text ++ after).toList := by
  rw [String.toList_append, String.toList_append, List.mem_append, List.mem_append, not_or, not_or]
  exact ⟨⟨hbefore c hc, h⟩, hafter c hc⟩

end

mutual
/-- No value within another breaks a line. -/
theorem not_mem_innerText {c : Char} (hc : c ∈ lineBreaks) : ∀ j : Json, c ∉ j.innerText.toList
  | .null => not_mem_of_isOneLine hc (by decide)
  | .bool true => not_mem_of_isOneLine hc (by decide)
  | .bool false => not_mem_of_isOneLine hc (by decide)
  | .integer n => not_mem_toString hc n
  | .decimal x => not_mem_shortestText hc x
  | .string s => not_mem_quoted hc s
  | .broken s => not_mem_quoted hc s
  | .array items => by
    rw [Json.innerText]
    have hitems := not_mem_intercalate hc ", " (by decide) (not_mem_innerTexts hc items)
    exact not_mem_append hc (by decide) (by decide) hitems
  | .object members => by
    rw [Json.innerText]
    have hmembers := not_mem_intercalate hc ", " (by decide) (not_mem_memberTexts hc members)
    exact not_mem_append hc (by decide) (by decide) hmembers
theorem not_mem_innerTexts {c : Char} (hc : c ∈ lineBreaks) :
    ∀ items : List Json, ∀ text ∈ Json.innerTexts items, c ∉ text.toList
  | [] => fun _ hmem => absurd hmem List.not_mem_nil
  | j :: js => by
    rw [Json.innerTexts]
    exact List.forall_mem_cons.mpr ⟨not_mem_innerText hc j, not_mem_innerTexts hc js⟩
theorem not_mem_memberTexts {c : Char} (hc : c ∈ lineBreaks) :
    ∀ members : List (String × Json), ∀ text ∈ Json.memberTexts members, c ∉ text.toList
  | [] => fun _ hmem => absurd hmem List.not_mem_nil
  | (name, j) :: ms => by
    rw [Json.memberTexts]
    refine List.forall_mem_cons.mpr ⟨?_, not_mem_memberTexts hc ms⟩
    rw [String.toList_append, String.toList_append, List.mem_append, List.mem_append, not_or, not_or]
    exact ⟨⟨not_mem_quoted hc name, not_mem_of_isOneLine hc (by decide)⟩, not_mem_innerText hc j⟩
end

section

variable {c : Char} (hc : c ∈ lineBreaks)

include hc

/-- Only strings that stand alone are shown as they are. -/
theorem mem_shown_iff (j : Json) : c ∈ j.shown.toList ↔ ∃ s ∈ asGiven j, c ∈ s.toList := by
  rw [Json.shown, ← asGiven_eq]
  cases hgiven : asGiven j with
  | some s => simp
  | none => simpa using not_mem_innerText hc j

/-! ## 2. Levels -/

/-- The counterparts of letters are no line breaks. -/
theorem toNat_ne_of_contains {run : Text.CaseRun} (hrun : run ∈ Text.caseRuns) {n : Nat} (h : run.contains n = true) :
    c.toNat ≠ run.lower + (n - run.first) := by
  have hruns := of_all hc (p := fun d => Text.caseRuns.all fun run =>
    d.toNat < run.lower || run.lower + (run.last - run.first) < d.toNat) (by decide +kernel)
  have hrange := List.all_eq_true.mp hruns run hrun
  rw [Bool.or_eq_true, decide_eq_true_eq, decide_eq_true_eq] at hrange
  rw [Text.CaseRun.contains, Bool.and_eq_true, Bool.and_eq_true, decide_eq_true_eq, decide_eq_true_eq] at h
  omega

omit hc in
theorem toNat_eq_of_ofNat_eq {n : Nat} (h : Char.ofNat n = c) (hpos : c.toNat ≠ 0) : c.toNat = n := by
  by_cases hvalid : n.isValidChar
  · rw [← h, Char.ofNat, dif_pos hvalid]
    rfl
  · rw [← h, Char.ofNat, dif_neg hvalid] at hpos
    exact absurd rfl hpos

/-- A line break is its own counterpart, and that of nothing else. -/
theorem eq_lowerChar_iff (d : Char) : c = Text.lowerChar d ↔ c = d := by
  have hsame := of_all hc (p := fun d => d == Text.lowerChar d) (by decide +kernel)
  refine ⟨fun h => ?_, fun h => h ▸ beq_iff_eq.mp hsame⟩
  rw [Text.lowerChar] at h
  split at h
  · rename_i hascii
    have hlower : ∀ n < 0x80, (Char.ofNat n).toLower ∈ lineBreaks → (Char.ofNat n).toLower = Char.ofNat n := by
      decide +kernel
    have hd := hlower d.toNat hascii
    rw [Char.ofNat_toNat, ← h] at hd
    exact hd hc
  · split at h
    · rename_i run hfind
      have hpos := of_all hc (p := fun d => d.toNat != 0) (by decide)
      have hcontains : run.contains d.toNat = true :=
        List.find?_some (p := fun run : Text.CaseRun => run.contains d.toNat) hfind
      have hne := toNat_ne_of_contains hc (List.mem_of_find?_eq_some hfind) hcontains
      exact absurd (toNat_eq_of_ofNat_eq h.symm (bne_iff_ne.mp hpos)) hne
    · exact h

theorem mem_lowerFrom_iff (afterLetter : Bool) (cs : List Char) : c ∈ Text.lowerFrom afterLetter cs ↔ c ∈ cs := by
  have hne {d : Char} (hd : d ∉ lineBreaks) : c ≠ d := ne_of_not_mem hc hd
  induction cs generalizing afterLetter with
  | nil => rfl
  | cons d cs ih =>
    rw [Text.lowerFrom]
    split_ifs with hdotted hsigma
    · rw [beq_iff_eq] at hdotted
      simp only [List.mem_cons, ih, hdotted, hne (d := 'i') (by decide), hne (d := '\u0307') (by decide),
        hne (d := '\u0130') (by decide), false_or]
    · rw [beq_iff_eq] at hsigma
      have hfinal : c ≠ '\u03c2' ∧ c ≠ '\u03c3' := ⟨hne (by decide), hne (by decide)⟩
      dsimp only
      split
      · simp only [List.mem_cons, ih, hsigma, hfinal.1, hne (d := '\u03a3') (by decide), false_or]
      · simp only [List.mem_cons, ih, hsigma, hfinal.2, hne (d := '\u03a3') (by decide), false_or]
    · simp only [List.mem_cons, ih, eq_lowerChar_iff hc]

/-- A level is shown with the line breaks that are in its name. -/
theorem mem_levelText_iff (level : String) : c ∈ (levelText level).toList ↔ c ∈ level.toList := by
  have hlower : c ∈ (Text.lowerString level).toList ↔ c ∈ level.toList := by
    rw [Text.lowerString, String.toList_ofList, Text.lower, mem_lowerFrom_iff hc]
  rw [levelText]
  split
  · rename_i hwarning
    rw [beq_iff_eq] at hwarning
    rw [← hlower, hwarning]
    exact iff_of_false (not_mem_of_isOneLine hc (by decide)) (not_mem_of_isOneLine hc (by decide))
  · exact hlower

theorem mem_padded_iff (width : Nat) (text : String) : c ∈ (padded width text).toList ↔ c ∈ text.toList := by
  have hblanks (n : Nat) : c ∉ ("".pushn ' ' n).toList := by
    rw [String.pushn_eq_repeat_push]
    induction n with
    | zero => exact List.not_mem_nil
    | succ n ih =>
      rw [Nat.repeat, String.toList_push, List.mem_append, List.mem_singleton, not_or]
      exact ⟨ih, ne_of_not_mem hc (by decide)⟩
  rw [padded, String.toList_append, List.mem_append, or_iff_left (hblanks _)]

/-! ## 3. Lines -/

theorem mem_paint_iff (color : Color) (text : String) : c ∈ (color.paint text).toList ↔ c ∈ text.toList := by
  have hstart : IsOneLine color.start := by cases color <;> decide +kernel
  rw [Color.paint, String.toList_append, String.toList_append, List.mem_append, List.mem_append,
    or_iff_left (not_mem_of_isOneLine hc (by decide)), or_iff_right (hstart c hc)]

theorem mem_fieldText_iff (colored : Bool) (field : String × Json) :
    c ∈ (fieldText colored field.1 field.2).toList ↔ ∃ given ∈ fieldTexts field, c ∈ given.toList := by
  have hpainted : c ∈ (fieldText colored field.1 field.2).toList ↔ c ∈ field.1.toList ∨ c ∈ field.2.shown.toList := by
    have hequals : c ∉ "=".toList := not_mem_of_isOneLine hc (by decide)
    unfold fieldText
    rw [String.toList_append, String.toList_append, List.mem_append, List.mem_append, or_iff_left hequals]
    refine or_congr_right ?_
    split
    · split
      · exact mem_paint_iff hc _ _
      · exact mem_paint_iff hc _ _
      · exact mem_paint_iff hc _ _
      · exact Iff.rfl
    · exact Iff.rfl
  rw [hpainted, mem_shown_iff hc, fieldTexts]
  simp only [List.mem_cons, Option.mem_toList, Option.mem_def, exists_eq_or_imp]

theorem mem_fieldsText_iff (colored : Bool) (fields : List (String × Json)) :
    c ∈ (fieldsText colored fields).toList ↔
      ∃ given ∈ (fields.filter isShown).flatMap fieldTexts, c ∈ given.toList := by
  have hjoined : c ∈ (" ".intercalate ((fields.filter isShown).map fun f => fieldText colored f.1 f.2)).toList ↔
      ∃ given ∈ (fields.filter isShown).flatMap fieldTexts, c ∈ given.toList := by
    rw [mem_intercalate_iff (not_mem_of_isOneLine hc (by decide))]
    constructor
    · rintro ⟨text, htext, hbreak⟩
      obtain ⟨field, hfield, rfl⟩ := List.mem_map.mp htext
      obtain ⟨given, hgiven, hbreak⟩ := (mem_fieldText_iff hc colored field).mp hbreak
      exact ⟨given, List.mem_flatMap.mpr ⟨field, hfield, hgiven⟩, hbreak⟩
    · rintro ⟨given, hgiven, hbreak⟩
      obtain ⟨field, hfield, hgiven⟩ := List.mem_flatMap.mp hgiven
      exact ⟨_, List.mem_map_of_mem hfield, (mem_fieldText_iff hc colored field).mpr ⟨given, hgiven, hbreak⟩⟩
  rw [fieldsText]
  split
  · rw [mem_paint_iff hc, hjoined]
  · exact hjoined

omit hc in
def barredTexts (style : LineStyle) (time level text : String) : List String :=
  let level := levelText level
  let parts :=
    if style.colored then
      [Color.violet.paint style.tool, Color.slate.paint time, (levelColor level).paint (padded 5 level), text]
    else [style.tool, time, padded 5 level, text]
  if style.showTool then parts else parts.drop 1

theorem mem_barredTexts_iff (style : LineStyle) (time level text : String) :
    c ∈ (" | ".intercalate (barredTexts style time level text)).toList ↔
      ∃ given ∈ headTexts style time level text, c ∈ given.toList := by
  rw [mem_intercalate_iff (not_mem_of_isOneLine hc (by decide)), barredTexts, headTexts]
  cases style.colored <;> cases style.showTool <;>
    simp [mem_paint_iff hc, mem_padded_iff hc, mem_levelText_iff hc]

omit hc in
theorem lineText_none (style : LineStyle) (time level text : String) (fields : List (String × Json)) :
    lineText style time level text fields none =
      if (fieldsText style.colored fields).isEmpty then " | ".intercalate (barredTexts style time level text)
      else " | ".intercalate (barredTexts style time level text) ++ " " ++ fieldsText style.colored fields := rfl

/-- A line break in the line of an event is one in a text that is shown as it is. -/
theorem mem_lineText_iff (style : LineStyle) (time level text : String) (fields : List (String × Json)) :
    c ∈ (lineText style time level text fields none).toList ↔
      ∃ given ∈ givenTexts style time level text fields, c ∈ given.toList := by
  have hblank : c ∉ " ".toList := not_mem_of_isOneLine hc (by decide)
  rw [lineText_none, givenTexts]
  simp only [List.mem_append, or_and_right, exists_or]
  rw [← mem_barredTexts_iff hc, ← mem_fieldsText_iff hc style.colored]
  split
  · rename_i hempty
    rw [String.isEmpty_iff] at hempty
    rw [hempty, or_iff_left]
    exact List.not_mem_nil
  · rw [String.toList_append, String.toList_append, List.mem_append, List.mem_append, or_iff_left hblank]

end

/-! ## 4. One event, one line -/

/-- An event is on one line just if all texts are that are shown as they are: the tool, the time, the level and the
text, and the names and the strings of the fields. -/
theorem isOneLine_lineText_iff (style : LineStyle) (time level text : String) (fields : List (String × Json)) :
    IsOneLine (lineText style time level text fields none) ↔
      ∀ given ∈ givenTexts style time level text fields, IsOneLine given := by
  constructor
  · intro h given hgiven c hc hbreak
    exact h c hc ((mem_lineText_iff hc style time level text fields).mpr ⟨given, hgiven, hbreak⟩)
  · intro h c hc hbreak
    obtain ⟨given, hgiven, hbreak⟩ := (mem_lineText_iff hc style time level text fields).mp hbreak
    exact h given hgiven c hc hbreak

/-! ## 5. Events -/

/-- An event has a line if its level is a text, and without colors its time too. -/
theorem render_eq_ok_iff {style : LineStyle} {clock method : String} {event : Entries String Json}
    {trace : Option Trace} {line : String} :
    render style clock method event trace = .ok line ↔
      ∃ level, asGiven (levelOf method event) = some level ∧
        (style.colored = true ∨ (asGiven (timeOf clock event)).isSome) ∧
        lineText style (timeOf clock event).shown level (wordingOf event).shown (fieldsOf event) trace = line := by
  rw [render, asGiven_eq, asGiven_eq, ← Bool.or_eq_true]
  cases (levelOf method event).text? with
  | none => simp
  | some level =>
    dsimp only
    split <;> rename_i hpossible <;> simp [hpossible]

/-- The texts of an event that are shown as they are, of the values that it has for time, level, wording and fields. -/
def eventTexts (style : LineStyle) (clock method : String) (event : Entries String Json) : List String :=
  (if style.showTool then [style.tool] else []) ++
    [timeOf clock event, levelOf method event, wordingOf event].filterMap asGiven ++
    ((fieldsOf event).filter isShown).flatMap fieldTexts

theorem isOneLine_shown_iff (j : Json) : IsOneLine j.shown ↔ ∀ s ∈ asGiven j, IsOneLine s := by
  constructor
  · intro h s hs c hc hbreak
    exact h c hc ((mem_shown_iff hc j).mpr ⟨s, hs, hbreak⟩)
  · intro h c hc hbreak
    obtain ⟨s, hs, hbreak⟩ := (mem_shown_iff hc j).mp hbreak
    exact h s hs c hc hbreak

/-- Time and wording are shown as they are if they are texts, and otherwise on one line. -/
theorem isOneLine_eventTexts_iff {style : LineStyle} {clock method level : String} {event : Entries String Json}
    (hlevel : asGiven (levelOf method event) = some level) :
    (∀ given ∈ givenTexts style (timeOf clock event).shown level (wordingOf event).shown (fieldsOf event),
      IsOneLine given) ↔ ∀ given ∈ eventTexts style clock method event, IsOneLine given := by
  have hparts : (∀ given ∈ [timeOf clock event, levelOf method event, wordingOf event].filterMap asGiven,
      IsOneLine given) ↔
      ∀ given ∈ [(timeOf clock event).shown, level, (wordingOf event).shown], IsOneLine given := by
    simp [isOneLine_shown_iff, hlevel, or_imp, forall_and]
  rw [givenTexts, headTexts, eventTexts]
  simp only [List.forall_mem_append, hparts]

/-- For any event, with and without colors: it has a line without line breaks just if its level is a text (without
colors also its time) and all texts are on one line that are shown as they are. Values of other kinds never break it. -/
theorem isOneLine_render_iff (style : LineStyle) (clock method : String) (event : Entries String Json) :
    (∃ line, render style clock method event none = .ok line ∧ IsOneLine line) ↔
      (asGiven (levelOf method event)).isSome ∧
        (style.colored = true ∨ (asGiven (timeOf clock event)).isSome) ∧
        ∀ given ∈ eventTexts style clock method event, IsOneLine given := by
  constructor
  · rintro ⟨line, hrender, hline⟩
    obtain ⟨level, hlevel, htime, rfl⟩ := render_eq_ok_iff.mp hrender
    rw [isOneLine_lineText_iff, isOneLine_eventTexts_iff hlevel] at hline
    exact ⟨Option.isSome_iff_exists.mpr ⟨level, hlevel⟩, htime, hline⟩
  · rintro ⟨hlevel, htime, hgiven⟩
    obtain ⟨level, hlevel⟩ := Option.isSome_iff_exists.mp hlevel
    refine ⟨_, render_eq_ok_iff.mpr ⟨level, hlevel, htime, rfl⟩, ?_⟩
    rwa [isOneLine_lineText_iff, isOneLine_eventTexts_iff hlevel]

/-- Tells that a file cannot be read whose name holds a line feed. -/
def unreadable : Entries String Json :=
  [("event", .string "Skipping unparseable source"), ("timestamp", .string "10:42:01"), ("level", .string "warning"),
    ("file", .string "/app/a\nb.jsx"), ("reason", .string "syntax error")]

theorem not_isOneLine_of_path :
    ∃ line, render .standard "10:42:01" "warning" unreadable none = .ok line ∧ ¬ IsOneLine line := by
  refine ⟨_, rfl, fun hline => ?_⟩
  obtain ⟨-, -, hgiven⟩ := (isOneLine_render_iff .standard "10:42:01" "warning" unreadable).mp ⟨_, rfl, hline⟩
  exact absurd (hgiven "/app/a\nb.jsx" (by decide +kernel)) (by decide)

end Phrasebook.Event
