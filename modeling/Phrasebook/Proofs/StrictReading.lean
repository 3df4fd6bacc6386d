import Phrasebook.Proofs.Nesting

/-!
# What the strict reader refuses

The strict reader refuses a text that has half of a surrogate pair in one of its strings, be it a value or the name of a
member, and a value that is nested too deep. Nothing that is written without numbers is refused for its strings.

Results:
1. `stringsAreTexts_iff`: one step of the check; `HoldsTexts`: all strings of a text are texts, with a rule for each part.
2. `readStrict_valueText`: what is written and not nested too deep is read by the strict reader.
-/

namespace Phrasebook.Json

/-! ## 1. Texts whose strings are texts -/

/-- How it is seen that the strings of a text are texts, at its first string or character. -/
inductive StepsOverTexts (n : Nat) : List Char → Prop
  | quote {r left : List Char} {pieces : List Piece} (hstring : characters ('"' :: r) 0 r = .ok (pieces, left))
    (htexts : pieces.all Prod.snd = true) (hleft : stringsAreTexts n left = true) : StepsOverTexts n ('"' :: r)
  | cons {c : Char} {r : List Char} (hc : c ≠ '"') (hrest : stringsAreTexts n r = true) : StepsOverTexts n (c :: r)

theorem stringsAreTexts_iff {n : Nat} {c : Char} {r : List Char} :
    stringsAreTexts (n + 1) (c :: r) = true ↔ StepsOverTexts n (c :: r) := by
  rw [stringsAreTexts]
  constructor
  · intro h
    split at h
    · rename_i hquote
      rw [beq_iff_eq.mp hquote] at h ⊢
      split at h
      · rename_i hstring
        rw [Bool.and_eq_true] at h
        exact .quote hstring h.1 h.2
      · exact absurd h (by simp)
    · rename_i hc
      exact .cons (by simpa using hc) h
  · intro h
    cases h with
    | quote hstring htexts hleft =>
      rw [if_pos (by decide), hstring]
      dsimp only
      rw [htexts]
      exact hleft
    | cons hc hrest => rwa [if_neg (by simpa using hc)]

theorem stringsAreTexts_mono {n m : Nat} {cs : List Char} (h : stringsAreTexts n cs = true) (hle : n ≤ m) :
    stringsAreTexts m cs = true := by
  induction n generalizing m cs with
  | zero =>
    cases cs with
    | nil => cases m <;> rfl
    | cons c r => exact absurd h (by simp [stringsAreTexts])
  | succ n ih =>
    obtain ⟨m, rfl⟩ : ∃ k, m = k + 1 := ⟨m - 1, by omega⟩
    cases cs with
    | nil => rfl
    | cons c r =>
      rw [stringsAreTexts_iff] at h ⊢
      cases h with
      | quote hstring htexts hleft => exact .quote hstring htexts (ih hleft (by omega))
      | cons hc hrest => exact .cons hc (ih hrest (by omega))

theorem length_le_of_characters {start cs left : List Char} {n : Nat} {pieces : List Piece}
    (h : characters start n cs = .ok (pieces, left)) : left.length ≤ cs.length := by
  obtain ⟨read, rfl, -⟩ := characters_spec h
  rw [List.length_append, List.length_cons]
  omega

/-- As much fuel as a text has characters is enough. -/
theorem stringsAreTexts_length {n : Nat} {cs : List Char} (h : stringsAreTexts n cs = true) :
    stringsAreTexts cs.length cs = true := by
  induction n generalizing cs with
  | zero =>
    cases cs with
    | nil => rfl
    | cons c r => exact absurd h (by simp [stringsAreTexts])
  | succ n ih =>
    cases cs with
    | nil => rfl
    | cons c r =>
      rw [List.length_cons, stringsAreTexts_iff]
      cases stringsAreTexts_iff.mp h with
      | quote hstring htexts hleft =>
        exact .quote hstring htexts (stringsAreTexts_mono (ih hleft) (length_le_of_characters hstring))
      | cons hc hrest => exact .cons hc (ih hrest)

/-- A text all of whose strings are texts. -/
def HoldsTexts (cs : List Char) : Prop := stringsAreTexts cs.length cs = true

namespace HoldsTexts

variable {cs left : List Char}

theorem nil : HoldsTexts [] := rfl

theorem cons {c : Char} (hc : c ≠ '"') (h : HoldsTexts cs) : HoldsTexts (c :: cs) :=
  stringsAreTexts_iff.mpr (.cons hc h)

theorem append {front : List Char} (hfront : ∀ c ∈ front, c ≠ '"') (h : HoldsTexts cs) : HoldsTexts (front ++ cs) := by
  induction front with
  | nil => exact h
  | cons c front ih =>
    obtain ⟨hc, hfront⟩ := List.forall_mem_cons.mp hfront
    exact cons hc (ih hfront)

theorem quote {pieces : List Piece} (hstring : characters ('"' :: cs) 0 cs = .ok (pieces, left))
    (htexts : pieces.all Prod.snd = true) (h : HoldsTexts left) : HoldsTexts ('"' :: cs) :=
  stringsAreTexts_length (stringsAreTexts_iff.mpr (.quote hstring htexts h))

theorem blanks {front : List Char} (hfront : ∀ c ∈ front, isBlank c = true) (h : HoldsTexts cs) :
    HoldsTexts (front ++ cs) := by
  refine append (fun c hc => ?_) h
  rintro rfl
  exact absurd (hfront _ hc) (by decide)

end HoldsTexts

/-! ## 2. Written texts -/

section Texts

variable {layout : Layout} (hl : layout.IsStandard)

include hl

theorem holdsTexts_stringText (s : String) {rest : List Char} (h : HoldsTexts rest) :
    HoldsTexts (stringText layout.ascii s ++ rest) := by
  have htext : stringText layout.ascii s ++ rest = '"' :: (s.toList.flatMap (charText false) ++ '"' :: rest) := by
    rw [hl.ascii, stringText]
    simp only [List.cons_append, List.append_assoc, List.nil_append]
  rw [htext]
  exact .quote (characters_stringText _ s.toList rest) (by simp) h

theorem holdsTexts_afterName {rest : List Char} (h : HoldsTexts rest) :
    HoldsTexts (layout.afterName.toList ++ rest) := by
  obtain ⟨blanks, hcolon, hblanks⟩ := hl.afterName
  rw [hcolon]
  exact .cons (by decide) (.blanks hblanks h)

theorem holdsTexts_between (level : Nat) {rest : List Char} (h : HoldsTexts rest) :
    HoldsTexts (layout.betweenItems.toList ++ (lineBreak layout level ++ rest)) := by
  obtain ⟨blanks, hcomma, hblanks⟩ := hl.betweenItems
  rw [hcomma]
  exact .cons (by decide) (.blanks hblanks (.blanks (isBlank_lineBreak layout level) h))

mutual
/-- No plain value is written with half of a surrogate pair. -/
theorem holdsTexts_valueText (level : Nat) (j : Json) (hj : j.isPlain = true) {rest : List Char}
    (h : HoldsTexts rest) : HoldsTexts (valueText layout level j ++ rest) := by
  have hword (word : List Char) (hword : (word.all fun c => c != '"') = true) : HoldsTexts (word ++ rest) :=
    .append (fun c hc => bne_iff_ne.mp (List.all_eq_true.mp hword c hc)) h
  match j with
  | null => exact hword "null".toList (by decide)
  | bool true => exact hword "true".toList (by decide)
  | bool false => exact hword "false".toList (by decide)
  | string s => exact holdsTexts_stringText hl s h
  | array [] => exact hword ['[', ']'] (by decide)
  | array (j :: js) =>
    rw [isPlain, arePlain, Bool.and_eq_true] at hj
    have hend : HoldsTexts (lineBreak layout level ++ ']' :: rest) :=
      .blanks (isBlank_lineBreak layout _) (.cons (by decide) h)
    have hitem := holdsTexts_valueText (level + 1) j hj.1 (holdsTexts_itemsText (level + 1) js hj.2 hend)
    rw [valueText_array, itemText]
    simp only [List.cons_append, List.append_assoc, List.nil_append]
    exact .cons (by decide) (.blanks (isBlank_lineBreak layout _) hitem)
  | object [] => exact hword ['{', '}'] (by decide)
  | object ((name, j) :: ms) =>
    rw [isPlain, membersArePlain, Bool.and_eq_true] at hj
    have hend : HoldsTexts (lineBreak layout level ++ '}' :: rest) :=
      .blanks (isBlank_lineBreak layout _) (.cons (by decide) h)
    have hitem := holdsTexts_valueText (level + 1) j hj.1 (holdsTexts_membersText (level + 1) ms hj.2 hend)
    have hname := holdsTexts_stringText hl name (holdsTexts_afterName hl hitem)
    rw [valueText_object, memberText]
    simp only [List.cons_append, List.append_assoc, List.nil_append]
    exact .cons (by decide) (.blanks (isBlank_lineBreak layout _) hname)
theorem holdsTexts_itemsText (level : Nat) (js : List Json) (hj : arePlain js = true) {rest : List Char}
    (h : HoldsTexts rest) : HoldsTexts (itemsText layout level js ++ rest) := by
  match js with
  | [] => exact h
  | j :: js =>
    rw [arePlain, Bool.and_eq_true] at hj
    have hitem := holdsTexts_valueText level j hj.1 (holdsTexts_itemsText level js hj.2 h)
    rw [itemsText]
    simp only [List.append_assoc]
    exact holdsTexts_between hl level hitem
theorem holdsTexts_membersText (level : Nat) (ms : List (String × Json)) (hm : membersArePlain ms = true)
    {rest : List Char} (h : HoldsTexts rest) : HoldsTexts (membersText layout level ms ++ rest) := by
  match ms with
  | [] => exact h
  | (name, j) :: ms =>
    rw [membersArePlain, Bool.and_eq_true] at hm
    have hitem := holdsTexts_valueText level j hm.1 (holdsTexts_membersText level ms hm.2 h)
    have hname := holdsTexts_stringText hl name (holdsTexts_afterName hl hitem)
    rw [membersText]
    simp only [List.append_assoc]
    exact holdsTexts_between hl level hname
end

end Texts

/-- The strict reader only refuses more: what is nested too deep. -/
theorem readStrict_valueText_append {layout : Layout} (hl : layout.IsStandard) {j : Json} (hj : j.isPlain = true)
    (hdepth : j.depth ≤ maxDepth) {blanks : List Char} (hblanks : ∀ c ∈ blanks, isBlank c = true) :
    readStrict (valueText layout 0 j ++ blanks) = some j := by
  have htexts : HoldsTexts (valueText layout 0 j ++ blanks) := by
    refine holdsTexts_valueText hl 0 j hj ?_
    rw [← List.append_nil blanks]
    exact .blanks hblanks .nil
  exact readStrict_iff.mpr ⟨readChars_valueText hl hj hblanks, htexts, hdepth⟩

theorem readStrict_valueText {layout : Layout} (hl : layout.IsStandard) {j : Json} (hj : j.isPlain = true)
    (hdepth : j.depth ≤ maxDepth) : readStrict (valueText layout 0 j) = some j := by
  have hread := readStrict_valueText_append hl hj hdepth (List.forall_mem_nil _)
  rwa [List.append_nil] at hread

end Phrasebook.Json
