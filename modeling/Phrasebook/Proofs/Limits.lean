import Phrasebook.Json.Limits
import Phrasebook.Proofs.JsonText

/-!
# What is written stays within limits

The limits of a reader do not matter to what is written without numbers, as long as there is room for how deep it is
nested.

Results:
1. `excess?_stringText`, `excess?_valueText`: nothing in a written string goes beyond a limit, and nothing in a written
   value that there is room for.
2. `readWithin_valueText`: so it is read.
-/

namespace Phrasebook.Json

variable {room : Room} {opened : Nat}

/-! ## 1. Characters -/

/-- The characters outside of strings that matter to limits: quotes, brackets, and those that start a number. -/
def isMark (c : Char) : Bool := "\"\x7b[\x7d]-".toList.contains c || c.isDigit

theorem number?_of_not_isMark {c : Char} (h : isMark c = false) (r : List Char) : number? (c :: r) = none := by
  rw [isMark, Bool.or_eq_false_iff] at h
  obtain ⟨hmark, hdigit⟩ := h
  have hminus : c ≠ '-' := by
    rintro rfl
    exact absurd hmark (by decide)
  have hzero : (c == '0') = false := by
    rw [beq_eq_false_iff_ne]
    rintro rfl
    exact absurd hdigit (by decide)
  rw [number?.eq_def]
  split
  rename_i hunsigned
  split at hunsigned
  · rename_i heq
    exact absurd (List.cons.inj heq).1 hminus
  · obtain ⟨-, rfl⟩ := Prod.mk.inj hunsigned
    rw [wholePart, hzero, hdigit]
    rfl

theorem excess?_of_not_isMark (cs : List Char) (h : cs.any isMark = false) (rest : List Char) :
    excess? room opened 0 .outside (cs ++ rest) = excess? room opened 0 .outside rest := by
  induction cs with
  | nil => rfl
  | cons c cs ih =>
    obtain ⟨hc, hcs⟩ := (Bool.or_eq_false_iff).mp h
    have hne {d : Char} (hd : isMark d = true) : (c == d) = false := by
      rw [beq_eq_false_iff_ne]
      rintro rfl
      exact absurd hd (by simp [hc])
    rw [List.cons_append, excess?, hne (by decide), hne (by decide), hne (by decide), hne (by decide),
      hne (by decide), number?_of_not_isMark hc]
    exact ih hcs

theorem excess?_blank {blanks : List Char} (h : ∀ c ∈ blanks, isBlank c = true) (rest : List Char) :
    excess? room opened 0 .outside (blanks ++ rest) = excess? room opened 0 .outside rest := by
  refine excess?_of_not_isMark _ (List.any_eq_false.mpr fun c hc => ?_) rest
  have hblank := h c hc
  simp only [isBlank, Bool.or_eq_true, beq_iff_eq] at hblank
  rcases hblank with ((rfl | rfl) | rfl) | rfl
  all_goals decide

/-! ## 2. Strings -/

/-- In a string only quotes and backslashes matter. -/
theorem excess?_inside {cs : List Char} (h : ∀ c ∈ cs, c ≠ '"' ∧ c ≠ '\\') (rest : List Char) :
    excess? room opened 0 .inside (cs ++ rest) = excess? room opened 0 .inside rest := by
  induction cs with
  | nil => rfl
  | cons c cs ih =>
    obtain ⟨⟨hquote, hslash⟩, hcs⟩ := List.forall_mem_cons.mp h
    rw [List.cons_append, excess?, if_neg (by simpa using hquote), if_neg (by simpa using hslash)]
    exact ih hcs

theorem hexDigit_ne : ∀ n, n < 16 → Text.hexDigit n ≠ '"' ∧ Text.hexDigit n ≠ '\\' := by decide

theorem excess?_charText (c : Char) (rest : List Char) :
    excess? room opened 0 .inside (charText false c ++ rest) = excess? room opened 0 .inside rest := by
  rcases charText_cases c with ⟨letter, htext, -⟩ | ⟨-, htext⟩ | ⟨-, hquote, hslash, htext⟩
  · rw [htext]
    rfl
  · rw [htext, unicodeEscape]
    show excess? room opened 0 .inside (Text.hexDigits 4 c.toNat ++ rest) = _
    refine excess?_inside (fun d hd => ?_) rest
    obtain ⟨n, hn, rfl⟩ := Text.mem_hexDigits hd
    exact hexDigit_ne n hn
  · rw [htext]
    exact excess?_inside (fun d hd => List.mem_singleton.mp hd ▸ ⟨hquote, hslash⟩) rest

theorem excess?_stringText (s : String) (rest : List Char) :
    excess? room opened 0 .outside (stringText false s ++ rest) = excess? room opened 0 .outside rest := by
  have hinside : ∀ cs : List Char, excess? room opened 0 .inside (cs.flatMap (charText false) ++ '"' :: rest) =
      excess? room opened 0 .outside rest := by
    intro cs
    induction cs with
    | nil => rfl
    | cons c cs ih => rw [List.flatMap_cons, List.append_assoc, excess?_charText, ih]
  rw [stringText, List.cons_append, List.cons_append, List.append_assoc, List.singleton_append]
  exact hinside s.toList

/-! ## 3. Values -/

/-- Within brackets there is room for one level less. -/
theorem excess?_bracketed {layout : Layout} {first last : Char} (hfirst : first = '{' ∨ first = '[')
    (hlast : last = '}' ∨ last = ']') (hroom : opened < room.depth) (level lower : Nat) {content rest : List Char}
    (hcontent : excess? room (opened + 1) 0 .outside (content ++ (lineBreak layout lower ++ last :: rest)) =
      excess? room (opened + 1) 0 .outside (lineBreak layout lower ++ last :: rest)) :
    excess? room opened 0 .outside
        (first :: (lineBreak layout level ++ (content ++ (lineBreak layout lower ++ last :: rest)))) =
      excess? room opened 0 .outside rest := by
  have hopen (cs : List Char) :
      excess? room opened 0 .outside (first :: cs) = excess? room (opened + 1) 0 .outside cs := by
    rcases hfirst with rfl | rfl
    all_goals exact if_pos hroom
  have hclose : excess? room (opened + 1) 0 .outside (last :: rest) = excess? room opened 0 .outside rest := by
    rcases hlast with rfl | rfl
    all_goals rfl
  rw [hopen, excess?_blank (isBlank_lineBreak layout level), hcontent, excess?_blank (isBlank_lineBreak layout lower),
    hclose]

section Values

variable {layout : Layout} (hl : layout.IsStandard)

include hl

theorem excess?_afterName (rest : List Char) :
    excess? room opened 0 .outside (layout.afterName.toList ++ rest) = excess? room opened 0 .outside rest := by
  obtain ⟨blanks, hcolon, hblanks⟩ := hl.afterName
  rw [hcolon, List.cons_append]
  exact (excess?_of_not_isMark [':'] (by decide) _).trans (excess?_blank hblanks rest)

theorem excess?_between (level : Nat) (rest : List Char) :
    excess? room opened 0 .outside (layout.betweenItems.toList ++ (lineBreak layout level ++ rest)) =
      excess? room opened 0 .outside rest := by
  obtain ⟨blanks, hcomma, hblanks⟩ := hl.betweenItems
  rw [hcomma, List.cons_append]
  exact (excess?_of_not_isMark [','] (by decide) _).trans
    ((excess?_blank hblanks _).trans (excess?_blank (isBlank_lineBreak layout level) rest))

theorem excess?_name (name : String) (rest : List Char) :
    excess? room opened 0 .outside (stringText layout.ascii name ++ (layout.afterName.toList ++ rest)) =
      excess? room opened 0 .outside rest := by
  rw [hl.ascii, excess?_stringText, excess?_afterName hl]

mutual
/-- Nothing in a written value goes beyond a limit, if there is room for it. -/
theorem excess?_valueText (level : Nat) (j : Json) (hj : j.isPlain = true) (opened : Nat)
    (hdepth : opened + j.depth ≤ room.depth) (rest : List Char) :
    excess? room opened 0 .outside (valueText layout level j ++ rest) = excess? room opened 0 .outside rest := by
  match j with
  | null => exact excess?_of_not_isMark "null".toList (by decide) rest
  | bool true => exact excess?_of_not_isMark "true".toList (by decide) rest
  | bool false => exact excess?_of_not_isMark "false".toList (by decide) rest
  | string s =>
    rw [valueText, hl.ascii]
    exact excess?_stringText s rest
  | array [] => exact if_pos (show opened < room.depth by rw [depth] at hdepth; omega)
  | array (j :: js) =>
    rw [isPlain, arePlain, Bool.and_eq_true] at hj
    rw [depth, depthOfAll] at hdepth
    rw [valueText_array, itemText]
    simp only [List.cons_append, List.append_assoc, List.nil_append]
    rw [← List.append_assoc (valueText _ _ _)]
    refine excess?_bracketed (.inr rfl) (.inr rfl) (by omega) _ _ ?_
    rw [List.append_assoc, excess?_valueText (level + 1) j hj.1 _ (by omega),
      excess?_itemsText (level + 1) js hj.2 _ (by omega)]
  | object [] => exact if_pos (show opened < room.depth by rw [depth] at hdepth; omega)
  | object ((name, j) :: ms) =>
    rw [isPlain, membersArePlain, Bool.and_eq_true] at hj
    rw [depth, depthOfMembers] at hdepth
    rw [valueText_object]
    simp only [List.cons_append, List.append_assoc, List.nil_append]
    refine excess?_bracketed (.inl rfl) (.inl rfl) (by omega) _ _ ?_
    rw [memberText]
    simp only [List.append_assoc]
    rw [excess?_name hl, excess?_valueText (level + 1) j hj.1 _ (by omega),
      excess?_membersText (level + 1) ms hj.2 _ (by omega)]
theorem excess?_itemsText (level : Nat) (js : List Json) (hj : arePlain js = true) (opened : Nat)
    (hdepth : opened + depthOfAll js ≤ room.depth) (rest : List Char) :
    excess? room opened 0 .outside (itemsText layout level js ++ rest) = excess? room opened 0 .outside rest := by
  match js with
  | [] => rfl
  | j :: js =>
    rw [arePlain, Bool.and_eq_true] at hj
    rw [depthOfAll] at hdepth
    rw [itemsText]
    simp only [List.append_assoc]
    rw [excess?_between hl, excess?_valueText level j hj.1 _ (by omega), excess?_itemsText level js hj.2 _ (by omega)]
theorem excess?_membersText (level : Nat) (ms : List (String × Json)) (hm : membersArePlain ms = true) (opened : Nat)
    (hdepth : opened + depthOfMembers ms ≤ room.depth) (rest : List Char) :
    excess? room opened 0 .outside (membersText layout level ms ++ rest) = excess? room opened 0 .outside rest := by
  match ms with
  | [] => rfl
  | (name, j) :: ms =>
    rw [membersArePlain, Bool.and_eq_true] at hm
    rw [depthOfMembers] at hdepth
    rw [membersText]
    simp only [List.append_assoc]
    rw [excess?_between hl, excess?_name hl, excess?_valueText level j hm.1 _ (by omega),
      excess?_membersText level ms hm.2 _ (by omega)]
end

end Values

/-! ## 4. Whole texts -/

/-- A value with blanks after it is read as it was written, if there is room for it. -/
theorem readWithin_valueText {layout : Layout} (hl : layout.IsStandard) {j : Json} (hj : j.isPlain = true)
    (hdepth : j.depth ≤ room.depth) {blanks : List Char} (hblanks : ∀ c ∈ blanks, isBlank c = true) :
    readWithin room (String.ofList (valueText layout 0 j ++ blanks)) = .ok j := by
  have hexcess : excess? room 0 0 .outside (valueText layout 0 j ++ blanks) = none := by
    rw [excess?_valueText hl 0 j hj 0 (by omega), ← List.append_nil blanks, excess?_blank hblanks]
    rfl
  rw [readWithin, String.toList_ofList]
  simp only [readChars_valueText hl hj hblanks, hexcess]

end Phrasebook.Json
