import Mathlib.Data.List.TakeWhile
import Phrasebook.Console.Message

/-!
# What markup leaves of a text

Tags, backslashes before brackets, names of emoji and characters that move the cursor are not shown as they are. Whatever
is left out or replaced, what is shown has fewer of the characters by which such parts are told; so a text that is found
in what is shown of it has no such part.

Results:
1. `reduces_shown`: what is shown of a text is the text, or has fewer special characters.
2. `shown_eq_ok_iff`: a text is shown as it is just if it is plain; `isPlain_of_specials_eq_zero`: most texts are.
3. `isPlain_of_infix`: a line that contains the text again shows that it is plain.
-/

namespace Phrasebook.Console.Markup

/-! ## 1. Special characters -/

/-- Whether parts of a text that are not shown as they are can be told by a character. -/
def isSpecial (c : Char) : Bool := c == '[' || c == '\\' || c == ':' || movesCursor c

def specials (cs : List Char) : Nat := cs.countP isSpecial

@[simp] theorem specials_nil : specials [] = 0 := rfl

@[simp] theorem specials_append (cs ds : List Char) : specials (cs ++ ds) = specials cs + specials ds :=
  List.countP_append

@[simp] theorem specials_cons (c : Char) (cs : List Char) :
    specials (c :: cs) = specials cs + if isSpecial c then 1 else 0 :=
  List.countP_cons

/-- A text is another one, or has fewer special characters. -/
def Reduces (out cs : List Char) : Prop := out = cs ∨ specials out < specials cs

namespace Reduces

theorem refl (cs : List Char) : Reduces cs cs := .inl rfl

theorem le {out cs : List Char} (h : Reduces out cs) : specials out ≤ specials cs := by
  rcases h with rfl | h
  · exact Nat.le.refl
  · exact Nat.le_of_lt h

theorem eq {out cs : List Char} (h : Reduces out cs) (hle : specials cs ≤ specials out) : out = cs :=
  h.resolve_right (Nat.not_lt_of_le hle)

theorem trans {out mid cs : List Char} (h : Reduces out mid) (h' : Reduces mid cs) : Reduces out cs := by
  rcases h with rfl | h
  · exact h'
  · exact .inr (Nat.lt_of_lt_of_le h h'.le)

theorem append {out cs out' cs' : List Char} (h : Reduces out cs) (h' : Reduces out' cs') :
    Reduces (out ++ out') (cs ++ cs') := by
  rcases h with rfl | hlt
  · rcases h' with rfl | hlt'
    · exact refl _
    · refine .inr ?_
      rw [specials_append, specials_append]
      omega
  · refine .inr ?_
    have := h'.le
    rw [specials_append, specials_append]
    omega

theorem cons {out cs : List Char} (h : Reduces out cs) (c : Char) : Reduces (c :: out) (c :: cs) :=
  (refl [c]).append h

end Reduces

theorem reduces_unescape (cs : List Char) : Reduces (unescape cs) cs := by
  induction cs using unescape.induct with
  | case1 => exact .refl []
  | case2 r ih =>
    refine .inr ?_
    have := ih.le
    rw [unescape, specials_cons, specials_cons, specials_cons, if_pos (by decide), if_pos (by decide)]
    omega
  | case3 c r _ ih =>
    rw [unescape]
    · exact ih.cons c
    · assumption

theorem reduces_filter (cs : List Char) : Reduces (cs.filter fun c => !movesCursor c) cs := by
  induction cs with
  | nil => exact .refl []
  | cons c cs ih =>
    rw [List.filter_cons]
    split
    · exact ih.cons c
    · rename_i hmoves
      have hspecial : isSpecial c = true := by
        rw [isSpecial, show movesCursor c = true by simpa using hmoves, Bool.or_true]
      refine .inr (Nat.lt_of_le_of_lt ih.le ?_)
      rw [specials_cons, if_pos hspecial]
      omega

/-- No emoji has a special character. -/
theorem specials_named? {name cs : List Char} (h : Emoji.named? name = some cs) : specials cs = 0 := by
  have htable : (Emoji.names.all fun entry => entry.2.all fun n => !isSpecial (Char.ofNat n)) = true := by
    decide +kernel
  obtain ⟨entry, hentry, rfl⟩ := Option.map_eq_some_iff.mp h
  refine List.countP_eq_zero.mpr fun c hc => ?_
  obtain ⟨n, hn, rfl⟩ := List.mem_map.mp hc
  have hall := List.all_eq_true.mp htable entry (List.mem_of_find?_eq_some hentry)
  simpa using List.all_eq_true.mp hall n hn

theorem specials_splitPresentation (name : List Char) : specials (Emoji.splitPresentation name).2 = 0 := by
  have hmarks : ∀ p ∈ Emoji.presentations, isSpecial p.2 = false := by decide
  rw [Emoji.splitPresentation]
  split
  · rename_i ending mark hfind
    rw [specials_cons, hmarks _ (List.mem_of_find?_eq_some hfind)]
    rfl
  · rfl

theorem reduces_replacement (name : List Char) : Reduces (Emoji.replacement name) (':' :: name ++ [':']) := by
  have hmark := specials_splitPresentation name
  rw [Emoji.replacement]
  dsimp only
  split
  · rename_i cs hnamed
    refine .inr ?_
    rw [specials_append, specials_named? hnamed, hmark, List.cons_append, specials_cons, if_pos (by decide)]
    omega
  · exact .refl _

theorem nameAt?_eq_some {r name : List Char} (h : Emoji.nameAt? r = some name) : ∃ rest, r = name ++ ':' :: rest := by
  have hsplit := List.takeWhile_append_dropWhile (p := fun c => c != ':' && !Text.isBlank c) (l := r)
  rw [Emoji.nameAt?] at h
  generalize r.takeWhile _ = inner at h hsplit
  generalize r.dropWhile _ = behind at hsplit
  subst hsplit
  rw [List.drop_left] at h
  cases behind with
  | nil => cases h
  | cons c rest =>
    simp only [List.head?_cons, beq_iff_eq, Option.some.injEq, Option.ite_none_right_eq_some] at h
    obtain ⟨rfl, rfl⟩ := h
    exact ⟨rest, rfl⟩

theorem shownFrom_eq_drop (n : Nat) (cs : List Char) : Emoji.shownFrom n cs = Emoji.shownFrom 0 (cs.drop n) := by
  induction n generalizing cs with
  | zero => rfl
  | succ n ih =>
    cases cs with
    | nil => rfl
    | cons c r => rw [Emoji.shownFrom, ih, List.drop_succ_cons]

theorem reduces_shownFrom (cs : List Char) : Reduces (Emoji.shownFrom 0 cs) cs := by
  induction hlength : cs.length using Nat.strongRecOn generalizing cs with
  | ind n ih =>
    subst hlength
    cases cs with
    | nil => exact .refl []
    | cons c r =>
      have hrest := ih r.length (Nat.lt_succ_self _) r rfl
      rw [Emoji.shownFrom]
      split
      · rename_i hcolon
        obtain rfl : c = ':' := by simpa using hcolon
        split
        · rename_i name hname
          -- the scan goes on behind the second colon
          obtain ⟨rest, rfl⟩ := nameAt?_eq_some hname
          have hlt : rest.length < (':' :: (name ++ ':' :: rest)).length := by
            rw [List.length_cons, List.length_append, List.length_cons]
            omega
          rw [shownFrom_eq_drop, show (name ++ ':' :: rest).drop (name.length + 1) = rest by simp]
          simpa using (reduces_replacement name).append (ih _ hlt rest rfl)
        · exact hrest.cons ':'
      · exact hrest.cons c

theorem reduces_shownRun (run : List Char) : Reduces (shownRun run) run :=
  ((reduces_filter _).trans (reduces_shownFrom _)).trans (reduces_unescape run)

/-! ## 2. Pieces -/

/-- The characters of a piece that are shown, as they are. -/
def textOf : Piece → List Char
  | .character c => [c]
  | .literal cs => cs
  | .tag _ => []

def texts (ps : List Piece) : List Char := ps.flatMap textOf

/-- Nothing but the characters of pieces is shown. -/
theorem reduces_shownPieces {opened : List String} {run : List Char} {ps : List Piece} {out : List Char}
    (h : shownPieces opened run ps = .ok out) : Reduces out (run.reverse ++ texts ps) := by
  induction ps generalizing opened run out with
  | nil =>
    obtain rfl := Except.ok.inj h
    simpa [texts] using reduces_shownRun run.reverse
  | cons piece ps ih =>
    cases piece with
    | character c => simpa [texts, textOf] using ih h
    | literal cs =>
      rw [shownPieces] at h
      cases hrest : shownPieces opened [] ps with
      | error e =>
        rw [hrest] at h
        cases h
      | ok rest =>
        rw [hrest] at h
        obtain rfl := Except.ok.inj h
        have hall := ((reduces_shownRun run.reverse).append (reduces_shownRun cs)).append (ih hrest)
        simpa [texts, textOf] using hall
    | tag content =>
      rw [shownPieces] at h
      split at h
      · cases h
      · rename_i inner hstep
        cases hrest : shownPieces inner [] ps with
        | error e =>
          rw [hrest] at h
          cases h
        | ok rest =>
          rw [hrest] at h
          obtain rfl := Except.ok.inj h
          simpa [texts, textOf] using (reduces_shownRun run.reverse).append (ih hrest)

theorem content?_eq_some {rest inner : List Char} (h : content? rest = some inner) :
    ∃ behind, rest = inner ++ ']' :: behind := by
  have hsplit := List.takeWhile_append_dropWhile (p := fun c => c != '[' && c != ']') (l := rest)
  rw [content?] at h
  generalize rest.takeWhile _ = taken at h hsplit
  generalize rest.dropWhile _ = behind at hsplit
  subst hsplit
  rw [List.drop_left] at h
  split at h
  · split at h
    · obtain rfl := Option.some.inj h
      exact ⟨_, rfl⟩
    · cases h
  · cases h

/-- What a tag is made of. -/
theorem tagAt?_eq_some {cs : List Char} {ps : List Piece} {size : Nat} (h : tagAt? cs = some (ps, size)) :
    ∃ backslashes content rest, cs = List.replicate backslashes '\\' ++ '[' :: content ++ ']' :: rest ∧
      ps = tagPieces backslashes content ∧ size = backslashes + content.length + 2 := by
  have hsplit := List.takeWhile_append_dropWhile (p := (· == '\\')) (l := cs)
  have hall : ∀ c ∈ cs.takeWhile (· == '\\'), c = '\\' := fun c hc => by simpa using List.mem_takeWhile_imp hc
  rw [tagAt?] at h
  rw [List.eq_replicate_of_mem hall] at hsplit
  generalize (cs.takeWhile (· == '\\')).length = backslashes at h hsplit
  generalize cs.dropWhile (· == '\\') = behind at hsplit
  subst hsplit
  rw [List.drop_left' List.length_replicate] at h
  split at h
  · rename_i rest
    obtain ⟨content, hcontent, heq⟩ := Option.map_eq_some_iff.mp h
    obtain ⟨behind, rfl⟩ := content?_eq_some hcontent
    cases heq
    exact ⟨backslashes, content, behind, by simp, rfl, rfl⟩
  · cases h

theorem piecesAfter_eq_drop (n : Nat) (cs : List Char) : piecesAfter n cs = pieces (cs.drop n) := by
  induction n generalizing cs with
  | zero => rfl
  | succ n ih =>
    cases cs with
    | nil => rfl
    | cons c r => rw [piecesAfter, ih, List.drop_succ_cons]

theorem specials_replicate (n : Nat) : specials (List.replicate n '\\') = n := by
  rw [specials, List.countP_replicate, if_pos (by decide)]

/-- Of a tag the bracket is not shown, or a backslash before it. -/
theorem specials_tagPieces (backslashes : Nat) (content : List Char) :
    specials (texts (tagPieces backslashes content)) <
      specials (List.replicate backslashes '\\' ++ '[' :: content ++ [']']) := by
  have hbracket : isSpecial '[' = true := by decide
  have hclosing : isSpecial ']' = false := by decide
  rw [tagPieces]
  split
  · rename_i hodd
    simp only [texts, textOf, List.flatMap_cons, List.flatMap_nil, specials_append, specials_cons, specials_replicate,
      specials_nil, hbracket, hclosing, if_true, Bool.false_eq_true, if_false, beq_iff_eq] at hodd ⊢
    omega
  · simp only [texts, textOf, List.flatMap_cons, List.flatMap_nil, specials_append, specials_cons, specials_replicate,
      specials_nil, hbracket, hclosing, if_true, Bool.false_eq_true, if_false]
    omega

theorem texts_append (ps qs : List Piece) : texts (ps ++ qs) = texts ps ++ texts qs := List.flatMap_append

theorem texts_characters (cs : List Char) : texts (cs.map .character) = cs := by
  induction cs with
  | nil => rfl
  | cons c cs ih => exact congrArg (c :: ·) ih

/-- The pieces of a text are its characters, or fewer special characters are shown. -/
theorem pieces_eq_or (cs : List Char) : pieces cs = cs.map .character ∨ specials (texts (pieces cs)) < specials cs := by
  induction hlength : cs.length using Nat.strongRecOn generalizing cs with
  | ind n ih =>
    subst hlength
    cases cs with
    | nil => exact .inl rfl
    | cons c r =>
      rw [pieces, piecesAfter]
      split
      · rename_i ps size htag
        obtain ⟨backslashes, content, rest, hcs, rfl, rfl⟩ := tagAt?_eq_some htag
        have hdrop : (c :: r).drop (backslashes + content.length + 2) = rest := by
          rw [hcs, List.append_cons]
          exact List.drop_left' (by simp; omega)
        have hrest : specials (texts (pieces rest)) ≤ specials rest := by
          have hlt : rest.length < (c :: r).length := by
            rw [← hdrop, List.length_drop, List.length_cons]
            omega
          rcases ih _ hlt rest rfl with hplain | hless
          · rw [hplain, texts_characters]
          · exact Nat.le_of_lt hless
        have htag := specials_tagPieces backslashes content
        refine .inr ?_
        rw [piecesAfter_eq_drop, texts_append, specials_append]
        rw [List.drop_succ_cons] at hdrop
        rw [show backslashes + content.length + 2 - 1 = backslashes + content.length + 1 from rfl, hdrop, hcs,
          List.append_cons, specials_append _ rest]
        omega
      · rcases ih r.length (Nat.lt_succ_self _) r rfl with hplain | hless
        · exact .inl (congrArg (Piece.character c :: ·) hplain)
        · refine .inr ?_
          rw [specials_cons]
          show specials (c :: texts (pieces r)) < _
          rw [specials_cons]
          omega

/-- What is shown of a text is the text, or has fewer special characters. -/
theorem reduces_shown {cs out : List Char} (h : shown cs = .ok out) : Reduces out cs := by
  have hout := reduces_shownPieces h
  rw [List.reverse_nil, List.nil_append] at hout
  rcases pieces_eq_or cs with hplain | hless
  · rwa [hplain, texts_characters] at hout
  · exact .inr (Nat.lt_of_le_of_lt hout.le hless)

/-! ## 3. Plain texts -/

/-- A text that is shown as it is. -/
structure IsPlain (cs : List Char) : Prop where
  /-- No bracket in it starts a tag. -/
  tagless : ∀ part, part <:+ cs → tagAt? part = none
  /-- No bracket in it has a backslash before it. -/
  unescaped : ¬ ['\\', '['] <:+: cs
  /-- No emoji is named in it. -/
  nameless : Emoji.shown cs = cs
  /-- Nothing in it moves the cursor. -/
  still : ∀ c ∈ cs, movesCursor c = false

theorem pieces_eq_iff (cs : List Char) : pieces cs = cs.map .character ↔ ∀ part, part <:+ cs → tagAt? part = none := by
  induction cs with
  | nil => exact iff_of_true rfl fun part hpart => by rw [List.suffix_nil.mp hpart]; rfl
  | cons c r ih =>
    rw [pieces, piecesAfter]
    split
    · rename_i ps size htag
      obtain ⟨backslashes, content, -, -, rfl, -⟩ := tagAt?_eq_some htag
      refine iff_of_false (fun h => nomatch h) fun h => ?_
      rw [h _ (List.suffix_refl _)] at htag
      cases htag
    · rename_i hnone
      have hcons : (Piece.character c :: piecesAfter 0 r = (c :: r).map .character) ↔ pieces r = r.map .character := by
        rw [List.map_cons, List.cons_inj_right, pieces]
      rw [hcons, ih]
      refine ⟨fun h part hpart => ?_, fun h part hpart => h part (hpart.trans (List.suffix_cons c r))⟩
      rcases List.suffix_cons_iff.mp hpart with rfl | hpart
      · exact hnone
      · exact h part hpart

theorem unescape_eq_iff (cs : List Char) : unescape cs = cs ↔ ¬ ['\\', '['] <:+: cs := by
  induction cs using unescape.induct with
  | case1 => exact iff_of_true rfl (by simp)
  | case2 r ih =>
    refine iff_of_false (fun h => ?_) (not_not_intro ⟨[], r, rfl⟩)
    rw [unescape] at h
    exact absurd (List.head_eq_of_cons_eq h) (by decide)
  | case3 c r hother ih =>
    have hprefix : ¬ ['\\', '['] <+: c :: r := by
      rintro ⟨behind, hbehind⟩
      cases hbehind
      exact hother behind rfl rfl
    rw [List.infix_cons_iff, or_iff_right hprefix, ← ih, unescape]
    · exact List.cons_inj_right c
    · exact hother

theorem shownPieces_characters (opened : List String) (run cs : List Char) :
    shownPieces opened run (cs.map .character) = .ok (shownRun (run.reverse ++ cs)) := by
  induction cs generalizing run with
  | nil => rw [List.map_nil, shownPieces, List.append_nil]
  | cons c cs ih => rw [List.map_cons, shownPieces, ih, List.reverse_cons, List.append_assoc, List.singleton_append]

theorem IsPlain.shownRun_eq {cs : List Char} (h : IsPlain cs) : shownRun cs = cs := by
  rw [shownRun, (unescape_eq_iff cs).mpr h.unescaped, h.nameless, List.filter_eq_self]
  exact fun c hc => by rw [h.still c hc]; rfl

theorem isPlain_of_shownRun_eq {cs : List Char} (hpieces : pieces cs = cs.map .character) (h : shownRun cs = cs) :
    IsPlain cs := by
  -- whatever is left out or replaced on the way has a special character that is not shown in the end
  have hfilter := reduces_filter (Emoji.shown (unescape cs))
  have hemoji : Reduces (Emoji.shown (unescape cs)) (unescape cs) := reduces_shownFrom _
  rw [← shownRun, h] at hfilter
  have hunescape : unescape cs = cs := (reduces_unescape cs).eq (hfilter.le.trans hemoji.le)
  rw [hunescape] at hfilter hemoji
  have hshown : Emoji.shown cs = cs := hemoji.eq hfilter.le
  rw [shownRun, hunescape, hshown, List.filter_eq_self] at h
  exact ⟨(pieces_eq_iff cs).mp hpieces, (unescape_eq_iff cs).mp hunescape, hshown, fun c hc => by simpa using h c hc⟩

/-- A text is shown as it is just if it is plain. -/
theorem shown_eq_ok_iff (cs : List Char) : shown cs = .ok cs ↔ IsPlain cs := by
  constructor
  · intro h
    have hout := reduces_shownPieces h
    rw [List.reverse_nil, List.nil_append] at hout
    have hpieces := (pieces_eq_or cs).resolve_right (Nat.not_lt_of_le hout.le)
    rw [shown, hpieces, shownPieces_characters] at h
    exact isPlain_of_shownRun_eq hpieces (Except.ok.inj h)
  · intro h
    rw [shown, (pieces_eq_iff cs).mpr h.tagless, shownPieces_characters]
    exact congrArg Except.ok h.shownRun_eq

/-- A line of what is shown contains the text again only if the text is plain. -/
theorem isPlain_of_infix {before cs out line : List Char} (hbefore : specials before = 0)
    (h : shown (before ++ cs) = .ok out) (hline : specials line ≤ specials out) (hcs : cs <:+: line) :
    out = before ++ cs ∧ IsPlain (before ++ cs) := by
  have hout := reduces_shown h
  have hle : specials cs ≤ specials line := hcs.sublist.countP_le
  have heq := hout.eq (by rw [specials_append, hbefore]; omega)
  exact ⟨heq, (shown_eq_ok_iff _).mp (heq ▸ h)⟩

theorem tagAt?_cons {c : Char} (h : isSpecial c = false) (cs : List Char) : tagAt? (c :: cs) = none := by
  simp only [isSpecial, Bool.or_eq_false_iff, beq_eq_false_iff_ne] at h
  rw [tagAt?, List.takeWhile_cons_of_neg (by simpa using h.1.1.2)]
  split
  · rename_i rest hrest
    exact absurd (List.head_eq_of_cons_eq hrest) h.1.1.1
  · rfl

/-- A character that is not special does not matter. -/
theorem isPlain_cons_iff {c : Char} (h : isSpecial c = false) (cs : List Char) : IsPlain (c :: cs) ↔ IsPlain cs := by
  have htag := tagAt?_cons h cs
  simp only [isSpecial, Bool.or_eq_false_iff, beq_eq_false_iff_ne] at h
  obtain ⟨⟨⟨-, hbackslash⟩, hcolon⟩, hmoves⟩ := h
  have hnames : Emoji.shown (c :: cs) = c :: Emoji.shown cs := by
    rw [Emoji.shown, Emoji.shownFrom, if_neg (by simpa using hcolon)]
    rfl
  have hescape : ¬ ['\\', '['] <+: c :: cs := fun ⟨_, hcs⟩ => hbackslash (List.head_eq_of_cons_eq hcs).symm
  constructor
  · intro hplain
    refine ⟨fun part hpart => hplain.tagless part (hpart.trans (List.suffix_cons c cs)), ?_, ?_, ?_⟩
    · exact fun hinfix => hplain.unescaped (List.infix_cons hinfix)
    · exact List.tail_eq_of_cons_eq (hnames.symm.trans hplain.nameless)
    · exact fun d hd => hplain.still d (List.mem_cons_of_mem c hd)
  · intro hplain
    refine ⟨fun part hpart => ?_, ?_, ?_, ?_⟩
    · rcases List.suffix_cons_iff.mp hpart with rfl | hpart
      · exact htag
      · exact hplain.tagless part hpart
    · rw [List.infix_cons_iff, or_iff_right hescape]
      exact hplain.unescaped
    · rw [hnames, hplain.nameless]
    · exact List.forall_mem_cons.mpr ⟨hmoves, hplain.still⟩

theorem isPlain_nil : IsPlain [] := (shown_eq_ok_iff []).mp rfl

/-- A text without special characters is plain. -/
theorem isPlain_of_specials_eq_zero {cs : List Char} (h : specials cs = 0) : IsPlain cs := by
  have hall : ∀ c ∈ cs, isSpecial c = false := fun c hc => by simpa using List.countP_eq_zero.mp h c hc
  induction cs with
  | nil => exact isPlain_nil
  | cons c cs ih =>
    obtain ⟨hc, hcs⟩ := List.forall_mem_cons.mp hall
    exact (isPlain_cons_iff hc cs).mpr (ih (List.countP_eq_zero.mpr fun d hd => by simp [hcs d hd]) hcs)

theorem tagAt?_of_not_mem {cs : List Char} (h : '[' ∉ cs) : tagAt? cs = none := by
  rw [tagAt?]
  split
  · rename_i rest hdrop
    have hmem : '[' ∈ cs.drop (cs.takeWhile (· == '\\')).length := hdrop ▸ List.mem_cons_self
    exact absurd (List.mem_of_mem_drop hmem) h
  · rfl

/-- A text without brackets has no tags, and can be printed. -/
theorem shown_of_not_mem {cs : List Char} (h : '[' ∉ cs) : shown cs = .ok (shownRun cs) := by
  rw [shown, (pieces_eq_iff cs).mpr fun part hpart => tagAt?_of_not_mem fun hmem => h (hpart.subset hmem)]
  exact shownPieces_characters [] [] cs

end Phrasebook.Console.Markup
