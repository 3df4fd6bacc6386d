import Mathlib.Data.List.TakeWhile
import Phrasebook.Source.Lexeme

/-!
# Blanks and comments

What stands before a lexeme is blanks and comments: block comments, line comments, and the comments that an arrow of
hyphens opens. The last two end with their line, so what they are followed by belongs to what they are.

Results:
1. `IsTrivia`: characters are blanks and comments, given what follows them.
2. `isTrivia_trivia`: what is split off before a lexeme is.
3. `IsTrivia.firstComment`: it can be split after a comment, and both parts are.
-/

namespace Phrasebook.Source.Lexeme

/-! ## 1. Characters that mean nothing -/

/-- The next character, if there is one, ends a line. -/
def EndsLine (ends : Char → Bool) (cs : List Char) : Prop := ∀ c ∈ cs.head?, ends c = true

/-- Characters are blanks and comments, given what follows them. A block comment ends where it first can; a comment that
ends with its line is followed by the end of the line, or by nothing. -/
inductive IsTrivia : List Char → List Char → Prop
  | nil (rest : List Char) : IsTrivia [] rest
  | blank {c : Char} {cs rest : List Char} : isSpace c = true → IsTrivia cs rest → IsTrivia (c :: cs) rest
  | line {body cs rest : List Char} :
      (∀ c ∈ body, endsLineComment c = false) → EndsLine endsLineComment (cs ++ rest) → IsTrivia cs rest →
        IsTrivia ('/' :: '/' :: (body ++ cs)) rest
  | block {body cs rest : List Char} :
      ¬ ['*', '/'] <:+: body → IsTrivia cs rest → IsTrivia ('/' :: '*' :: (body ++ '*' :: '/' :: cs)) rest
  | arrow {opening body cs rest : List Char} :
      (opening = ['<', '!', '-', '-'] ∨ opening = ['-', '-', '>']) →
        (∀ c ∈ body, arrowComment.endsArrowComment c = false) →
          EndsLine arrowComment.endsArrowComment (cs ++ rest) → IsTrivia cs rest → IsTrivia (opening ++ body ++ cs) rest

theorem EndsLine.mono {ends : Char → Bool} {cs rest rest' : List Char} (h : EndsLine ends (cs ++ rest))
    (hhead : ∀ c ∈ rest'.head?, c ∈ rest.head?) : EndsLine ends (cs ++ rest') := by
  cases cs with
  | nil => exact fun c hc => h c (hhead c hc)
  | cons d cs => exact h

namespace IsTrivia

/-- Only the first character of what follows matters. -/
theorem mono {cs rest rest' : List Char} (h : IsTrivia cs rest) (hhead : ∀ c ∈ rest'.head?, c ∈ rest.head?) :
    IsTrivia cs rest' := by
  induction h with
  | nil => exact .nil _
  | blank hc _ ih => exact .blank hc (ih hhead)
  | line hbody hends _ ih => exact .line hbody (hends.mono hhead) (ih hhead)
  | block hbody _ ih => exact .block hbody (ih hhead)
  | arrow hopening hbody hends _ ih => exact .arrow hopening hbody (hends.mono hhead) (ih hhead)

/-- Blanks and comments before blanks and comments. -/
theorem append {cs ds rest : List Char} (h : IsTrivia cs (ds ++ rest)) (h' : IsTrivia ds rest) :
    IsTrivia (cs ++ ds) rest := by
  generalize hfollowing : ds ++ rest = following at h
  induction h with
  | nil => exact h'
  | blank hc _ ih => exact .blank hc (ih hfollowing)
  | line hbody hends _ ih =>
    rw [← hfollowing, ← List.append_assoc] at hends
    rw [List.cons_append, List.cons_append, List.append_assoc]
    exact .line hbody hends (ih hfollowing)
  | block hbody _ ih =>
    rw [List.cons_append, List.cons_append, List.append_assoc]
    exact .block hbody (ih hfollowing)
  | arrow hopening hbody hends _ ih =>
    rw [← hfollowing, ← List.append_assoc] at hends
    rw [List.append_assoc]
    exact .arrow hopening hbody hends (ih hfollowing)

theorem of_blanks {cs : List Char} (h : ∀ c ∈ cs, isSpace c = true) (rest : List Char) : IsTrivia cs rest := by
  induction cs with
  | nil => exact .nil _
  | cons c cs ih =>
    obtain ⟨hc, hcs⟩ := List.forall_mem_cons.mp h
    exact .blank hc (ih hcs)

end IsTrivia

/-! ## 2. What is split off before a lexeme -/

theorem spanChars_eq (p : Char → Bool) (cs : List Char) : spanChars p cs = (cs.takeWhile p, cs.dropWhile p) := by
  induction cs with
  | nil => rfl
  | cons c cs ih =>
    rw [spanChars, ih, List.takeWhile_cons, List.dropWhile_cons]
    split
    · rfl
    · rfl

theorem isSpace_of_endsLineComment {c : Char} (h : endsLineComment c = true) : isSpace c = true := by
  simp only [endsLineComment, isSpace, Bool.or_eq_true, beq_iff_eq, Bool.and_eq_true, decide_eq_true_eq] at h ⊢
  rcases h with ((rfl | rfl) | h) | h
  · decide
  · decide
  · omega
  · omega

/-- Nothing is lost where blanks and comments are split off. -/
theorem trivia_append (blank : Char → Bool) (place : TriviaPlace) (cs : List Char) :
    (trivia blank place cs).1 ++ (trivia blank place cs).2 = cs := by
  fun_induction trivia blank place cs <;> simp_all [ahead]

/-- What is split off, inside a comment or between lexemes, and what follows it. -/
def IsSplitAt (front rest : List Char) : TriviaPlace → Prop
  | .between => IsTrivia front rest
  | .lineComment => ∃ body cs, front = body ++ cs ∧ (∀ c ∈ body, endsLineComment c = false) ∧
      EndsLine endsLineComment (cs ++ rest) ∧ IsTrivia cs rest
  | .blockComment => ∃ body cs, front = body ++ '*' :: '/' :: cs ∧ ¬ ['*', '/'] <:+: body ∧ IsTrivia cs rest

theorem EndsLine.nil (ends : Char → Bool) : EndsLine ends [] := fun _ hc => absurd hc (by simp)

/-- The sign that closes a block comment does not start one character before it. -/
theorem not_infix_cons {c : Char} {body rest : List Char} (hbody : ¬ ['*', '/'] <:+: body)
    (hstart : ∀ r, c = '*' → body ++ '*' :: rest = '/' :: r → False) : ¬ ['*', '/'] <:+: c :: body := by
  rw [List.infix_cons_iff]
  rintro (hfront | hwithin)
  · obtain ⟨more, hmore⟩ := hfront
    obtain ⟨rfl, rfl⟩ := List.cons.inj hmore
    exact hstart (more ++ '*' :: rest) rfl rfl
  · exact hbody hwithin

theorem isSplitAt_trivia (place : TriviaPlace) (cs : List Char)
    (hclosed : place = .blockComment → closesComment cs = true) :
    IsSplitAt (trivia isSpace place cs).1 (trivia isSpace place cs).2 place := by
  fun_induction trivia isSpace place cs with
  | case1 place =>
    cases place with
    | between => exact .nil _
    | lineComment => exact ⟨[], [], rfl, fun _ hc => absurd hc List.not_mem_nil, .nil _, .nil _⟩
    | blockComment => exact absurd (hclosed rfl) (by simp [closesComment])
  | case2 r ih =>
    obtain ⟨body, cs, hsplit, hbody, hends, hrest⟩ := ih (by simp)
    rw [ahead, hsplit]
    show IsTrivia ('/' :: '/' :: (body ++ cs)) _
    exact .line hbody hends hrest
  | case3 r hcloses ih =>
    obtain ⟨body, cs, hsplit, hbody, hrest⟩ := ih fun _ => hcloses
    rw [ahead, hsplit]
    exact .block hbody hrest
  | case4 => exact .nil _
  | case5 c r hline hblock hblank ih => exact .blank hblank (ih (by simp))
  | case6 => exact .nil _
  | case7 c r hends ih =>
    refine ⟨[], c :: (trivia isSpace .between r).1, rfl, fun _ hc => absurd hc List.not_mem_nil, ?_,
      .blank (isSpace_of_endsLineComment hends) (ih (by simp))⟩
    rintro _ ⟨⟩
    exact hends
  | case8 c r hends ih =>
    obtain ⟨body, cs, hsplit, hbody, hline, hrest⟩ := ih (by simp)
    refine ⟨c :: body, cs, ?_, List.forall_mem_cons.mpr ⟨by simpa using hends, hbody⟩, hline, hrest⟩
    rw [ahead, hsplit]
    rfl
  | case9 r ih => exact ⟨[], (trivia isSpace .between r).1, rfl, by simp, ih (by simp)⟩
  | case10 c r hnot ih =>
    have hcloses := hclosed rfl
    rw [closesComment.eq_def] at hcloses
    obtain ⟨body, cs, hsplit, hbody, hrest⟩ := ih fun _ => by
      split at hcloses
      · rename_i heq
        cases heq
        exact (hnot _ rfl rfl).elim
      · rename_i heq
        cases heq
        exact hcloses
      · exact absurd hcloses (by simp)
    refine ⟨c :: body, cs, ?_, ?_, hrest⟩
    · rw [ahead, hsplit]
      rfl
    · have happend := trivia_append isSpace .blockComment r
      rw [hsplit, List.append_assoc] at happend
      exact not_infix_cons hbody fun r' hc hr' => hnot r' hc (happend.symm.trans hr')

/-- What is split off before a lexeme is blanks and comments. -/
theorem isTrivia_trivia (cs : List Char) : IsTrivia (trivia isSpace .between cs).1 (trivia isSpace .between cs).2 :=
  isSplitAt_trivia .between cs (by simp)

/-- So is a comment that is opened by an arrow. -/
theorem isTrivia_arrowComment {cs comment rest : List Char} (h : arrowComment cs = some (comment, rest)) :
    cs = comment ++ rest ∧ IsTrivia comment rest := by
  have hcomment {opening r : List Char} (hopening : opening = ['<', '!', '-', '-'] ∨ opening = ['-', '-', '>'])
      (hnone : opening.all (fun c => !arrowComment.endsArrowComment c) = true)
      (hspan : spanChars (fun c => !arrowComment.endsArrowComment c) (opening ++ r) = (comment, rest)) :
      opening ++ r = comment ++ rest ∧ IsTrivia comment rest := by
    have hall : ∀ c ∈ opening, (!arrowComment.endsArrowComment c) = true := List.all_eq_true.mp hnone
    rw [spanChars_eq, List.takeWhile_append_of_pos hall, List.dropWhile_append_of_pos hall] at hspan
    obtain ⟨rfl, rfl⟩ := Prod.mk.inj hspan
    refine ⟨by rw [List.append_assoc, List.takeWhile_append_dropWhile], ?_⟩
    have hbody (c : Char) (hc : c ∈ r.takeWhile fun c => !arrowComment.endsArrowComment c) :
        arrowComment.endsArrowComment c = false := by
      simpa using List.mem_takeWhile_imp (p := fun c => !arrowComment.endsArrowComment c) hc
    have hline : EndsLine arrowComment.endsArrowComment
        ([] ++ r.dropWhile fun c => !arrowComment.endsArrowComment c) := by
      intro c hc
      have hhead := List.head?_dropWhile_not (fun c => !arrowComment.endsArrowComment c) r
      rw [List.nil_append, Option.mem_def] at hc
      rw [hc] at hhead
      simpa using hhead
    have htrivia := IsTrivia.arrow hopening hbody hline (.nil _)
    rwa [List.append_nil] at htrivia
  rw [arrowComment.eq_def] at h
  split at h
  · exact @hcomment ['<', '!', '-', '-'] _ (.inl rfl) rfl (Option.some.inj h)
  · exact @hcomment ['-', '-', '>'] _ (.inr rfl) rfl (Option.some.inj h)
  · exact absurd h (by simp)

/-! ## 3. Splitting after a comment -/

theorem blockCommentEnd_append {body : List Char} (hbody : ¬ ['*', '/'] <:+: body) (rest : List Char) :
    blockCommentEnd (body ++ '*' :: '/' :: rest) = some (body ++ ['*', '/'], rest) := by
  induction body with
  | nil => rfl
  | cons c body ih =>
    rw [List.infix_cons_iff, not_or] at hbody
    rw [List.cons_append, blockCommentEnd, ih hbody.2]
    · rfl
    · rintro r rfl hr
      cases body with
      | nil => exact absurd hr (by simp)
      | cons d body =>
        obtain ⟨rfl, -⟩ := List.cons.inj hr
        exact hbody.1 ⟨body, rfl⟩

/-- Characters up to the end of a line. -/
theorem spanChars_append {ends : Char → Bool} {body cs rest : List Char} (hbody : ∀ c ∈ body, ends c = false)
    (hends : EndsLine ends (cs ++ rest)) : spanChars (fun c => !ends c) (body ++ cs) = (body, cs) := by
  have hstop : cs.takeWhile (fun c => !ends c) = [] ∧ cs.dropWhile (fun c => !ends c) = cs := by
    cases cs with
    | nil => exact ⟨rfl, rfl⟩
    | cons c cs =>
      have hc := hends c rfl
      exact ⟨List.takeWhile_cons_of_neg (by simp [hc]), List.dropWhile_cons_of_neg (by simp [hc])⟩
  have hall : ∀ c ∈ body, (!ends c) = true := fun c hc => by rw [hbody c hc]; rfl
  rw [spanChars_eq, List.takeWhile_append_of_pos hall, List.dropWhile_append_of_pos hall, hstop.1, hstop.2, List.append_nil]

theorem firstComment_cons_blank {c : Char} (hc : isSpace c = true) (cs : List Char) :
    firstComment (c :: cs) = (firstComment cs).map (ahead [c]) := by
  rw [firstComment, firstComment, spanChars, if_pos hc]
  dsimp only
  split
  · rfl
  · rw [Option.map_map]
    rfl
  · rfl

/-- Blanks and comments can be split after the first comment. -/
theorem IsTrivia.firstComment {cs rest comment after : List Char} (h : IsTrivia cs rest)
    (hsplit : firstComment cs = some (comment, after)) :
    cs = comment ++ after ∧ IsTrivia comment (after ++ rest) ∧ IsTrivia after rest := by
  induction h generalizing comment after with
  | nil => exact absurd hsplit (by simp [Lexeme.firstComment, spanChars])
  | blank hc _ ih =>
    rw [firstComment_cons_blank hc, Option.map_eq_some_iff] at hsplit
    obtain ⟨⟨comment', after'⟩, hfirst, heq⟩ := hsplit
    obtain ⟨rfl, rfl⟩ := Prod.mk.inj heq
    obtain ⟨rfl, hcomment, hafter⟩ := ih hfirst
    exact ⟨rfl, .blank hc hcomment, hafter⟩
  | @line body cs rest hbody hends hrest ih =>
    change some (ahead ['/', '/'] (spanChars (fun c => !endsLineComment c) (body ++ cs))) = _ at hsplit
    rw [spanChars_append hbody hends] at hsplit
    obtain ⟨rfl, rfl⟩ := Prod.mk.inj (Option.some.inj hsplit)
    refine ⟨rfl, ?_, hrest⟩
    have hcomment : IsTrivia ('/' :: '/' :: (body ++ [])) (cs ++ rest) := .line hbody hends (.nil _)
    rwa [List.append_nil] at hcomment
  | @block body cs rest hbody hrest ih =>
    change (blockCommentEnd (body ++ '*' :: '/' :: cs)).map (ahead ['/', '*']) = _ at hsplit
    rw [blockCommentEnd_append hbody] at hsplit
    obtain ⟨rfl, rfl⟩ := Prod.mk.inj (Option.some.inj hsplit)
    exact ⟨by simp, .block hbody (.nil _), hrest⟩
  | arrow hopening hbody hends hrest ih =>
    rcases hopening with rfl | rfl
    · exact absurd (show none = _ from hsplit) (by simp)
    · exact absurd (show none = _ from hsplit) (by simp)

end Phrasebook.Source.Lexeme
