import Phrasebook.Proofs.Readers
import Phrasebook.Proofs.Trivia

/-!
# What leaves hold

A reader is put together from others, and a tree from leaves. Wherever a tree stands, its leaves are of one make: what is
before a lexeme is blanks and comments, a string is a literal, a text between tags has no brace in it and closes its
references, and what is called a name is a leaf.

Results:
1. `Tree.IsWellRead`: what the leaves and the nodes of each kind hold.
2. `Reader.Keeps`: a reader answers trees of this make and leaves off before a lexeme, with one lemma for each way to put
   readers together.
-/

namespace Phrasebook.Source

/-! ## 1. Trees -/

/-- A string literal, as it is split off somewhere. -/
def Lexeme.IsLiteral (text : List Char) : Prop := ∃ cs rest, Lexeme.string cs = some (text, rest)

/-- The first line of a script that names its interpreter, without the end of the line. -/
def Lexeme.IsHashbang (text : List Char) : Prop := ∃ body, text = '#' :: '!' :: body ∧ '\n' ∉ body

/-- No brace is in a text between tags, and a semicolon follows each ampersand no later than after the longest name. -/
def Lexeme.IsLiteralText : List Char → Prop
  | [] => True
  | c :: cs =>
    c ≠ '\x7b' ∧ (c = '&' → ∃ run rest, cs = run ++ ';' :: rest ∧ run.length ≤ Lexeme.referenceNameLimit) ∧
      IsLiteralText cs

/-- Whether a leaf of a kind may hold whatever it does. -/
abbrev Kind.isPlain : Kind → Bool
  | .string | .hashbang | .text | .reference => false
  | _ => true

/-- Whether a node of a kind may have whatever parts. -/
abbrev Kind.isFree : Kind → Bool
  | .token | .identifier | .hyphenated | .string | .hashbang | .defaultWord | .text | .reference | .shorthand => false
  | .importSpecifier | .expressionStatement => false
  | _ => true

namespace Tree

/-- What the leaves of a kind hold. -/
def HoldsFor (before text : List Char) : Kind → Prop
  | .string => Lexeme.IsLiteral text
  | .hashbang => Lexeme.IsHashbang text
  | .text | .reference => Lexeme.IsLiteralText (before ++ text)
  | _ => True

/-- The end of a statement: a semicolon, or nothing in its place. -/
def IsStop : Tree → Prop
  | leaf _ k _ text => k = .token ∧ (text = [] ∨ text = [';'])
  | node _ _ _ => False

/-- What the parts of a kind of node are. -/
def HasPartsFor (cs : List Tree) : Kind → Prop
  | .importSpecifier => ∀ c ∈ cs, c.isLeaf = true
  | .expressionStatement => ∃ value stop : Tree, cs = [value, stop] ∧ value.role = .value ∧ stop.role = .plain ∧ stop.IsStop
  | k => k.isFree = true

mutual
/-- A tree as readers make it. -/
def IsWellRead : Tree → Prop
  | leaf _ k before text => Lexeme.IsTrivia before text ∧ HoldsFor before text k
  | node _ k cs => HasPartsFor cs k ∧ AreWellRead cs
/-- A row of trees as readers make it. -/
def AreWellRead : List Tree → Prop
  | [] => True
  | t :: ts => IsWellRead t ∧ AreWellRead ts
end

theorem areWellRead_iff {ts : List Tree} : AreWellRead ts ↔ ∀ t ∈ ts, t.IsWellRead := by
  induction ts with
  | nil => simp [AreWellRead]
  | cons t ts ih => rw [AreWellRead, ih, List.forall_mem_cons]

theorem inRole_cons_of_eq {r : Role} {t : Tree} (h : t.role = r) (ts : List Tree) : inRole r (t :: ts) = some t := by
  rw [inRole, List.find?_cons, h, beq_self_eq_true]

/-- A tree of a kind that has no parts is a leaf. -/
theorem isLeaf_of_isWellRead {t : Tree} (h : t.IsWellRead) (hkind : ∀ cs, ¬ HasPartsFor cs t.kind) : t.isLeaf = true := by
  cases t with
  | leaf r k before text => rfl
  | node r k cs => exact absurd h.1 (hkind cs)

/-- Trees as readers make them are regular. -/
theorem isRegular_of_isWellRead {t : Tree} (h : t.IsWellRead) : t.IsRegular := by
  cases t with
  | leaf r k before text => trivial
  | node r k cs =>
    refine ⟨fun hk => ?_, fun hk => ?_, fun hk hstring => ?_⟩
    · rw [IsWellRead, hk] at h
      exact Bool.false_ne_true h.1
    · rw [IsWellRead, hk] at h
      exact Bool.false_ne_true h.1
    · -- a string that is a value is a leaf, and so is the end of the statement
      rw [IsWellRead, hk] at h
      obtain ⟨⟨value, stop, rfl, hvalue, -, hstop⟩, hvalueRead, -⟩ := h
      rw [inRole_cons_of_eq hvalue, Option.any_some, beq_iff_eq] at hstring
      refine List.forall_mem_cons.mpr ⟨isLeaf_of_isWellRead hvalueRead ?_, ?_⟩
      · rw [hstring]
        exact fun _ => Bool.false_ne_true
      · cases stop with
        | leaf r k before text => exact List.forall_mem_singleton.mpr rfl
        | node r k cs => cases hstop

theorem isWellRead_withRole {t : Tree} (h : t.IsWellRead) (r : Role) : (t.withRole r).IsWellRead := by
  cases t with
  | leaf _ k before text => exact h
  | node _ k cs => exact h

end Tree

/-- Only blanks and comments come before what follows. -/
def Cursor.IsClean (c : Cursor) : Prop := Lexeme.IsTrivia c.before c.rest

theorem Cursor.isClean_ofChars (cs : List Char) : (ofChars cs).IsClean := Lexeme.isTrivia_trivia cs

/-- Comments opened by arrows are comments. -/
theorem Cursor.isClean_skipArrowComments (n : Nat) {c : Cursor} (hc : c.IsClean) : (c.skipArrowComments n).IsClean := by
  induction n generalizing c with
  | zero => exact hc
  | succ n ih =>
    rw [skipArrowComments]
    split
    · rename_i comment rest hsplit
      obtain ⟨hrest, hcomment⟩ := Lexeme.isTrivia_arrowComment hsplit
      have hnext := isClean_ofChars rest
      have hchars : (ofChars rest).before ++ (ofChars rest).rest = rest := Lexeme.trivia_append _ _ _
      rw [← hchars] at hcomment
      have hlater : Lexeme.IsTrivia (comment ++ (ofChars rest).before) (ofChars rest).rest := hcomment.append hnext
      refine ih ?_
      rw [IsClean, hrest] at hc
      rw [← hchars, ← List.append_assoc] at hc
      rw [IsClean, List.append_assoc]
      exact hc.append hlater
    · exact hc

/-! ## 2. Lexemes -/

namespace Lexeme

/-- A lexeme is split off the front: it starts with the first character. -/
class IsFront (split : Splitter) : Prop where
  front : ∀ ⦃cs text rest⦄, split cs = some (text, rest) → ∀ c ∈ text.head?, c ∈ cs.head?

/-- What is split off together with the first character starts with it. -/
theorem head?_of_ahead {c : Char} {front text rest : List Char} {split : List Char × List Char}
    (h : ahead (c :: front) split = (text, rest)) : text.head? = some c := by
  rw [← (Prod.mk.inj h).1]
  rfl

theorem head?_of_map_ahead {α : Type} {c : Char} {front text rest : List Char} {found : Option α}
    {split : α → List Char × List Char} (h : (found.map fun x => ahead (c :: front) (split x)) = some (text, rest)) :
    text.head? = some c := by
  obtain ⟨_, -, heq⟩ := Option.map_eq_some_iff.mp h
  exact head?_of_ahead heq

instance isFront_exactly (text : List Char) : IsFront (exactly text) := by
  refine ⟨fun cs text' rest h c hc => ?_⟩
  obtain ⟨after, hafter, heq⟩ := Option.map_eq_some_iff.mp h
  obtain ⟨rfl, -⟩ := Prod.mk.inj heq
  cases text with
  | nil => exact absurd hc (by simp)
  | cons x text =>
    cases cs with
    | nil => exact absurd hafter (by simp [after?])
    | cons d cs =>
      rw [after?] at hafter
      split at hafter
      · rename_i heq
        rw [← beq_iff_eq.mp heq]
        exact hc
      · exact absurd hafter (by simp)

instance isFront_spanChars (p : Char → Bool) : IsFront fun cs => some (spanChars p cs) := by
  refine ⟨fun cs text rest h c hc => ?_⟩
  obtain ⟨rfl, -⟩ := Prod.mk.inj ((Option.some.inj h).symm.trans (spanChars_eq p cs))
  cases cs with
  | nil => exact hc
  | cons d cs =>
    rw [List.takeWhile_cons] at hc
    split at hc
    · exact hc
    · exact absurd hc (by simp)

instance isFront_name : IsFront name := by
  refine ⟨fun cs text rest h c hc => ?_⟩
  rw [name.eq_def] at h
  split at h
  · exact absurd h (by simp)
  · split at h
    · exact absurd h (by simp)
    · split at h
      · exact absurd h (by simp)
      · rename_i hnonempty
        rw [nameTail] at h
        split at h
        · rw [head?_of_ahead (Option.some.inj h)] at hc
          exact hc
        · split at h
          · rw [head?_of_ahead (Option.some.inj h)] at hc
            exact hc
          · rw [← (Prod.mk.inj (Option.some.inj h)).1] at hc
            exact absurd hc (by simp)

instance isFront_arrowComment : IsFront arrowComment := by
  refine ⟨fun cs text rest h => ?_⟩
  rw [arrowComment.eq_def] at h
  split at h
  · exact (isFront_spanChars _).front h
  · exact (isFront_spanChars _).front h
  · exact absurd h (by simp)

instance isFront_string : IsFront string := by
  refine ⟨fun cs text rest h c hc => ?_⟩
  rw [string.eq_def] at h
  split at h
  · rwa [head?_of_map_ahead h] at hc
  · rwa [head?_of_map_ahead h] at hc
  · exact absurd h (by simp)

instance isFront_tagString : IsFront tagString := by
  refine ⟨fun cs text rest h c hc => ?_⟩
  rw [tagString.eq_def] at h
  split at h
  · rwa [head?_of_map_ahead h] at hc
  · rwa [head?_of_map_ahead h] at hc
  · exact absurd h (by simp)

instance isFront_hyphenatedName : IsFront hyphenatedName := by
  refine ⟨fun cs text rest h c hc => ?_⟩
  rw [hyphenatedName.eq_def] at h
  split at h
  · exact absurd h (by simp)
  · split at h
    · exact absurd h (by simp)
    · rename_i c' r hplain
      rw [Bool.or_eq_true, not_or, Bool.not_eq_true', Bool.not_eq_false] at hplain
      split at h
      · rename_i front r' hspan
        rw [spanChars, if_pos hplain.1] at hspan
        rw [← (Prod.mk.inj hspan).1] at h
        rwa [head?_of_ahead (Option.some.inj h)] at hc
      · exact absurd h (by simp)

instance isFront_decimal : IsFront number.decimal := by
  refine ⟨fun cs text rest h c hc => ?_⟩
  obtain ⟨⟨ds, r⟩, hdigits, heq⟩ := Option.map_eq_some_iff.mp h
  have hhead : ∃ d ds', ds = d :: ds' ∧ cs.head? = some d := by
    rw [digits.eq_def] at hdigits
    split at hdigits
    · exact absurd hdigits (by simp)
    · rename_i d r
      split at hdigits
      · exact ⟨d, _, (Prod.mk.inj (Option.some.inj hdigits)).1.symm, rfl⟩
      · exact absurd hdigits (by simp)
  obtain ⟨d, ds, rfl, hd⟩ := hhead
  rw [hd]
  dsimp only at heq
  split at heq
  · rw [← (Prod.mk.inj heq).1] at hc
    exact hc
  · rwa [head?_of_ahead heq] at hc
  · rwa [head?_of_ahead heq] at hc

instance isFront_number : IsFront number := by
  refine ⟨fun cs text rest h c hc => ?_⟩
  rw [number.eq_def] at h
  split at h
  · rwa [head?_of_map_ahead h] at hc
  · split at h
    · rwa [head?_of_map_ahead h] at hc
    · split at h
      · rwa [head?_of_map_ahead h] at hc
      · split at h
        · rwa [head?_of_map_ahead h] at hc
        · exact isFront_decimal.front h c hc
  · exact isFront_decimal.front h c hc

instance isFront_regularExpression : IsFront regularExpression := by
  refine ⟨fun cs text rest h c hc => ?_⟩
  rw [regularExpression.eq_def] at h
  split at h
  · split at h
    · exact absurd h (by simp)
    · obtain ⟨_, -, heq⟩ := Option.map_eq_some_iff.mp h
      rwa [head?_of_ahead heq] at hc
  · exact absurd h (by simp)

theorem exists_of_closed {front cs text rest : List Char} {limit : Nat} {p : Char → Bool}
    (h : reference.closed front limit (spanChars p cs) = some (text, rest)) :
    ∃ run, text = front ++ run ++ [';'] ∧ run.length ≤ limit ∧ ∀ c ∈ run, p c = true := by
  rw [spanChars_eq, reference.closed.eq_def] at h
  split at h
  · exact absurd h (by simp)
  · rename_i heq
    split at h
    · rename_i hlength
      rw [← (Prod.mk.inj heq).1] at h hlength
      exact ⟨_, (Prod.mk.inj (Option.some.inj h)).1.symm, hlength, fun c hc => List.mem_takeWhile_imp hc⟩
    · exact absurd h (by simp)
  · exact absurd h (by simp)

namespace IsLiteralText

theorem of_plain {cs : List Char} (h : ∀ c ∈ cs, c ≠ '\x7b' ∧ c ≠ '&') : IsLiteralText cs := by
  induction cs with
  | nil => trivial
  | cons c cs ih =>
    obtain ⟨⟨hbrace, hampersand⟩, hcs⟩ := List.forall_mem_cons.mp h
    exact ⟨hbrace, fun heq => absurd heq hampersand, ih hcs⟩

theorem append {cs ds : List Char} (hcs : IsLiteralText cs) (hds : IsLiteralText ds) : IsLiteralText (cs ++ ds) := by
  induction cs with
  | nil => exact hds
  | cons c cs ih =>
    obtain ⟨hbrace, hampersand, hcs⟩ := hcs
    refine ⟨hbrace, fun heq => ?_, ih hcs⟩
    obtain ⟨run, rest, rfl, hlength⟩ := hampersand heq
    exact ⟨run, rest ++ ds, List.append_assoc .., hlength⟩

theorem of_append {cs ds : List Char} (h : IsLiteralText (cs ++ ds)) : IsLiteralText ds := by
  induction cs with
  | nil => exact h
  | cons c cs ih => exact ih h.2.2

theorem not_mem {cs : List Char} (h : IsLiteralText cs) : '\x7b' ∉ cs := by
  induction cs with
  | nil => exact List.not_mem_nil
  | cons c cs ih => exact fun hmem => (List.mem_cons.mp hmem).elim (fun heq => h.1 heq.symm) (ih h.2.2)

end IsLiteralText

/-- A reference is a literal text. -/
theorem isLiteralText_reference {cs text rest : List Char} (h : reference cs = some (text, rest)) :
    IsLiteralText text := by
  have hclosed {front cs : List Char} {limit : Nat} {p : Char → Bool} (hlimit : front.length + limit ≤ referenceNameLimit)
      (hfront : '\x7b' ∉ front ∧ '&' ∉ front) (hp : ∀ c, p c = true → c ≠ '\x7b' ∧ c ≠ '&')
      (h : reference.closed ('&' :: front) limit (spanChars p cs) = some (text, rest)) : IsLiteralText text := by
    obtain ⟨run, rfl, hlength, hrun⟩ := exists_of_closed h
    have hplain : ∀ c ∈ front ++ run ++ [';'], c ≠ '\x7b' ∧ c ≠ '&' := by
      have hbefore (c : Char) (hc : c ∈ front) : c ≠ '\x7b' ∧ c ≠ '&' :=
        ⟨fun heq => hfront.1 (heq ▸ hc), fun heq => hfront.2 (heq ▸ hc)⟩
      simp only [List.forall_mem_append, List.forall_mem_singleton]
      exact ⟨⟨hbefore, fun c hc => hp c (hrun c hc)⟩, by decide⟩
    refine ⟨by decide, fun _ => ⟨front ++ run, [], rfl, ?_⟩, .of_plain hplain⟩
    rw [List.length_append]
    omega
  have hne {p : Char → Bool} (hbrace : p '\x7b' = false) (hampersand : p '&' = false) (c : Char) (hc : p c = true) :
      c ≠ '\x7b' ∧ c ≠ '&' :=
    ⟨fun heq => by simp [heq, hbrace] at hc, fun heq => by simp [heq, hampersand] at hc⟩
  rw [reference.eq_def] at h
  split at h
  · split at h
    · split at h
      · rename_i x r hx
        refine hclosed (by simp [referenceNameLimit]) ?_ (hne (by decide) (by decide)) h
        rw [Bool.or_eq_true, beq_iff_eq, beq_iff_eq] at hx
        rcases hx with rfl | rfl
        · decide
        · decide
      · exact hclosed (by decide) (by decide) (hne (by decide) (by decide)) h
    · exact absurd h (by simp)
  · exact hclosed (by decide) (by decide) (hne (by decide) (by decide)) h
  · exact absurd h (by simp)

instance isFront_reference : IsFront reference := by
  have hclosed {c : Char} {front cs text rest : List Char} {limit : Nat} {p : Char → Bool}
      (h : reference.closed (c :: front) limit (spanChars p cs) = some (text, rest)) : text.head? = some c := by
    obtain ⟨run, rfl, -, -⟩ := exists_of_closed h
    rfl
  refine ⟨fun cs text rest h c hc => ?_⟩
  rw [reference.eq_def] at h
  split at h
  · split at h
    · split at h
      · rwa [hclosed h] at hc
      · rwa [hclosed h] at hc
    · exact absurd h (by simp)
  · rwa [hclosed h] at hc
  · exact absurd h (by simp)

end Lexeme

/-! ## 3. Readers put together -/

/-- Started before a lexeme, a reader leaves off before a lexeme, and the trees that it answers are well read. -/
class Reader.Keeps (p : Reader) : Prop where
  keeps : ∀ ⦃s c ts c'⦄, c.IsClean → p s c = some (ts, c') → c'.IsClean ∧ Tree.AreWellRead ts

namespace Reader

variable {p q : Reader}

theorem keeps_of_eq {ts us : List Tree} {c c' : Cursor} (heq : some (ts, c) = some (us, c'))
    (h : c.IsClean ∧ Tree.AreWellRead ts) : c'.IsClean ∧ Tree.AreWellRead us := by
  obtain ⟨rfl, rfl⟩ := Prod.mk.inj (Option.some.inj heq)
  exact h

theorem areWellRead_append {ts us : List Tree} :
    Tree.AreWellRead (ts ++ us) ↔ Tree.AreWellRead ts ∧ Tree.AreWellRead us := by
  simp only [Tree.areWellRead_iff, List.forall_mem_append]

instance keeps_nothing : Keeps nothing := by
  refine ⟨fun s c ts c' hc h => ?_⟩
  rw [nothing] at h
  exact keeps_of_eq h ⟨hc, trivial⟩

instance keeps_refuse : Keeps refuse := ⟨fun _ _ _ _ _ h => absurd h (by simp [refuse])⟩

instance keeps_append [hp : Keeps p] [hq : Keeps q] : Keeps (p ++ q) := by
  refine ⟨fun s c ts c' hc h => ?_⟩
  obtain ⟨xs, ys, c₁, hfirst, hsecond, rfl⟩ := exists_of_append h
  obtain ⟨hc₁, hxs⟩ := hp.keeps hc hfirst
  obtain ⟨hc₂, hys⟩ := hq.keeps hc₁ hsecond
  exact ⟨hc₂, areWellRead_append.mpr ⟨hxs, hys⟩⟩

instance keeps_orElse [hp : Keeps p] [hq : Keeps q] : Keeps (p <|> q) := by
  refine ⟨fun s c ts c' hc h => ?_⟩
  change orElse p q s c = _ at h
  rw [orElse] at h
  split at h
  · exact hq.keeps hc h
  · rename_i hfirst
    rw [h] at hfirst
    exact hp.keeps hc hfirst

instance keeps_firstOf_nil : Keeps (firstOf []) := keeps_refuse

instance keeps_firstOf_cons {ps : List Reader} [Keeps p] [Keeps (firstOf ps)] : Keeps (firstOf (p :: ps)) :=
  keeps_orElse

instance keeps_opt [Keeps p] : Keeps (opt p) := keeps_orElse

instance keeps_repeated [hp : Keeps p] (n : Nat) : Keeps (repeated p n) := by
  induction n with
  | zero => exact keeps_nothing
  | succ n ih =>
    refine ⟨fun s c ts c' hc h => ?_⟩
    rw [repeated] at h
    dsimp only at h
    split at h
    · exact keeps_of_eq h ⟨hc, trivial⟩
    · rename_i hfirst
      obtain ⟨hc₁, hts⟩ := hp.keeps hc hfirst
      split at h
      · exact keeps_of_eq h ⟨hc, trivial⟩
      · split at h
        · exact absurd h (by simp)
        · rename_i hmore
          obtain ⟨hc₂, hus⟩ := ih.keeps hc₁ hmore
          exact keeps_of_eq h ⟨hc₂, areWellRead_append.mpr ⟨hts, hus⟩⟩

instance keeps_many [Keeps p] : Keeps (many p) := ⟨fun s _ _ _ hc h => (keeps_repeated s.limit).keeps hc h⟩

instance keeps_atLeastOne [Keeps p] : Keeps (atLeastOne p) := keeps_append

instance keeps_sepBy [Keeps p] [Keeps q] : Keeps (sepBy p q) := keeps_append

instance keeps_ahead : Keeps (ahead p) := by
  refine ⟨fun s c ts c' hc h => ?_⟩
  obtain ⟨_, -, heq⟩ := Option.map_eq_some_iff.mp h
  exact keeps_of_eq (congrArg some heq) ⟨hc, trivial⟩

instance keeps_notAhead : Keeps (notAhead p) := by
  refine ⟨fun s c ts c' hc h => ?_⟩
  rw [notAhead] at h
  split at h
  · exact keeps_of_eq h ⟨hc, trivial⟩
  · exact absurd h (by simp)

/-- What a reader answers makes a construct of a kind. -/
theorem keeps_construct_of_parts {k : Kind} [hp : Keeps p]
    (hparts : ∀ s c ts c', p s c = some (ts, c') → Tree.HasPartsFor ts k) : Keeps (construct k p) := by
  refine ⟨fun s c ts c' hc h => ?_⟩
  obtain ⟨⟨us, c₁⟩, hread, heq⟩ := Option.map_eq_some_iff.mp h
  obtain ⟨hc₁, hus⟩ := hp.keeps hc hread
  exact keeps_of_eq (congrArg some heq) ⟨hc₁, ⟨hparts s c us c₁ hread, hus⟩, trivial⟩

instance fact_true : Fact (true = true) := ⟨rfl⟩

instance keeps_construct {k : Kind} [hk : Fact (k.isFree = true)] [Keeps p] : Keeps (construct k p) := by
  refine keeps_construct_of_parts fun _ _ ts _ _ => ?_
  have hfree := hk.out
  cases k <;> first | exact hfree | exact absurd hfree (by decide)

instance keeps_grouped [hp : Keeps p] : Keeps (grouped p) := by
  refine ⟨fun s c ts c' hc h => ?_⟩
  obtain ⟨⟨us, c₁⟩, hread, heq⟩ := Option.map_eq_some_iff.mp h
  obtain ⟨hc₁, hus⟩ := hp.keeps hc hread
  dsimp only at heq
  split at heq
  · exact keeps_of_eq (congrArg some heq) ⟨hc₁, hus⟩
  · exact keeps_of_eq (congrArg some heq) ⟨hc₁, ⟨rfl, hus⟩, trivial⟩

instance keeps_as (r : Role) [hp : Keeps p] : Keeps (as r p) := by
  refine ⟨fun s c ts c' hc h => ?_⟩
  obtain ⟨⟨us, c₁⟩, hread, heq⟩ := Option.map_eq_some_iff.mp h
  obtain ⟨hc₁, hus⟩ := hp.keeps hc hread
  refine keeps_of_eq (congrArg some heq) ⟨hc₁, ?_⟩
  rw [Tree.areWellRead_iff] at hus ⊢
  exact List.forall_mem_map.mpr fun t ht => Tree.isWellRead_withRole (hus t ht) r

theorem keeps_extended {step : Tree → Reader} (hstep : ∀ t : Tree, t.IsWellRead → Keeps (step t)) (n : Nat) {t : Tree}
    (ht : t.IsWellRead) : Keeps (extended step n t) := by
  induction n generalizing t with
  | zero => exact ⟨fun _ _ _ _ hc h => keeps_of_eq h ⟨hc, ht, trivial⟩⟩
  | succ n ih =>
    refine ⟨fun s c ts c' hc h => ?_⟩
    rw [extended] at h
    dsimp only at h
    split at h
    · rename_i hone
      obtain ⟨hc₁, hu, -⟩ := (hstep t ht).keeps hc hone
      exact (ih hu).keeps hc₁ h
    · exact keeps_of_eq h ⟨hc, ht, trivial⟩

theorem keeps_chain {step : Tree → Reader} [hp : Keeps p] (hstep : ∀ t : Tree, t.IsWellRead → Keeps (step t)) :
    Keeps (chain p step) := by
  refine ⟨fun s c ts c' hc h => ?_⟩
  rw [chain] at h
  split at h
  · rename_i hone
    obtain ⟨hc₁, ht, -⟩ := hp.keeps hc hone
    exact (keeps_extended hstep s.limit ht).keeps hc₁ h
  · exact hp.keeps hc h

theorem keeps_follow {next : List Tree → Reader} [hp : Keeps p] (hnext : ∀ ts, Tree.AreWellRead ts → Keeps (next ts)) :
    Keeps (follow p next) := by
  refine ⟨fun s c ts c' hc h => ?_⟩
  rw [follow] at h
  split at h
  · rename_i us _ hfirst
    obtain ⟨hc₁, hus⟩ := hp.keeps hc hfirst
    exact (hnext us hus).keeps hc₁ h
  · exact absurd h (by simp)

theorem keeps_given {ts : List Tree} (h : Tree.AreWellRead ts) : Keeps (given ts) :=
  ⟨fun _ _ _ _ hc heq => keeps_of_eq heq ⟨hc, h⟩⟩

instance keeps_typedOnly [hp : Keeps p] : Keeps (typedOnly p) := by
  refine ⟨fun s c ts c' hc h => ?_⟩
  rw [typedOnly] at h
  split at h
  · exact hp.keeps hc h
  · exact absurd h (by simp)

/-- A lexeme that starts with what is next makes a leaf. -/
theorem keeps_leaf_of_holds {k : Kind} {split : Lexeme.Splitter} [hsplit : Lexeme.IsFront split]
    (hholds : ∀ cs text rest before, split cs = some (text, rest) → Tree.HoldsFor before text k) : Keeps (leaf k split) := by
  refine ⟨fun s c ts c' hc h => ?_⟩
  obtain ⟨⟨text, rest⟩, hread, heq⟩ := Option.map_eq_some_iff.mp h
  exact keeps_of_eq (congrArg some heq)
    ⟨Cursor.isClean_ofChars rest, ⟨Lexeme.IsTrivia.mono hc (hsplit.front hread), hholds _ _ _ _ hread⟩, trivial⟩

instance keeps_leaf {k : Kind} {split : Lexeme.Splitter} [Lexeme.IsFront split] [hk : Fact (k.isPlain = true)] :
    Keeps (leaf k split) := by
  refine keeps_leaf_of_holds fun _ _ _ _ _ => ?_
  have hplain := hk.out
  cases k <;> first | exact absurd hplain (by decide) | trivial

instance keeps_sign (text : String) : Keeps (sign text) := by
  unfold sign
  infer_instance

instance keeps_signBefore (text : String) (stops : List Char) : Keeps (signBefore text stops) := by
  unfold signBefore
  refine @keeps_leaf _ _ ⟨fun cs t rest h => ?_⟩ ⟨rfl⟩
  obtain ⟨after, hafter, hstop⟩ := Option.bind_eq_some_iff.mp h
  have ht : t = text.toList := by
    split at hstop
    · exact (Prod.mk.inj (Option.some.inj hstop)).1.symm
    · split at hstop
      · exact absurd hstop (by simp)
      · exact (Prod.mk.inj (Option.some.inj hstop)).1.symm
  rw [ht]
  exact (Lexeme.isFront_exactly text.toList).front (Option.map_eq_some_iff.mpr ⟨after, hafter, rfl⟩)

instance keeps_signAmong (all : List (List Char)) (wanted : List Char → Bool) : Keeps (signAmong all wanted) := by
  unfold signAmong
  refine @keeps_leaf _ _ ⟨fun cs t rest h => ?_⟩ ⟨rfl⟩
  obtain ⟨found, -, hfound⟩ := Option.bind_eq_some_iff.mp h
  split at hfound
  · exact (Lexeme.isFront_exactly found).front hfound
  · exact absurd hfound (by simp)

instance keeps_wordAmong {k : Kind} (test : String → Bool) [hk : Fact (k.isPlain = true)] : Keeps (wordAmong k test) := by
  unfold wordAmong
  refine @keeps_leaf _ _ ⟨fun cs t rest h => ?_⟩ hk
  obtain ⟨⟨w, rest'⟩, hname, hword⟩ := Option.bind_eq_some_iff.mp h
  dsimp only at hword
  split at hword
  · obtain ⟨rfl, rfl⟩ := Prod.mk.inj (Option.some.inj hword)
    exact Lexeme.isFront_name.front hname
  · exact absurd hword (by simp)

instance keeps_word (w : String) : Keeps (word w) := by
  unfold word
  infer_instance

instance keeps_anyName : Keeps anyName := by
  unfold anyName
  infer_instance

instance keeps_identifier : Keeps identifier := by
  unfold identifier
  infer_instance

instance keeps_variableName : Keeps variableName := by
  refine ⟨fun s c ts c' hc h => ?_⟩
  rw [variableName] at h
  split at h
  · exact keeps_identifier.keeps hc h
  · exact (keeps_wordAmong _).keeps hc h

instance keeps_declaredName : Keeps declaredName := by
  refine ⟨fun s c ts c' hc h => ?_⟩
  rw [declaredName] at h
  split at h
  · exact keeps_identifier.keeps hc h
  · exact keeps_anyName.keeps hc h

instance keeps_arrowComment : Keeps arrowComment := by
  unfold arrowComment
  infer_instance

instance keeps_stringLiteral : Keeps stringLiteral :=
  keeps_leaf_of_holds fun cs _ rest _ h => ⟨cs, rest, h⟩

instance keeps_sameLine : Keeps sameLine := by
  refine ⟨fun s c ts c' hc h => ?_⟩
  rw [sameLine] at h
  split at h
  · exact absurd h (by simp)
  · exact keeps_of_eq h ⟨hc, trivial⟩

instance keeps_afterArrowComments [hp : Keeps p] : Keeps (afterArrowComments p) :=
  ⟨fun s _ _ _ hc h => hp.keeps (Cursor.isClean_skipArrowComments s.limit hc) h⟩

instance keeps_braces [Keeps p] : Keeps (braces p) := by
  unfold braces
  infer_instance

instance keeps_parens [Keeps p] : Keeps (parens p) := by
  unfold parens
  infer_instance

instance keeps_brackets [Keeps p] : Keeps (brackets p) := by
  unfold brackets
  infer_instance

instance keeps_templateText : Keeps templateText := by
  refine ⟨fun s c ts c' _ h => ?_⟩
  obtain ⟨⟨text, rest⟩, -, heq⟩ := Option.map_eq_some_iff.mp h
  exact keeps_of_eq (congrArg some heq) ⟨.nil _, ⟨.nil _, trivial⟩, trivial⟩

instance keeps_template [Keeps p] : Keeps (template p) := by
  unfold template
  infer_instance

instance keeps_commaSeparated [Keeps p] : Keeps (commaSeparated p) := by
  unfold commaSeparated
  infer_instance

instance keeps_commaList [Keeps p] : Keeps (commaList p) := by
  unfold commaList
  infer_instance

instance keeps_insertedSemicolon (afterExpression : Bool) : Keeps (insertedSemicolon afterExpression) := by
  refine ⟨fun s c ts c' hc h => ?_⟩
  have hattempt : ∀ (n : Nat) (passed before : List Char), Lexeme.IsTrivia passed (before ++ c.rest) →
      Lexeme.IsTrivia before c.rest →
        insertedSemicolon.attempt afterExpression s c n passed before = some (ts, c') → c'.IsClean ∧ Tree.AreWellRead ts := by
    intro n
    induction n with
    | zero => exact fun _ _ _ _ h => absurd h (by simp [insertedSemicolon.attempt])
    | succ n ih =>
      intro passed before hpassed hbefore h
      rw [insertedSemicolon.attempt] at h
      split at h
      · exact keeps_of_eq h ⟨hbefore, ⟨hpassed.mono (by simp), trivial⟩, trivial⟩
      · split at h
        · rename_i comment after hsplit
          obtain ⟨rfl, hcomment, hafter⟩ := hbefore.firstComment hsplit
          rw [List.append_assoc] at hpassed
          exact ih _ _ (hpassed.append hcomment) hafter h
        · exact absurd h (by simp)
  exact hattempt _ _ _ (.nil _) hc h

instance keeps_semicolon (afterExpression : Bool) : Keeps (semicolon afterExpression) := by
  unfold semicolon
  infer_instance

end Reader

end Phrasebook.Source
