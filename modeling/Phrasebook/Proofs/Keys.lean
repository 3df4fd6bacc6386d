import Phrasebook.Rewrite

/-!
# What keys tell apart

A key is the digest of a text, a bar, and the file, the component and the path where it was found, with colons between
them. The component and the path can be told from what is digested: a component is a name and has no colon, and in a
path a colon stands only before the number of an element. The text and the file cannot: where both hold a bar, the text
of one string and the start of its file may be read as the text of another.

Results:
1. `append_separator_iff`: the ways in which two pairs of parts with a separator between them are one.
2. `startNumbers_pathText`, `not_numberMark_prefix`: where colons stand in paths, and what no path starts with.
3. `Spot.material_eq_iff`: when two texts at two spots are digested as one.
4. `Spot.within_eq_iff`: when two texts at two spots have one key.
-/

namespace Phrasebook

/-! ## 1. Parts with a separator between them -/

/-- Two pairs of parts with a separator between them are one just if they are the same pairs, or one of the parts holds
the separator: then it moved from one part to the other. -/
theorem append_separator_iff {α : Type} {separator : α} {xs ys xs' ys' : List α} :
    xs ++ separator :: ys = xs' ++ separator :: ys' ↔
      (xs = xs' ∧ ys = ys') ∨
        ∃ part, (xs' = xs ++ separator :: part ∧ ys = part ++ separator :: ys') ∨
          (xs = xs' ++ separator :: part ∧ ys' = part ++ separator :: ys) := by
  constructor
  · intro h
    rcases List.append_eq_append_iff.mp h with ⟨more, hfirst, hsecond⟩ | ⟨more, hfirst, hsecond⟩
    · cases more with
      | nil =>
        rw [List.append_nil] at hfirst
        rw [List.nil_append, List.cons.injEq] at hsecond
        exact .inl ⟨hfirst.symm, hsecond.2⟩
      | cons c part =>
        rw [List.cons_append, List.cons.injEq] at hsecond
        obtain ⟨rfl, hys⟩ := hsecond
        exact .inr ⟨part, .inl ⟨hfirst, hys⟩⟩
    · cases more with
      | nil =>
        rw [List.append_nil] at hfirst
        rw [List.nil_append, List.cons.injEq] at hsecond
        exact .inl ⟨hfirst, hsecond.2.symm⟩
      | cons c part =>
        rw [List.cons_append, List.cons.injEq] at hsecond
        obtain ⟨rfl, hys⟩ := hsecond
        exact .inr ⟨part, .inr ⟨hfirst, hys⟩⟩
  · rintro (⟨rfl, rfl⟩ | ⟨part, ⟨rfl, rfl⟩ | ⟨rfl, rfl⟩⟩)
    · rfl
    · rw [List.append_assoc, List.cons_append]
    · rw [List.append_assoc, List.cons_append]

/-! ## 2. Names and paths -/

namespace Source

/-- The characters of names: those that break no name, the hyphen, and those of the escapes that a name may hold. -/
def isNameChar (c : Char) : Bool := !Lexeme.isNameBreak c || ['-', '\\', '{', '}'].contains c

/-- Whether a text may be the name of a function, a variable or a tag. -/
def IsName (name : String) : Prop := name ≠ "" ∧ name.toList.all isNameChar = true

instance (name : String) : Decidable (IsName name) :=
  inferInstanceAs (Decidable (name ≠ "" ∧ name.toList.all isNameChar = true))

/-- What an element adds to a path: its tag, and its number if there are others of this tag beside it. -/
structure PathStep where
  tag : String
  number : Option Nat
  isName : IsName tag

namespace PathStep

def text (step : PathStep) : String :=
  match step.number with
  | none => step.tag
  | some n => step.tag ++ s!":nth-child({n})"

/-- How a path is written, from the outermost element on. -/
def pathText (steps : List PathStep) : String :=
  if steps.isEmpty then Record.rootPath else " > ".intercalate (steps.map text)

def numberMark : List Char := "nth-child(".toList

/-- Wherever a colon stands, it starts a number. -/
def StartNumbers (cs : List Char) : Prop := ∀ before after, cs = before ++ ':' :: after → numberMark <+: after

theorem startNumbers_of_not_mem {cs : List Char} (h : ':' ∉ cs) : StartNumbers cs := by
  rintro before after rfl
  exact absurd (List.mem_append_right before List.mem_cons_self) h

theorem StartNumbers.append {cs ds : List Char} (hcs : StartNumbers cs) (hds : StartNumbers ds) :
    StartNumbers (cs ++ ds) := by
  intro before after h
  rcases List.append_eq_append_iff.mp h with ⟨more, -, hsecond⟩ | ⟨more, hfirst, hsecond⟩
  · exact hds more after hsecond
  · cases more with
    | nil => exact hds [] after hsecond.symm
    | cons c more =>
      rw [List.cons_append, List.cons.injEq] at hsecond
      obtain ⟨rfl, rfl⟩ := hsecond
      exact (hcs before more hfirst).trans (List.prefix_append more ds)

theorem not_mem_of_isName {name : String} (h : IsName name) {c : Char} (hc : isNameChar c = false) : c ∉ name.toList :=
  fun hmem => absurd (List.all_eq_true.mp h.2 c hmem) (by simp [hc])

/-- How the number of an element is written, if it has one. -/
def numberText : Option Nat → List Char
  | none => []
  | some n => ':' :: (numberMark ++ Nat.toDigits 10 n ++ [')'])

theorem toList_text (step : PathStep) : step.text.toList = step.tag.toList ++ numberText step.number := by
  rw [text]
  cases step.number with
  | none => exact (List.append_nil _).symm
  | some n =>
    dsimp only
    rw [String.toList_append]
    refine congrArg (step.tag.toList ++ ·) ?_
    show (":nth-child(" ++ toString n ++ ")").toList = _
    rw [String.toList_append, String.toList_append, Nat.toString_eq_repr, Nat.toList_repr]
    rfl

theorem startNumbers_numberText (number : Option Nat) : StartNumbers (numberText number) := by
  cases number with
  | none => exact startNumbers_of_not_mem List.not_mem_nil
  | some n =>
    -- the only colon is the first character
    have hrest : ':' ∉ numberMark ++ Nat.toDigits 10 n ++ [')'] := by
      simp only [List.mem_append, not_or]
      exact ⟨⟨by decide, Decimal.not_mem_toDigits (by decide) n⟩, by decide⟩
    intro before after h
    rw [numberText] at h
    cases before with
    | nil =>
      rw [List.nil_append, List.cons.injEq] at h
      rw [← h.2, List.append_assoc]
      exact List.prefix_append _ _
    | cons c before =>
      rw [List.cons_append, List.cons.injEq] at h
      exact absurd (h.2 ▸ List.mem_append_right before List.mem_cons_self) hrest

theorem startNumbers_text (step : PathStep) : StartNumbers step.text.toList := by
  rw [toList_text]
  exact (startNumbers_of_not_mem (not_mem_of_isName step.isName (by decide))).append
    (startNumbers_numberText step.number)

/-- What is written of steps after the first. -/
def tailText (steps : List PathStep) : List Char := steps.flatMap fun step => " > ".toList ++ step.text.toList

theorem toList_pathText_cons (step : PathStep) (steps : List PathStep) :
    (pathText (step :: steps)).toList = step.text.toList ++ tailText steps := by
  rw [pathText, if_neg (by simp)]
  induction steps generalizing step with
  | nil => simp [tailText]
  | cons next steps ih =>
    have hcons : " > ".intercalate ((step :: next :: steps).map text) =
        step.text ++ " > " ++ " > ".intercalate ((next :: steps).map text) := by
      simp [String.intercalate_cons_cons]
    rw [hcons, String.toList_append, String.toList_append, ih next, tailText, tailText, List.flatMap_cons]
    simp

/-- In a path every colon starts a number. -/
theorem startNumbers_pathText (steps : List PathStep) : StartNumbers (pathText steps).toList := by
  cases steps with
  | nil => exact startNumbers_of_not_mem (by decide)
  | cons step steps =>
    rw [toList_pathText_cons]
    refine (startNumbers_text step).append ?_
    induction steps with
    | nil => exact startNumbers_of_not_mem List.not_mem_nil
    | cons next steps ih =>
      rw [tailText, List.flatMap_cons]
      exact ((startNumbers_of_not_mem (by decide)).append (startNumbers_text next)).append ih

/-- What follows the first tag of a path is a colon or a blank, if anything. -/
theorem afterTag_cases (step : PathStep) (steps : List PathStep) :
    numberText step.number ++ tailText steps = [] ∨
      ∃ c cs, numberText step.number ++ tailText steps = c :: cs ∧ (c = ':' ∨ c = ' ') := by
  cases step.number with
  | some n => exact .inr ⟨':', _, rfl, .inl rfl⟩
  | none =>
    cases steps with
    | nil => exact .inl rfl
    | cons next steps => exact .inr ⟨' ', _, rfl, .inr rfl⟩

/-- No path starts with what follows the colon of a number: a path starts with a name, and what follows the name is no
parenthesis. -/
theorem not_numberMark_prefix (steps : List PathStep) : ¬ numberMark <+: (pathText steps).toList := by
  rintro ⟨more, hmore⟩
  cases steps with
  | nil =>
    have hmem : '(' ∈ (pathText []).toList := by
      rw [← hmore]
      exact List.mem_append_left more (by decide)
    exact absurd hmem (by decide)
  | cons step steps =>
    have hafter : List.dropWhile isNameChar (numberMark ++ more) =
        List.dropWhile isNameChar (numberText step.number ++ tailText steps) := by
      rw [hmore, toList_pathText_cons, toList_text, List.append_assoc,
        List.dropWhile_append_of_pos (List.all_eq_true.mp step.isName.2)]
    rw [show numberMark ++ more = "nth-child".toList ++ '(' :: more from rfl,
      List.dropWhile_append_of_pos (List.all_eq_true.mp (by decide)), List.dropWhile_cons_of_neg (by decide)] at hafter
    rcases afterTag_cases step steps with hnil | ⟨c, cs, hrest, hc⟩
    · rw [hnil] at hafter
      exact absurd hafter (by simp)
    · have hbreak : isNameChar c = false := by
        rcases hc with rfl | rfl
        · decide
        · decide
      rw [hrest, List.dropWhile_cons_of_neg (by simp [hbreak])] at hafter
      obtain ⟨rfl, -⟩ := List.cons.inj hafter
      rcases hc with h | h
      · exact absurd h (by decide)
      · exact absurd h (by decide)

end PathStep

/-! ## 3. Texts in markup -/

/-- Whether the parts of a trail are steps of a path. -/
def IsTrail (trail : List String) : Prop := ∃ steps : List PathStep, trail = steps.map PathStep.text

theorem IsTrail.append {trail more : List String} (h : IsTrail trail) (hmore : IsTrail more) : IsTrail (trail ++ more) := by
  obtain ⟨steps, rfl⟩ := h
  obtain ⟨others, rfl⟩ := hmore
  exact ⟨steps ++ others, (List.map_append).symm⟩

theorem isTrail_singleton (step : PathStep) : IsTrail [step.text] := ⟨[step], rfl⟩

/-- A text with a trail of steps has their path. -/
theorem PlacedText.path_eq {t : PlacedText} {steps : List PathStep} (h : t.trail = steps.map PathStep.text) :
    t.path = PathStep.pathText steps := by
  rw [path, h, PathStep.pathText, List.isEmpty_map]
  cases steps with
  | nil => rfl
  | cons step steps =>
    have hne : " > ".intercalate ((step :: steps).map PathStep.text) ≠ "" := by
      intro hempty
      have hchars := PathStep.toList_pathText_cons step steps
      rw [PathStep.pathText, if_neg (by simp), hempty, PathStep.toList_text] at hchars
      have htag := (List.append_eq_nil_iff.mp (List.append_eq_nil_iff.mp hchars.symm).1).1
      exact step.isName.1 (String.toList_inj.mp htag)
    rw [List.isEmpty_cons, if_neg Bool.false_ne_true, if_neg Bool.false_ne_true,
      if_neg (fun h => hne (String.isEmpty_iff.mp h))]

namespace Markup

mutual
/-- Whether all tags of an element are names. -/
def IsNamed : Markup → Prop
  | text _ _ => True
  | element tag children => (∀ name, tag = .named name → IsName name) ∧ AreNamed children
  | embed elements => AreNamed elements
/-- Whether all tags of some elements are names. -/
def AreNamed : List Markup → Prop
  | [] => True
  | m :: ms => IsNamed m ∧ AreNamed ms
end

theorem isName_of_tagName? {m : Markup} (h : m.IsNamed) {name : String} (hname : m.tagName? = some name) :
    IsName name := by
  cases m with
  | element tag children =>
    cases tag with
    | named other =>
      rw [IsNamed] at h
      exact h.1 name (congrArg Tag.named (Option.some.inj hname))
    | compound => exact absurd hname (by simp [tagName?])
    | fragment => exact absurd hname (by simp [tagName?])
  | text raw span => exact absurd hname (by simp [tagName?])
  | embed elements => exact absurd hname (by simp [tagName?])

theorem isTrail_soleSegment {m : Markup} (h : m.IsNamed) : IsTrail m.soleSegment := by
  rw [soleSegment]
  cases hname : m.tagName? with
  | none => exact ⟨[], rfl⟩
  | some name => exact isTrail_singleton ⟨name, none, isName_of_tagName? h hname⟩

theorem isTrail_segment {m : Markup} (h : m.IsNamed) (siblings before : List Markup) (inFragment : Bool) :
    IsTrail (segment siblings before inFragment m) := by
  rw [segment]
  cases hname : m.tagName? with
  | none => exact ⟨[], rfl⟩
  | some name =>
    dsimp only
    split
    · exact isTrail_singleton ⟨name, some (tagCount before name + 1), isName_of_tagName? h hname⟩
    · exact isTrail_singleton ⟨name, none, isName_of_tagName? h hname⟩

mutual
/-- The texts in an element have trails of steps. -/
theorem isTrail_of_mem_texts {m : Markup} (h : m.IsNamed) {trail : List String} (htrail : IsTrail trail) :
    ∀ t ∈ texts trail m, IsTrail t.trail := by
  cases m with
  | text raw span =>
    rw [texts]
    exact List.forall_mem_singleton.mpr htrail
  | element tag children =>
    rw [texts]
    rw [IsNamed] at h
    exact isTrail_of_mem_childTexts h.2 htrail children _ []
  | embed elements =>
    rw [texts]
    rw [IsNamed] at h
    exact isTrail_of_mem_embeddedTexts h htrail
/-- So have those in the children of an element. -/
theorem isTrail_of_mem_childTexts {ms : List Markup} (h : AreNamed ms) {trail : List String} (htrail : IsTrail trail)
    (siblings : List Markup) (inFragment : Bool) (before : List Markup) :
    ∀ t ∈ childTexts trail siblings inFragment before ms, IsTrail t.trail := by
  cases ms with
  | nil => exact fun _ ht => absurd ht (by simp [childTexts])
  | cons m ms =>
    rw [childTexts]
    rw [AreNamed] at h
    exact List.forall_mem_append.mpr
      ⟨isTrail_of_mem_texts h.1 (htrail.append (isTrail_segment h.1 siblings before inFragment)),
        isTrail_of_mem_childTexts h.2 htrail siblings inFragment _⟩
/-- So have those in elements without siblings. -/
theorem isTrail_of_mem_embeddedTexts {ms : List Markup} (h : AreNamed ms) {trail : List String}
    (htrail : IsTrail trail) : ∀ t ∈ embeddedTexts trail ms, IsTrail t.trail := by
  cases ms with
  | nil => exact fun _ ht => absurd ht (by simp [embeddedTexts])
  | cons m ms =>
    rw [embeddedTexts]
    rw [AreNamed] at h
    exact List.forall_mem_append.mpr
      ⟨isTrail_of_mem_texts h.1 (htrail.append (isTrail_soleSegment h.1)), isTrail_of_mem_embeddedTexts h.2 htrail⟩
end

end Markup

namespace Landmark

/-- Whether the names that make components, and the tags, are names. -/
def IsNamed : Landmark → Prop
  | function name _ => IsName name
  | bound name _ => IsName name
  | defaultExport name => IsName name
  | markup root => root.IsNamed
  | _ => True

end Landmark

end Source

/-! ## 4. Spots -/

/-- Where a text can be found: in a file, in a component that has a name, below some elements. -/
structure Spot where
  file : String
  component : String
  steps : List Source.PathStep
  isName : Source.IsName component

namespace Spot

def path (s : Spot) : String := Source.PathStep.pathText s.steps

/-- The context of a text that was found at a spot. -/
def context (s : Spot) : Context := ⟨s.file, s.component, s.path⟩

theorem toList_material (text : String) (s : Spot) :
    (Key.material text s.context.text).toList =
      ((text.toList ++ '|' :: s.file.toList) ++ ':' :: s.component.toList) ++ ':' :: s.path.toList := by
  simp [Key.material, Context.text, context]

/-- A text and a file read as another text and another file: the bar between them is another one of their bars. -/
def Shifts (text file text' file' : String) : Prop := ∃ part, text' = text ++ "|" ++ part ∧ file = part ++ "|" ++ file'

theorem append_bar_iff {text file text' file' : String} :
    text.toList ++ '|' :: file.toList = text'.toList ++ '|' :: file'.toList ↔
      (text = text' ∧ file = file') ∨ Shifts text file text' file' ∨ Shifts text' file' text file := by
  have hshifts (a b c d : String) : Shifts a b c d ↔
      ∃ part, c.toList = a.toList ++ '|' :: part ∧ b.toList = part ++ '|' :: d.toList := by
    constructor
    · rintro ⟨part, rfl, rfl⟩
      exact ⟨part.toList, by simp, by simp⟩
    · rintro ⟨part, hc, hb⟩
      exact ⟨String.ofList part, String.toList_inj.mp (by simp [hc]), String.toList_inj.mp (by simp [hb])⟩
  rw [append_separator_iff, String.toList_inj, String.toList_inj, hshifts, hshifts, exists_or]

/-- Two texts at two spots are digested as one just if the components are the same and the paths are the same, and so
are the texts and the files, but for the bar between them. -/
theorem material_eq_iff {text text' : String} {s s' : Spot} :
    Key.material text s.context.text = Key.material text' s'.context.text ↔
      s.component = s'.component ∧ s.path = s'.path ∧
        ((text = text' ∧ s.file = s'.file) ∨ Shifts text s.file text' s'.file ∨ Shifts text' s'.file text s.file) := by
  rw [← String.toList_inj, toList_material, toList_material]
  constructor
  · intro h
    -- the last colon before which no number starts is the one before the path
    have hpath (a b : Spot) {part : List Char} : a.path.toList ≠ part ++ ':' :: b.path.toList :=
      fun heq => Source.PathStep.not_numberMark_prefix b.steps
        (Source.PathStep.startNumbers_pathText a.steps part b.path.toList heq)
    have hcomponent (a b : Spot) {part : List Char} : a.component.toList ≠ part ++ ':' :: b.component.toList :=
      fun heq => Source.PathStep.not_mem_of_isName a.isName (c := ':') (by decide)
        (heq ▸ List.mem_append_right part List.mem_cons_self)
    rcases append_separator_iff.mp h with ⟨h, hpaths⟩ | ⟨part, ⟨-, hshift⟩ | ⟨-, hshift⟩⟩
    · rcases append_separator_iff.mp h with ⟨h, hcomponents⟩ | ⟨part, ⟨-, hshift⟩ | ⟨-, hshift⟩⟩
      · exact ⟨String.toList_inj.mp hcomponents, String.toList_inj.mp hpaths, append_bar_iff.mp h⟩
      · exact absurd hshift (hcomponent s s')
      · exact absurd hshift (hcomponent s' s)
    · exact absurd hshift (hpath s s')
    · exact absurd hshift (hpath s' s)
  · rintro ⟨hcomponent, hpath, h⟩
    rw [append_bar_iff.mpr h, hcomponent, hpath]

/-- Where digests tell apart what they are taken of, two texts at two spots have one key just if texts and contexts are
the same, or if the bar between text and file may be read as another one of theirs, in the same component and with the
same path. -/
theorem within_eq_iff {text text' : String} {s s' : Spot}
    (hdigest : Key.within text s.context = Key.within text' s'.context →
      Key.material text s.context.text = Key.material text' s'.context.text) :
    Key.within text s.context = Key.within text' s'.context ↔
      (text = text' ∧ s.context = s'.context) ∨
        (s.component = s'.component ∧ s.path = s'.path ∧
          (Shifts text s.file text' s'.file ∨ Shifts text' s'.file text s.file)) := by
  constructor
  · intro h
    obtain ⟨hcomponent, hpath, ⟨htext, hfile⟩ | hshifts⟩ := material_eq_iff.mp (hdigest h)
    · exact .inl ⟨htext, by rw [context, context, hfile, hcomponent, hpath]⟩
    · exact .inr ⟨hcomponent, hpath, hshifts⟩
  · rintro (⟨rfl, hcontext⟩ | ⟨hcomponent, hpath, hshifts⟩)
    · rw [hcontext]
    · rw [Key.within, Key.within, Key.of, Key.of, material_eq_iff.mpr ⟨hcomponent, hpath, .inr hshifts⟩]

end Spot

/-! Two files with one text each: a bar in the name of the first, and one in the text of the second. -/

namespace Spot.Sample

def paragraph (file : String) : Spot := ⟨file, "default", [⟨"p", none, by decide⟩], by decide⟩

/-- The texts that are found in some markup of a file, with their contexts. -/
def found (file markup : String) : List (String × Context) :=
  match Rewrite.rewrite Settings.standard file ("import \x7b t \x7d from 'x';\n" ++ markup) with
  | .ok r => r.records.map fun record => (record.text, record.context)
  | .error _ => []

end Spot.Sample

open Spot.Sample in
theorem within_eq_of_bar :
    found "b|c.jsx" "<p>a</p>" = [("a", (paragraph "b|c.jsx").context)] ∧
      found "c.jsx" "<p>a|b</p>" = [("a|b", (paragraph "c.jsx").context)] ∧
      Key.within "a" (paragraph "b|c.jsx").context = Key.within "a|b" (paragraph "c.jsx").context := by
  refine ⟨by decide +kernel, by decide +kernel, ?_⟩
  have hmaterial : Key.material "a" (paragraph "b|c.jsx").context.text =
      Key.material "a|b" (paragraph "c.jsx").context.text := by decide +kernel
  exact (Spot.within_eq_iff fun _ => hmaterial).mpr (.inr ⟨rfl, rfl, .inl ⟨"b", by decide, by decide⟩⟩)

end Phrasebook
