import Phrasebook.Proofs.Keys
import Phrasebook.Proofs.Outlines

/-!
# Siblings have paths of their own

The path of a text names the elements around it. Where an element that is no fragment has two tagged elements among its
children, they differ in the name or in the number that they add to the path, and all texts below them go on from there. A
path can be read back: no step of it holds the separator. So no text below one of the two has the path of a text below
the other, whatever else there is above and below.

Results:
1. `PathStep.pathText_cons_inj`: a path tells its steps.
2. `Markup.exists_segment_ne`: two tagged siblings add different steps.
3. `Markup.texts_eq_map`: the trails of the texts in an element go on from the trail to it.
4. `path_ne_of_siblings`: where the texts below two siblings stand among all, and that their paths differ.
-/

namespace Phrasebook.Source

/-! ## 1. Steps of a path -/

namespace PathStep

theorem space_not_mem_text (step : PathStep) : ' ' ∉ step.text.toList := by
  rw [toList_text, List.mem_append, not_or]
  refine ⟨not_mem_of_isName step.isName (by decide), ?_⟩
  cases step.number with
  | none => exact List.not_mem_nil
  | some n =>
    simp only [numberText, List.mem_cons, List.mem_append, not_or]
    exact ⟨by decide, ⟨by decide, Decimal.not_mem_toDigits (by decide) n⟩, by decide⟩

theorem numberText_inj {m n : Option Nat} (h : numberText m = numberText n) : m = n := by
  cases m with
  | none =>
    cases n with
    | none => rfl
    | some n => cases h
  | some m =>
    cases n with
    | none => cases h
    | some n =>
      rw [numberText, numberText, List.cons.injEq, List.append_assoc, List.append_assoc, List.append_cancel_left_eq,
        List.append_cancel_right_eq] at h
      rw [← Nat.ofDigitChars_ten_toDigits (n := m), h.2, Nat.ofDigitChars_ten_toDigits]

/-- A step can be read back. -/
theorem text_inj {a b : PathStep} (h : a.text = b.text) : a.tag = b.tag ∧ a.number = b.number := by
  have hchars := congrArg String.toList h
  rw [toList_text, toList_text] at hchars
  -- a colon ends the name
  have htag (step : PathStep) : (step.tag.toList ++ numberText step.number).takeWhile (· != ':') = step.tag.toList := by
    rw [List.takeWhile_append_of_pos fun c hc => bne_iff_ne.mpr fun heq =>
      not_mem_of_isName step.isName (by decide) (heq ▸ hc)]
    cases step.number with
    | none => exact List.append_nil _
    | some n => exact List.append_nil _
  have htags : a.tag.toList = b.tag.toList := by rw [← htag a, hchars, htag b]
  refine ⟨String.toList_inj.mp htags, numberText_inj ?_⟩
  rwa [htags, List.append_cancel_left_eq] at hchars

/-- The first step of what is written is read back: what follows it starts with a blank, if there is anything. -/
theorem text_append_tailText_inj {a b : PathStep} {as bs : List PathStep}
    (h : a.text.toList ++ tailText as = b.text.toList ++ tailText bs) : a.text = b.text ∧ tailText as = tailText bs := by
  have hstep (step : PathStep) (steps : List PathStep) :
      (step.text.toList ++ tailText steps).takeWhile (· != ' ') = step.text.toList := by
    have hspace : ∀ c ∈ step.text.toList, (c != ' ') = true := by
      intro c hc
      rw [bne_iff_ne]
      rintro rfl
      exact space_not_mem_text step hc
    rw [List.takeWhile_append_of_pos hspace]
    cases steps with
    | nil => exact List.append_nil _
    | cons next steps => exact List.append_nil _
  have htexts : a.text.toList = b.text.toList := by rw [← hstep a as, h, hstep b bs]
  refine ⟨String.toList_inj.mp htexts, ?_⟩
  rwa [htexts, List.append_cancel_left_eq] at h

theorem tailText_inj {as bs : List PathStep} (h : tailText as = tailText bs) : as.map text = bs.map text := by
  induction as generalizing bs with
  | nil =>
    cases bs with
    | nil => rfl
    | cons b bs => cases h
  | cons a as ih =>
    cases bs with
    | nil => cases h
    | cons b bs =>
      rw [tailText, tailText, List.flatMap_cons, List.flatMap_cons, List.append_assoc, List.append_assoc,
        List.append_cancel_left_eq] at h
      obtain ⟨hfirst, hrest⟩ := text_append_tailText_inj h
      rw [List.map_cons, List.map_cons, hfirst, ih hrest]

/-- A path tells its steps. -/
theorem pathText_cons_inj {a b : PathStep} {as bs : List PathStep} (h : pathText (a :: as) = pathText (b :: bs)) :
    (a :: as).map text = (b :: bs).map text := by
  have hchars := congrArg String.toList h
  rw [toList_pathText_cons, toList_pathText_cons] at hchars
  obtain ⟨hfirst, hrest⟩ := text_append_tailText_inj hchars
  rw [List.map_cons, List.map_cons, hfirst, tailText_inj hrest]

/-- Paths that go apart stay apart. -/
theorem pathText_append_cons_ne {a b : PathStep} (h : a.text ≠ b.text) (steps as bs : List PathStep) :
    pathText (steps ++ a :: as) ≠ pathText (steps ++ b :: bs) := by
  intro heq
  have hmaps : (steps ++ a :: as).map text = (steps ++ b :: bs).map text := by
    cases steps with
    | nil => exact pathText_cons_inj heq
    | cons step steps => exact pathText_cons_inj heq
  rw [List.map_append, List.map_append, List.append_cancel_left_eq, List.map_cons, List.map_cons] at hmaps
  exact h (List.cons.inj hmaps).1

end PathStep

/-! ## 2. Steps of siblings -/

namespace Markup

theorem areNamed_append {ms ns : List Markup} : AreNamed (ms ++ ns) ↔ AreNamed ms ∧ AreNamed ns := by
  induction ms with
  | nil => simp [AreNamed]
  | cons m ms ih => rw [List.cons_append, AreNamed, AreNamed, ih, and_assoc]

/-- A tagged child of an element adds its name to the path, and its number if there are others of the name. -/
theorem segment_eq {m : Markup} {name : String} (hname : m.tagName? = some name) (isName : IsName name)
    (siblings before : List Markup) :
    segment siblings before false m =
      [(PathStep.mk name (if 1 < tagCount siblings name then some (tagCount before name + 1) else none) isName).text] := by
  rw [segment, hname]
  dsimp only
  rw [Bool.not_false, Bool.true_and]
  by_cases hothers : 1 < tagCount siblings name
  · rw [if_pos (by simpa using hothers), if_pos hothers]
    rfl
  · rw [if_neg (by simpa using hothers), if_neg hothers]
    rfl

/-- Two tagged children of an element add different steps: if they have one name, the second has the greater number. -/
theorem exists_segment_ne {front between back : List Markup} {a b : Markup} (hnamed : a.IsNamed ∧ b.IsNamed)
    (ha : a.tagName?.isSome = true) (hb : b.tagName?.isSome = true) {siblings : List Markup}
    (hsiblings : siblings = front ++ a :: between ++ b :: back) :
    ∃ s s' : PathStep, segment siblings front false a = [s.text] ∧
      segment siblings (front ++ a :: between) false b = [s'.text] ∧ s.text ≠ s'.text := by
  obtain ⟨name, hname⟩ := Option.isSome_iff_exists.mp ha
  obtain ⟨name', hname'⟩ := Option.isSome_iff_exists.mp hb
  refine ⟨_, _, segment_eq hname (isName_of_tagName? hnamed.1 hname) _ _,
    segment_eq hname' (isName_of_tagName? hnamed.2 hname') _ _, fun htext => ?_⟩
  obtain ⟨rfl, hnumber⟩ := PathStep.text_inj htext
  have hcount : tagCount (front ++ a :: between) name = tagCount front name + 1 + tagCount between name := by
    rw [tagCount, tagCount, tagCount, List.countP_append, List.countP_cons, hname, if_pos (beq_self_eq_true _)]
    omega
  have hothers : 1 < tagCount siblings name := by
    rw [hsiblings, tagCount, List.countP_append, ← tagCount, hcount, List.countP_cons, hname', if_pos (beq_self_eq_true _)]
    omega
  dsimp only at hnumber
  rw [if_pos hothers, if_pos hothers, hcount] at hnumber
  have hnumbers := Option.some.inj hnumber
  omega

/-! ## 3. Trails of texts -/

end Markup

def PlacedText.below (trail : List String) (t : PlacedText) : PlacedText := { t with trail := trail ++ t.trail }

namespace Markup

theorem map_below_below (trail more : List String) (found : List PlacedText) :
    (found.map (PlacedText.below more)).map (PlacedText.below trail) = found.map (PlacedText.below (trail ++ more)) := by
  rw [List.map_map]
  refine List.map_congr_left fun t _ => ?_
  simp [PlacedText.below]

mutual
/-- The trails of the texts in an element go on from the trail to it. -/
theorem texts_eq_map (trail : List String) (m : Markup) : texts trail m = (texts [] m).map (PlacedText.below trail) := by
  match m with
  | text raw span => rw [texts, texts, List.map_singleton, PlacedText.below, List.append_nil]
  | element tag children => exact childTexts_eq_map trail children _ [] children
  | embed elements => exact embeddedTexts_eq_map trail elements
theorem childTexts_eq_map (trail : List String) (siblings : List Markup) (inFragment : Bool) (before ms : List Markup) :
    childTexts trail siblings inFragment before ms =
      (childTexts [] siblings inFragment before ms).map (PlacedText.below trail) := by
  match ms with
  | [] => rfl
  | m :: ms =>
    rw [childTexts, childTexts, List.map_append, ← childTexts_eq_map trail siblings inFragment _ ms,
      texts_eq_map (trail ++ _) m, texts_eq_map ([] ++ _) m, List.nil_append, map_below_below]
theorem embeddedTexts_eq_map (trail : List String) (ms : List Markup) :
    embeddedTexts trail ms = (embeddedTexts [] ms).map (PlacedText.below trail) := by
  match ms with
  | [] => rfl
  | m :: ms =>
    rw [embeddedTexts, embeddedTexts, List.map_append, ← embeddedTexts_eq_map trail ms, texts_eq_map (trail ++ _) m,
      texts_eq_map ([] ++ _) m, List.nil_append, map_below_below]
end

/-- The steps to a text in an element are those to the element and more. -/
theorem path_of_mem_texts {m : Markup} (h : m.IsNamed) (steps : List PathStep) :
    ∀ t ∈ texts (steps.map PathStep.text) m, ∃ more, t.path = PathStep.pathText (steps ++ more) := by
  intro t ht
  rw [texts_eq_map] at ht
  obtain ⟨t, hmem, rfl⟩ := List.mem_map.mp ht
  obtain ⟨more, hmore⟩ := isTrail_of_mem_texts h ⟨[], rfl⟩ t hmem
  exact ⟨more, PlacedText.path_eq (by rw [PlacedText.below, hmore, List.map_append])⟩

theorem childTexts_append (trail : List String) (siblings : List Markup) (inFragment : Bool) (before ms ns : List Markup) :
    childTexts trail siblings inFragment before (ms ++ ns) =
      childTexts trail siblings inFragment before ms ++ childTexts trail siblings inFragment (before ++ ms) ns := by
  induction ms generalizing before with
  | nil => rw [List.nil_append, childTexts, List.nil_append, List.append_nil]
  | cons m ms ih =>
    rw [List.cons_append, childTexts, childTexts, ih, List.append_assoc, List.append_assoc, List.singleton_append]

theorem embeddedTexts_append (trail : List String) (ms ns : List Markup) :
    embeddedTexts trail (ms ++ ns) = embeddedTexts trail ms ++ embeddedTexts trail ns := by
  induction ms with
  | nil => rfl
  | cons m ms ih => rw [List.cons_append, embeddedTexts, embeddedTexts, ih, List.append_assoc]

/-! ## 4. Where elements stand -/

/-- Some markup stands anywhere in a row of markup, between the texts before and after it. -/
inductive Holds : List Markup → List Run → Markup → List Run → Prop
  | here (before : List Markup) (m : Markup) (after : List Markup) :
      Holds (before ++ m :: after) (runsOf before) m (runsOf after)
  | inElement {tag : Tag} {children : List Markup} {first last : List Run} {m : Markup} (before after : List Markup) :
      Holds children first m last →
        Holds (before ++ .element tag children :: after) (runsOf before ++ first) m (last ++ runsOf after)
  | inEmbed {elements : List Markup} {first last : List Run} {m : Markup} (before after : List Markup) :
      Holds elements first m last →
        Holds (before ++ .embed elements :: after) (runsOf before ++ first) m (last ++ runsOf after)

/-- Among the texts that are found are those of some markup, after and before others. -/
def Finds (found : List PlacedText) (first : List Run) (m : Markup) (last : List Run) : Prop :=
  ∃ pre steps post, found = pre ++ texts (List.map PathStep.text steps) m ++ post ∧
    pre.map PlacedText.run = first ∧ post.map PlacedText.run = last

theorem Finds.append {found more rest : List PlacedText} {first last : List Run} {m : Markup}
    (h : Finds found first m last) :
    Finds (more ++ found ++ rest) (more.map PlacedText.run ++ first) m (last ++ rest.map PlacedText.run) := by
  obtain ⟨pre, steps, post, rfl, rfl, rfl⟩ := h
  exact ⟨more ++ pre, steps, post ++ rest, by simp only [List.append_assoc], List.map_append, List.map_append⟩

variable {first last : List Run} {m x : Markup}

/-- What is found in one of the children of an element is found in the element. -/
theorem finds_childTexts (hx : x.IsNamed) (h : ∀ trail, IsTrail trail → Finds (texts trail x) first m last)
    {trail : List String} (htrail : IsTrail trail) (siblings : List Markup) (inFragment : Bool)
    (done before after : List Markup) :
    Finds (childTexts trail siblings inFragment done (before ++ x :: after)) (runsOf before ++ first) m
      (last ++ runsOf after) := by
  have hfound := h _ (htrail.append (isTrail_segment hx siblings (done ++ before) inFragment))
  rw [childTexts_append, childTexts, ← List.append_assoc, ← map_run_childTexts trail siblings inFragment done before,
    ← map_run_childTexts trail siblings inFragment (done ++ before ++ [x]) after]
  exact hfound.append

theorem finds_embeddedTexts (hx : x.IsNamed) (h : ∀ trail, IsTrail trail → Finds (texts trail x) first m last)
    {trail : List String} (htrail : IsTrail trail) (before after : List Markup) :
    Finds (embeddedTexts trail (before ++ x :: after)) (runsOf before ++ first) m (last ++ runsOf after) := by
  have hfound := h _ (htrail.append (isTrail_soleSegment hx))
  rw [embeddedTexts_append, embeddedTexts, ← List.append_assoc, ← map_run_embeddedTexts trail before,
    ← map_run_embeddedTexts trail after]
  exact hfound.append

theorem finds_self (m : Markup) {trail : List String} (htrail : IsTrail trail) : Finds (texts trail m) [] m [] := by
  obtain ⟨steps, rfl⟩ := htrail
  exact ⟨[], steps, [], by simp, rfl, rfl⟩

theorem Holds.isNamed {ms : List Markup} (h : Holds ms first m last) (hnamed : AreNamed ms) : m.IsNamed := by
  induction h with
  | here before m after =>
    rw [areNamed_append, AreNamed] at hnamed
    exact hnamed.2.1
  | inElement before after _ ih =>
    rw [areNamed_append, AreNamed, IsNamed] at hnamed
    exact ih hnamed.2.1.2
  | inEmbed before after _ ih =>
    rw [areNamed_append, AreNamed, IsNamed] at hnamed
    exact ih hnamed.2.1

/-- The texts of what stands in a row are found in it, with a trail of steps. -/
theorem Holds.finds {ms : List Markup} (h : Holds ms first m last) (hnamed : AreNamed ms) {trail : List String}
    (htrail : IsTrail trail) :
    (∀ siblings inFragment done, Finds (childTexts trail siblings inFragment done ms) first m last) ∧
      Finds (embeddedTexts trail ms) first m last := by
  induction h generalizing trail with
  | here before m after =>
    rw [areNamed_append, AreNamed] at hnamed
    have hself : ∀ trail, IsTrail trail → Finds (texts trail m) [] m [] := fun _ => finds_self m
    rw [← List.append_nil (runsOf before), ← List.nil_append (runsOf after)]
    exact ⟨fun siblings inFragment done => finds_childTexts hnamed.2.1 hself htrail siblings inFragment done before after,
      finds_embeddedTexts hnamed.2.1 hself htrail before after⟩
  | @inElement tag children first last m before after _ ih =>
    rw [areNamed_append, AreNamed] at hnamed
    obtain ⟨-, helement, -⟩ := hnamed
    have hfound : ∀ trail, IsTrail trail → Finds (texts trail (.element tag children)) first m last := by
      intro trail htrail
      rw [IsNamed] at helement
      rw [texts]
      exact (ih helement.2 htrail).1 children (tag == .fragment) []
    exact ⟨fun siblings inFragment done => finds_childTexts helement hfound htrail siblings inFragment done before after,
      finds_embeddedTexts helement hfound htrail before after⟩
  | @inEmbed elements first last m before after _ ih =>
    rw [areNamed_append, AreNamed] at hnamed
    obtain ⟨-, hembed, -⟩ := hnamed
    have hfound : ∀ trail, IsTrail trail → Finds (texts trail (.embed elements)) first m last := by
      intro trail htrail
      rw [IsNamed] at hembed
      rw [texts]
      exact (ih hembed htrail).2
    exact ⟨fun siblings inFragment done => finds_childTexts hembed hfound htrail siblings inFragment done before after,
      finds_embeddedTexts hembed hfound htrail before after⟩

end Markup

/-! ## 5. Paths of siblings -/

/-- The texts of a source are those of its outermost elements, which have no siblings. -/
theorem placedTexts_eq (landmarks : List Landmark) :
    placedTexts landmarks = Markup.embeddedTexts [] (Outline.rootsOf landmarks) := by
  rw [placedTexts, ← Outline.rootsOf]
  induction Outline.rootsOf landmarks with
  | nil => rfl
  | cons root roots ih => rw [List.flatMap_cons, Markup.embeddedTexts, ih, List.nil_append]

namespace Markup

/-- The texts of an element with two of its children set apart. -/
theorem exists_texts_of_siblings {tag : Tag} (htag : tag ≠ .fragment) {siblings front between back : List Markup}
    {a b : Markup} (h : siblings = front ++ a :: between ++ b :: back) (trail : List String) :
    ∃ pre mid post, texts trail (.element tag siblings) =
        pre ++ texts (trail ++ segment siblings front false a) a ++ mid ++
          texts (trail ++ segment siblings (front ++ a :: between) false b) b ++ post ∧
      pre.map PlacedText.run = runsOf front ∧ mid.map PlacedText.run = runsOf between ∧
      post.map PlacedText.run = runsOf back := by
  refine ⟨_, _, _, ?_, map_run_childTexts trail siblings false [] front,
    map_run_childTexts trail siblings false (front ++ [a]) between,
    map_run_childTexts trail siblings false (front ++ a :: between ++ [b]) back⟩
  have hrow : childTexts trail siblings false [] siblings =
      childTexts trail siblings false [] (front ++ a :: between ++ b :: back) := congrArg _ h
  rw [texts, beq_eq_false_iff_ne.mpr htag, hrow, childTexts_append, childTexts_append, childTexts, childTexts]
  simp only [List.nil_append, List.append_assoc]

end Markup

open Markup

/-- All texts that are found are those before two of the children of an element, below the first, between the two, below
the second, and after them; and no text below the first has the path of one below the second. -/
def PathsDiffer (found : List PlacedText) (first : List Run) (a : Markup) (between : List Run) (b : Markup)
    (last : List Run) : Prop :=
  ∃ pre below mid below' post, found = pre ++ below ++ mid ++ below' ++ post ∧
    pre.map PlacedText.run = first ∧ below.map PlacedText.run = a.runs ∧ mid.map PlacedText.run = between ∧
    below'.map PlacedText.run = b.runs ∧ post.map PlacedText.run = last ∧
    ∀ t ∈ below, ∀ t' ∈ below', t.path ≠ t'.path

/-- Where an element that is no fragment has two tagged elements among its children, no text below the one has the path of
a text below the other. -/
theorem path_ne_of_siblings {landmarks : List Landmark} (hnamed : AreNamed (Outline.rootsOf landmarks))
    {tag : Tag} {front between back : List Markup} {a b : Markup} {first last : List Run}
    (helement : Holds (Outline.rootsOf landmarks) first (.element tag (front ++ a :: between ++ b :: back)) last)
    (htag : tag ≠ .fragment) (ha : a.tagName?.isSome = true) (hb : b.tagName?.isSome = true) :
    PathsDiffer (placedTexts landmarks) (first ++ runsOf front) a (runsOf between) b (runsOf back ++ last) := by
  obtain ⟨pre, steps, post, hfound, hpre, hpost⟩ := (helement.finds hnamed ⟨[], rfl⟩).2
  have hchildren := helement.isNamed hnamed
  rw [IsNamed, areNamed_append, areNamed_append, AreNamed, AreNamed] at hchildren
  obtain ⟨-, ⟨-, hnamedA, -⟩, hnamedB, -⟩ := hchildren
  obtain ⟨s, s', hs, hs', hne⟩ := exists_segment_ne ⟨hnamedA, hnamedB⟩ ha hb rfl
  have hbelow (step : PathStep) : steps.map PathStep.text ++ [step.text] = (steps ++ [step]).map PathStep.text := by
    rw [List.map_append, List.map_singleton]
  obtain ⟨front', mid, back', htexts, hfront, hmid, hback⟩ :=
    exists_texts_of_siblings htag (rfl : front ++ a :: between ++ b :: back = _) (steps.map PathStep.text)
  rw [hs, hs', hbelow, hbelow] at htexts
  refine ⟨pre ++ front', texts ((steps ++ [s]).map PathStep.text) a, mid, texts ((steps ++ [s']).map PathStep.text) b,
    back' ++ post, ?_, ?_, map_run_texts _ a, hmid, map_run_texts _ b, ?_, ?_⟩
  · rw [placedTexts_eq, ← List.map_nil (f := PathStep.text), hfound, htexts]
    simp only [List.append_assoc]
  · rw [List.map_append, hpre, hfront]
  · rw [List.map_append, hback, hpost]
  · intro t ht t' ht'
    obtain ⟨more, hpath⟩ := path_of_mem_texts hnamedA (steps ++ [s]) t ht
    obtain ⟨more', hpath'⟩ := path_of_mem_texts hnamedB (steps ++ [s']) t' ht'
    rw [hpath, hpath', List.append_assoc, List.append_assoc]
    exact PathStep.pathText_append_cons_ne hne steps more more'

/-! Two paragraphs, and between them one in braces, which has no number: `<div><p>Hi</p>{<p>Oh</p>}<p>Yo</p></div>`. -/

namespace Sample

/-- A paragraph with a text that starts at a place. -/
def paragraph (text : String) (place : Nat) : Markup :=
  .element (.named "p") [.text text.toList ⟨place, place + text.utf8ByteSize⟩]

def paragraphs : List Markup := [paragraph "Hi" 8, .embed [paragraph "Oh" 18], paragraph "Yo" 28]

def landmarks : List Landmark := [.markup (.element (.named "div") paragraphs)]

theorem areNamed_landmarks : AreNamed (Outline.rootsOf landmarks) := by
  have hnames : IsName "div" ∧ IsName "p" := by decide
  simpa [landmarks, paragraphs, paragraph, Outline.rootsOf, Landmark.root?, AreNamed, IsNamed] using hnames

end Sample

open Sample in
theorem pathsDiffer_paragraphs :
    (placedTexts landmarks).map PlacedText.path = ["div > p:nth-child(1)", "div > p", "div > p:nth-child(2)"] ∧
      PathsDiffer (placedTexts landmarks) [] (paragraph "Hi" 8) [("Oh".toList, ⟨18, 20⟩)] (paragraph "Yo" 28) [] := by
  refine ⟨by decide +kernel, ?_⟩
  have helement : Holds (Outline.rootsOf landmarks) []
      (.element (.named "div") ([] ++ paragraph "Hi" 8 :: [.embed [paragraph "Oh" 18]] ++ paragraph "Yo" 28 :: [])) [] :=
    .here [] _ []
  exact path_ne_of_siblings areNamed_landmarks helement (by decide) rfl rfl

end Phrasebook.Source
