import Phrasebook.Proofs.Rewrites
import Phrasebook.Proofs.SiblingPaths

/-!
# What a change of wording leaves alone

Of two outlines that differ in their texts alone, everything around the texts is the same: this is their frame. The frame
decides the component, the variable of the locale and the trail to every element. So a text that stays in its element has
the record, the key and the call that it had, whatever else was reworded, put in or taken out.

Results:
1. `texts_eq_housed`: the trail of a text is that of the element it stands in, and is read off the frame.
2. `component_frame` and `localeVariable_frame`: texts do not matter to what an outline says otherwise.
3. `keepsRecords_of_reworded`: what two outlines with one frame have in common.
-/

namespace Phrasebook.Source

/-! ## 1. Frames -/

namespace Markup

def isText : Markup → Bool
  | text _ _ => true
  | _ => false

mutual
def frame : Markup → Markup
  | text _ _ => text [] ⟨0, 0⟩
  | element tag children => element tag (framesOf children)
  | embed elements => embed (framesOf elements)
/-- A row of markup without the texts in it. -/
def framesOf : List Markup → List Markup
  | [] => []
  | m :: ms => if m.isText then framesOf ms else frame m :: framesOf ms
end

theorem framesOf_append (ms ns : List Markup) : framesOf (ms ++ ns) = framesOf ms ++ framesOf ns := by
  induction ms with
  | nil => rfl
  | cons m ms ih =>
    rw [List.cons_append, framesOf, framesOf, ih]
    split
    · rfl
    · rfl

/-- A text adds nothing to a path. -/
theorem tagName?_of_isText {m : Markup} (h : m.isText = true) : m.tagName? = none := by
  cases m with
  | text raw span => rfl
  | element tag children => exact absurd h (by simp [isText])
  | embed elements => rfl

theorem isText_frame (m : Markup) : m.frame.isText = m.isText := by
  cases m <;> rfl

theorem tagName?_frame (m : Markup) : m.frame.tagName? = m.tagName? := by
  cases m with
  | text raw span => rfl
  | element tag children => rw [frame]; cases tag <;> rfl
  | embed elements => rfl

/-- Texts have no tag, so they do not count among siblings. -/
theorem tagCount_framesOf (ms : List Markup) (name : String) : tagCount (framesOf ms) name = tagCount ms name := by
  rw [tagCount, tagCount]
  induction ms with
  | nil => rfl
  | cons m ms ih =>
    rw [framesOf, List.countP_cons]
    split
    · rename_i htext
      rw [ih, tagName?_of_isText htext]
      rfl
    · rw [List.countP_cons, ih, tagName?_frame]

theorem segment_of_isText {m : Markup} (h : m.isText = true) (siblings before : List Markup) (inFragment : Bool) :
    segment siblings before inFragment m = [] := by
  rw [segment, tagName?_of_isText h]

theorem soleSegment_of_isText {m : Markup} (h : m.isText = true) : m.soleSegment = [] := by
  rw [soleSegment, tagName?_of_isText h]
  rfl

theorem segment_frame (siblings before : List Markup) (inFragment : Bool) (m : Markup) :
    segment (framesOf siblings) (framesOf before) inFragment m.frame = segment siblings before inFragment m := by
  rw [segment, segment, tagName?_frame]
  cases m.tagName? with
  | none => rfl
  | some name =>
    dsimp only
    rw [tagCount_framesOf, tagCount_framesOf]

theorem soleSegment_frame (m : Markup) : m.frame.soleSegment = m.soleSegment := by
  rw [soleSegment, soleSegment, tagName?_frame]

end Markup

/-! ## 2. The elements that texts stand in -/

/-- A text with the way to the element that it stands in: at each element the number of the child to go to, where texts do
not count. -/
structure Housed where
  house : List Nat
  raw : List Char
  span : Span
  deriving Repr

namespace Housed

/-- A text with its trail, for a trail of every element. -/
def placed (trailOf : List Nat → List String) (t : Housed) : PlacedText := ⟨t.raw, t.span, trailOf t.house⟩

/-- A text in a child of an element. -/
def within (n : Nat) (t : Housed) : Housed := { t with house := n :: t.house }

end Housed

namespace Markup

mutual
/-- The texts of markup with the elements that they stand in. -/
def housed : Markup → List Housed
  | text raw span => [⟨[], raw, span⟩]
  | element _ children => housedAmong 0 children
  | embed elements => housedAmong 0 elements
/-- The texts of children that have a number of children before them, texts not counted. -/
def housedAmong (n : Nat) : List Markup → List Housed
  | [] => []
  | m :: ms =>
    if m.isText then housed m ++ housedAmong n ms else (housed m).map (Housed.within n) ++ housedAmong (n + 1) ms
end

/-- What the elements on a way add to the path, read off a frame. -/
def trailTo : List Nat → Markup → List String
  | n :: way, element tag children =>
    match children[n]? with
    | some m => segment children (children.take n) (tag == .fragment) m ++ trailTo way m
    | none => []
  | n :: way, embed elements =>
    match elements[n]? with
    | some m => m.soleSegment ++ trailTo way m
    | none => []
  | _, _ => []

theorem trailTo_nil (m : Markup) : trailTo [] m = [] := by
  cases m <;> rfl

/-- A text in a row stands in the element that the row is in. -/
theorem texts_of_isText {m : Markup} (h : m.isText = true) (trailOf : List Nat → List String) :
    texts (trailOf []) m = m.housed.map (Housed.placed trailOf) := by
  cases m with
  | text raw span => rfl
  | element tag children => exact absurd h (by simp [isText])
  | embed elements => exact absurd h (by simp [isText])

theorem framesOf_concat_of_isText {m : Markup} (h : m.isText = true) (before : List Markup) :
    framesOf (before ++ [m]) = framesOf before := by
  rw [framesOf_append, framesOf, if_pos h, framesOf, List.append_nil]

/-- Of a row in two parts, the second begins where the first ends. -/
theorem getElem?_framesOf {siblings before : List Markup} {m : Markup} {ms : List Markup}
    (hrow : siblings = before ++ m :: ms) (h : ¬ m.isText = true) :
    (framesOf siblings)[(framesOf before).length]? = some m.frame ∧
      (framesOf siblings).take (framesOf before).length = framesOf before ∧
        (framesOf before).length + 1 = (framesOf (before ++ [m])).length := by
  rw [hrow, framesOf_append, framesOf_append, framesOf, framesOf, if_neg h, if_neg h]
  exact ⟨by simp, by simp, by simp [framesOf]⟩

/-- The texts of a child, where the trail goes on from the child. -/
theorem map_placed_within {m : Markup} {n : Nat} {trail : List String} {trailOf : List Nat → List String}
    (h : ∀ way, trailOf (n :: way) = trail ++ trailTo way m.frame) :
    (m.housed.map (Housed.within n)).map (Housed.placed trailOf) =
      m.housed.map (Housed.placed fun way => trail ++ trailTo way m.frame) := by
  rw [List.map_map]
  refine List.map_congr_left fun t _ => ?_
  rw [Function.comp_apply, Housed.placed, Housed.placed, Housed.within, h]

mutual
/-- The trail of every text in markup is that of the element it stands in. -/
theorem texts_eq_housed (trail : List String) (m : Markup) :
    texts trail m = m.housed.map (Housed.placed fun way => trail ++ trailTo way m.frame) := by
  match m with
  | text raw span => rw [texts, housed, List.map_singleton, Housed.placed, trailTo_nil, List.append_nil]
  | element tag children =>
    rw [texts, housed]
    exact childTexts_eq_housed trail tag [] children
  | embed elements =>
    rw [texts, housed]
    exact embeddedTexts_eq_housed trail [] elements
theorem childTexts_eq_housed (trail : List String) (tag : Tag) (before ms : List Markup) :
    childTexts trail (before ++ ms) (tag == .fragment) before ms =
      (housedAmong (framesOf before).length ms).map
        (Housed.placed fun way => trail ++ trailTo way (frame (element tag (before ++ ms)))) := by
  match ms with
  | [] => rfl
  | m :: ms =>
    have hrow : before ++ [m] ++ ms = before ++ m :: ms := by rw [List.append_assoc, List.singleton_append]
    have hrest := childTexts_eq_housed trail tag (before ++ [m]) ms
    rw [hrow] at hrest
    have hfirst := texts_eq_housed (trail ++ segment (before ++ m :: ms) before (tag == .fragment) m) m
    rw [childTexts, hrest, housedAmong]
    split
    · rename_i htext
      have hhere := texts_of_isText htext fun way => trail ++ trailTo way (frame (element tag (before ++ m :: ms)))
      rw [trailTo_nil] at hhere
      rw [segment_of_isText htext, hhere, framesOf_concat_of_isText htext, List.map_append]
    · rename_i htext
      obtain ⟨hat, htake, hlength⟩ := getElem?_framesOf rfl htext
      rw [hfirst, List.map_append, hlength, map_placed_within]
      intro way
      rw [frame, trailTo, hat]
      dsimp only
      rw [htake, segment_frame, List.append_assoc]
theorem embeddedTexts_eq_housed (trail : List String) (before ms : List Markup) :
    embeddedTexts trail ms =
      (housedAmong (framesOf before).length ms).map
        (Housed.placed fun way => trail ++ trailTo way (frame (embed (before ++ ms)))) := by
  match ms with
  | [] => rfl
  | m :: ms =>
    have hrow : before ++ [m] ++ ms = before ++ m :: ms := by rw [List.append_assoc, List.singleton_append]
    have hrest := embeddedTexts_eq_housed trail (before ++ [m]) ms
    rw [hrow] at hrest
    have hfirst := texts_eq_housed (trail ++ m.soleSegment) m
    rw [embeddedTexts, hrest, housedAmong]
    split
    · rename_i htext
      have hhere := texts_of_isText htext fun way => trail ++ trailTo way (frame (embed (before ++ m :: ms)))
      rw [trailTo_nil] at hhere
      rw [soleSegment_of_isText htext, hhere, framesOf_concat_of_isText htext, List.map_append]
    · rename_i htext
      obtain ⟨hat, -, hlength⟩ := getElem?_framesOf rfl htext
      rw [hfirst, List.map_append, hlength, map_placed_within]
      intro way
      rw [frame, trailTo, hat]
      dsimp only
      rw [soleSegment_frame, List.append_assoc]
end

/-- A row without its texts is told by the frames of what is in it. -/
theorem framesOf_eq_filter (ms : List Markup) : framesOf ms = (ms.map frame).filter fun m => !m.isText := by
  induction ms with
  | nil => rfl
  | cons m ms ih =>
    rw [framesOf, List.map_cons, List.filter_cons, isText_frame, ih]
    cases m.isText with
    | true => rfl
    | false => rfl

end Markup

/-! ## 3. Outlines that differ in their texts -/

namespace Landmark

def frame : Landmark → Landmark
  | markup root => markup root.frame
  | other => other

theorem markupFunction?_frame (l : Landmark) : l.frame.markupFunction? = l.markupFunction? := by
  cases l <;> rfl

theorem defaultExport?_frame (l : Landmark) : l.frame.defaultExport? = l.defaultExport? := by
  cases l <;> rfl

theorem taken?_frame (callee property : String) (l : Landmark) :
    l.frame.taken? callee property = l.taken? callee property := by
  cases l <;> rfl

theorem root?_frame (l : Landmark) : l.frame.root? = l.root?.map Markup.frame := by
  cases l <;> rfl

end Landmark

/-- The component does not depend on texts. -/
theorem component_frame (landmarks : List Landmark) : component (landmarks.map Landmark.frame) = component landmarks := by
  simp only [component, List.filterMap_map, Function.comp_def, Landmark.markupFunction?_frame,
    Landmark.defaultExport?_frame]

/-- Nor does the variable of the locale. -/
theorem localeVariable_frame (landmarks : List Landmark) (hook : String) :
    localeVariable (landmarks.map Landmark.frame) hook = localeVariable landmarks hook := by
  simp only [localeVariable, List.findSome?_map, Function.comp_def, Landmark.taken?_frame]

theorem rootsOf_map_frame (landmarks : List Landmark) :
    Outline.rootsOf (landmarks.map Landmark.frame) = (Outline.rootsOf landmarks).map Markup.frame := by
  rw [Outline.rootsOf, Outline.rootsOf, List.filterMap_map, List.map_filterMap]
  exact List.filterMap_congr fun l _ => l.root?_frame

/-- The texts of an outline with the elements that they stand in; the way to these starts with the number of a root. -/
def housedTexts (o : Outline) : List Housed := (Markup.embed (Outline.rootsOf o.landmarks)).housed

/-- The trails of all texts are those of the elements that they stand in, and are read off the frames of the roots. -/
theorem placedTexts_eq_housed (o : Outline) :
    placedTexts o.landmarks = (housedTexts o).map
      (Housed.placed fun way => Markup.trailTo way (.embed (Markup.framesOf (Outline.rootsOf o.landmarks)))) := by
  rw [placedTexts_eq, housedTexts, ← Markup.frame]
  exact Markup.texts_eq_housed [] (.embed (Outline.rootsOf o.landmarks))

/-- Two outlines differ in their texts alone: without the texts they have the same landmarks, of markup the same elements
with the same tags and the same markup in braces and attributes. -/
def Reworded (o o' : Outline) : Prop := o.landmarks.map Landmark.frame = o'.landmarks.map Landmark.frame

namespace Reworded

variable {o o' : Outline} (h : Reworded o o')

include h

theorem component_eq : component o.landmarks = component o'.landmarks := by
  rw [← component_frame o.landmarks, h, component_frame]

theorem localeName_eq (settings : Settings) : Rewrite.localeName settings o = Rewrite.localeName settings o' := by
  rw [Rewrite.localeName, Rewrite.localeName, ← localeVariable_frame o.landmarks, h, localeVariable_frame]

theorem framesOf_roots :
    Markup.framesOf (Outline.rootsOf o.landmarks) = Markup.framesOf (Outline.rootsOf o'.landmarks) := by
  rw [Markup.framesOf_eq_filter, Markup.framesOf_eq_filter, ← rootsOf_map_frame, ← rootsOf_map_frame, h]

end Reworded

end Phrasebook.Source

/-! ## 4. Records and calls -/

namespace Phrasebook.Rewrite

open Source

/-- What is found for a text of an outline, if it is more than blanks: its record, and the call that is put in its
place. -/
def found? (settings : Settings) (file : String) (o : Outline) (t : PlacedText) : Option (Record × List Char) :=
  (extract settings file (component o.landmarks) (localeName settings o) t).map fun found =>
    (found.1, found.2.replacement)

/-- What a text shows between the blanks at its ends. -/
def wording? (raw : List Char) : Option (List Char) := (shownText raw).map Text.trim

/-- What is found for a text depends on its path and on what it shows between blanks. -/
theorem found?_eq (settings : Settings) (file : String) (o : Outline) (t : PlacedText) :
    found? settings file o t = (wording? t.raw).bind fun wording =>
      if isMeaningful wording then
        let record := Record.extracted (String.ofList wording) ⟨file, component o.landmarks, t.path⟩
        some (record, lookupCall settings (localeName settings o) record.key)
      else none := by
  rw [found?, extract, wording?]
  cases shownText t.raw with
  | none => rfl
  | some shown =>
    dsimp only [Option.map_some, Option.bind_some]
    split
    · rfl
    · rfl

/-- What two outlines have in common: the component, the variable of the locale, a trail for every element, and for each
text with the same wording in the same element the path, the record with its key, and the call. -/
structure KeepsRecords (settings : Settings) (file : String) (o o' : Outline) : Prop where
  component_eq : component o.landmarks = component o'.landmarks
  localeName_eq : localeName settings o = localeName settings o'
  texts : ∃ trailOf : List Nat → List String,
    placedTexts o.landmarks = (housedTexts o).map (Housed.placed trailOf) ∧
      placedTexts o'.landmarks = (housedTexts o').map (Housed.placed trailOf) ∧
        ∀ t ∈ housedTexts o, ∀ t' ∈ housedTexts o', t.house = t'.house →
          (t.placed trailOf).path = (t'.placed trailOf).path ∧
            (wording? t.raw = wording? t'.raw →
              found? settings file o (t.placed trailOf) = found? settings file o' (t'.placed trailOf))

/-- Whatever texts are changed, put in or taken out, all others keep what was found for them. -/
theorem keepsRecords_of_reworded {o o' : Outline} (h : Reworded o o') (settings : Settings) (file : String) :
    KeepsRecords settings file o o' := by
  refine ⟨h.component_eq, h.localeName_eq settings, ?_⟩
  refine ⟨_, placedTexts_eq_housed o, ?_, fun t _ t' _ hhouse => ?_⟩
  · rw [h.framesOf_roots]
    exact placedTexts_eq_housed o'
  · have hpath : (t.placed fun way => Markup.trailTo way (.embed (Markup.framesOf (Outline.rootsOf o.landmarks)))).path =
        (t'.placed fun way => Markup.trailTo way (.embed (Markup.framesOf (Outline.rootsOf o.landmarks)))).path := by
      rw [PlacedText.path, PlacedText.path, Housed.placed, Housed.placed, hhouse]
    refine ⟨hpath, fun hwording => ?_⟩
    rw [found?_eq, found?_eq, hpath, h.component_eq, h.localeName_eq settings]
    dsimp only [Housed.placed]
    rw [hwording]

/-! A text is taken out, one is changed and two are put in: `<main>Hi <b>Yo</b><b>Oh</b>{<i>Eh</i>}</main>` becomes
`<main><b>Yo</b>And <b>Ah</b>{<i>Eh</i>} you</main>`. -/

namespace KeepsRecords.Sample

def text (raw : String) (place : Nat) : Markup := .text raw.toList ⟨place, place + raw.utf8ByteSize⟩

def bold (raw : String) (place : Nat) : Markup := .element (.named "b") [text raw place]

def aside : Markup := .embed [.element (.named "i") [text "Eh" 33]]

def before : Outline := ⟨[.markup (.element (.named "main") [text "Hi " 6, bold "Yo" 12, bold "Oh" 21, aside])], 0⟩

def after : Outline :=
  ⟨[.markup (.element (.named "main") [bold "Yo" 9, text "And " 15, bold "Ah" 22, aside, text " you" 40])], 0⟩

end KeepsRecords.Sample

open KeepsRecords.Sample in
theorem keepsRecords_of_reworded_main :
    (housedTexts before).map (fun t => (t.house, String.ofList t.raw)) =
        [([0], "Hi "), ([0, 0], "Yo"), ([0, 1], "Oh"), ([0, 2, 0], "Eh")] ∧
      (housedTexts after).map (fun t => (t.house, String.ofList t.raw)) =
        [([0, 0], "Yo"), ([0], "And "), ([0, 1], "Ah"), ([0, 2, 0], "Eh"), ([0], " you")] ∧
      Reworded before after ∧ KeepsRecords Settings.standard "a.jsx" before after := by
  have hreworded : Reworded before after := rfl
  exact ⟨by decide +kernel, by decide +kernel, hreworded, keepsRecords_of_reworded hreworded Settings.standard "a.jsx"⟩

end Phrasebook.Rewrite
