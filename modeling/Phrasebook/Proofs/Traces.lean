import Phrasebook.Event.Line
import Phrasebook.Proofs.Blanks

/-!
# Traces

Of the frames of a failure only the last are shown, with a mark for the others. Which frames a text shows can be told
from it: its lines are the lines of the frames, set in.

Results:
1. `splitOn_insetText`: the lines of a text that is set in.
2. `Shows.joined_eq`: a text shows the same frames, however it is read.
3. `shows_lastFrames_iff`: the last frames are shown, unless none should be.
-/

namespace Phrasebook.Event

/-! ## 1. Texts that are set in -/

/-- The lines of a text that is set in are its lines, each set in. -/
theorem splitOn_insetText (cs : List Char) :
    Text.splitOn '\n' (insetText cs).toList = (Text.splitOn '\n' cs).map (inset.toList ++ ·) := by
  have hinset : '\n' ∉ inset.toList := by decide
  induction cs using Text.splitOn_induction '\n' with
  | one cs h =>
    have hline : '\n' ∉ inset.toList ++ cs := fun hmem => (List.mem_append.mp hmem).elim hinset h
    have htext : (insetText cs).toList = inset.toList ++ cs := by
      rw [insetText, Text.splitOn_of_not_mem h]
      simp
    rw [htext, Text.splitOn_of_not_mem h, Text.splitOn_of_not_mem hline]
    rfl
  | more part rest h ih =>
    have hline : '\n' ∉ inset.toList ++ part := fun hmem => (List.mem_append.mp hmem).elim hinset h
    have htext : (insetText (part ++ '\n' :: rest)).toList = inset.toList ++ part ++ '\n' :: (insetText rest).toList := by
      rw [insetText, insetText, Text.splitOn_append h]
      cases hrest : Text.splitOn '\n' rest with
      | nil => exact absurd hrest (Text.splitOn_ne_nil '\n' rest)
      | cons line lines => simp [String.intercalate_cons_cons]
    rw [htext, Text.splitOn_append hline, Text.splitOn_append h, ih, List.map_cons]

/-! ## 2. Which frames are shown -/

/-- The text of some frames, without the blanks at its end. -/
def joined (frames : List String) : List Char := Text.trimEnd (String.join frames).toList

/-- A text shows a failure with some frames: it begins with the kind and the wording of the failure, and below them are
the lines of the frames, each set in. -/
def Shows (colored : Bool) (kind message : String) (frames : List String) (text : String) : Prop :=
  ∃ body : List Char,
    text = inset ++ painted colored .rose (kind ++ ": " ++ message) ++ "\n" ++
      painted colored .slate (String.ofList body) ∧
    Text.splitOn '\n' body = (Text.splitOn '\n' (joined frames)).map (inset.toList ++ ·)

theorem painted_inj {colored : Bool} {c : Color} {text text' : String}
    (h : painted colored c text = painted colored c text') : text = text' := by
  rw [painted, painted] at h
  split at h
  · rw [Color.paint, Color.paint] at h
    exact (String.append_right_inj _).mp ((String.append_left_inj _).mp h)
  · exact h

/-- What a text shows is what its frames are. -/
theorem Shows.joined_eq {colored : Bool} {kind message text : String} {frames frames' : List String}
    (h : Shows colored kind message frames text) (h' : Shows colored kind message frames' text) :
    joined frames = joined frames' := by
  obtain ⟨body, rfl, hlines⟩ := h
  obtain ⟨body', htext, hlines'⟩ := h'
  have hbody : body = body' := String.ofList_injective (painted_inj ((String.append_right_inj _).mp htext))
  subst hbody
  rw [hlines, List.map_inj_right fun _ _ => List.append_cancel_left] at hlines'
  exact Text.eq_of_splitOn_eq '\n' hlines'

theorem shows_failureText (style : LineStyle) (kind message : String) (formatted : List String) :
    Shows style.colored kind message (lastLines style.maxFrames formatted) (failureText style kind message formatted) :=
  ⟨(insetText (joined (lastLines style.maxFrames formatted))).toList, by rw [String.ofList_toList]; rfl,
    splitOn_insetText _⟩

theorem shows_failureText_iff (style : LineStyle) (kind message : String) (formatted frames : List String) :
    Shows style.colored kind message frames (failureText style kind message formatted) ↔
      joined (lastLines style.maxFrames formatted) = joined frames := by
  refine ⟨(shows_failureText style kind message formatted).joined_eq, fun h => ?_⟩
  obtain ⟨body, htext, hlines⟩ := shows_failureText style kind message formatted
  exact ⟨body, htext, h ▸ hlines⟩

/-! ## 3. The last frames -/

/-- The last frames up to a number, after the mark if there are more. -/
def lastFrames (most : Nat) (formatted : List String) : List String :=
  (if most < formatted.length then [truncationMark] else []) ++
    formatted.drop (formatted.length - min most formatted.length)

theorem lastLines_eq_lastFrames {most : Nat} (h : 0 < most) (formatted : List String) :
    lastLines most formatted = lastFrames most formatted := by
  rw [lastLines, lastFrames]
  rcases Nat.lt_or_ge most formatted.length with hless | hall
  · rw [if_pos (by omega), if_pos (by omega), if_pos hless, Nat.min_eq_left hless.le]
    rfl
  · rw [if_neg (by omega), if_neg (by omega), Nat.min_eq_right hall, Nat.sub_self]
    rfl

/-- The last zero frames are all of them: as many are left out as there are from the front, none. -/
theorem lastLines_zero {formatted : List String} (h : formatted ≠ []) :
    lastLines 0 formatted = truncationMark :: formatted := by
  have := List.length_pos_iff.mpr h
  rw [lastLines, if_pos (by omega)]
  rfl

theorem lastFrames_zero {formatted : List String} (h : formatted ≠ []) : lastFrames 0 formatted = [truncationMark] := by
  rw [lastFrames, if_pos (List.length_pos_iff.mpr h), Nat.zero_min, Nat.sub_zero, List.drop_length]
  rfl

/-- A frame with nothing but blanks in it, as no call leaves one. -/
def IsBlankFrame (frame : String) : Prop := ∀ c ∈ frame.toList, Text.isBlank c = true

instance (frame : String) : Decidable (IsBlankFrame frame) :=
  inferInstanceAs (Decidable (∀ c ∈ frame.toList, Text.isBlank c = true))

theorem forall_isBlankFrame_iff {frames : List String} :
    (∀ frame ∈ frames, IsBlankFrame frame) ↔ Text.trimEnd (String.join frames).toList = [] := by
  rw [Text.trimEnd_eq_nil_iff, String.toList_join]
  simp only [IsBlankFrame, List.mem_flatMap]
  exact ⟨fun h c ⟨frame, hframe, hc⟩ => h frame hframe c hc, fun h frame hframe c hc => h c ⟨frame, hframe, hc⟩⟩

/-- Frames after a first one are told from none by anything but blanks in them. -/
theorem joined_cons_eq_iff (first : String) (frames : List String) :
    joined (first :: frames) = joined [first] ↔ ∀ frame ∈ frames, IsBlankFrame frame := by
  rw [forall_isBlankFrame_iff, joined, joined, String.join_cons, String.join_cons, String.join_nil, String.append_empty,
    String.toList_append]
  refine ⟨fun h => ?_, fun h => Text.trimEnd_append (Text.trimEnd_eq_nil_iff.mp h) _⟩
  by_contra hne
  rw [Text.trimEnd_append_of_ne_nil hne] at h
  have hlength := congrArg List.length h
  have hle := congrArg List.length (Text.trimEnd_append_trailing first.toList)
  have hpos := List.length_pos_iff.mpr hne
  rw [List.length_append] at hlength hle
  omega

theorem joined_lastLines_iff (most : Nat) (formatted : List String) :
    joined (lastLines most formatted) = joined (lastFrames most formatted) ↔
      0 < most ∨ ∀ frame ∈ formatted, IsBlankFrame frame := by
  rcases Nat.eq_zero_or_pos most with rfl | hpos
  · rcases eq_or_ne formatted [] with rfl | hne
    · exact iff_of_true rfl (.inr (List.forall_mem_nil _))
    · show joined (lastLines 0 formatted) = _ ↔ _
      rw [lastLines_zero hne, lastFrames_zero hne, or_iff_right (Nat.lt_irrefl 0), joined_cons_eq_iff]
  · rw [lastLines_eq_lastFrames hpos]
    exact iff_of_true rfl (.inl hpos)

/-- Under every limit but zero a failure is shown with its last frames up to that number, and with the mark just if
there are more. -/
theorem shows_lastFrames_iff (style : LineStyle) (origin : Option String) (name message : String)
    (formatted : List String) (most : Nat) :
    Shows style.colored (qualified origin name) message (lastFrames most formatted)
      (failureText { style with maxFrames := most } (qualified origin name) message formatted) ↔
    0 < most ∨ ∀ frame ∈ formatted, IsBlankFrame frame := by
  rw [← joined_lastLines_iff, ← shows_failureText_iff { style with maxFrames := most }]

/-- Two calls under the limit zero: both are shown, below the mark for what is left out. -/
theorem not_shows_of_zero :
    ¬ Shows false (qualified (some "builtins") "ValueError") "boom"
      (lastFrames 0 ["  File \"a.py\", line 1, in f\n", "  File \"b.py\", line 2, in g\n"])
      (failureText { LineStyle.standard with maxFrames := (0 : Nat) } (qualified (some "builtins") "ValueError") "boom"
        ["  File \"a.py\", line 1, in f\n", "  File \"b.py\", line 2, in g\n"]) := by
  rw [show false = LineStyle.standard.colored from rfl, shows_lastFrames_iff]
  rintro (hpos | hblank)
  · exact Nat.lt_irrefl 0 hpos
  · exact absurd (hblank _ List.mem_cons_self 'F' (by decide)) (by decide)

end Phrasebook.Event
