import Phrasebook.Proofs.Commands
import Phrasebook.Proofs.Markups

/-!
# What commands answer

A text without square brackets is printed as it is meant, whatever else is in it, so a consolidation ends as its report
says and a lookup prints what is shown.

Results:
1. `outcome_say`: a message without brackets can be printed.
2. `code_run_consolidate`: a consolidation succeeds just if it has run.
3. `run_resolve`: a lookup succeeds and prints what is shown.
-/

namespace Phrasebook

/-! ## 1. Texts without brackets -/

namespace Command

/-- A message without brackets is printed. -/
theorem outcome_say (terminal : Terminal) (kind : Console.MessageKind) {message : String} (h : '[' ∉ message.toList)
    (p : Progress) : ∃ p', (say terminal kind message).outcome p = (.ok (), p') := by
  have hchars : '[' ∉ kind.sign :: ' ' :: message.toList := by
    rw [List.mem_cons, List.mem_cons, not_or, not_or]
    exact ⟨by cases kind <;> decide, by decide, h⟩
  rw [say, Console.messageText, Console.Markup.shown_of_not_mem hchars]
  exact ⟨_, rfl⟩

/-! ## 2. Consolidations -/

theorem bracket_not_mem_published (strings preserved dropped stale : Nat) :
    '[' ∉ (s!"Catalog holds {strings} strings ({preserved} with translations kept, " ++
      s!"{dropped} dropped, {stale} stale)").toList := by
  have htext : ∀ s : String, toString s = s := fun _ => rfl
  have hdigit : '['.isDigit = false := by decide
  simp [htext, Decimal.not_mem_toDigits hdigit]

theorem bracket_not_mem_skipped (lines : Nat) : '[' ∉ (s!"Skipped {lines} corrupt sink lines").toList := by
  have htext : ∀ s : String, toString s = s := fun _ => rfl
  have hdigit : '['.isDigit = false := by decide
  simp [htext, Decimal.not_mem_toDigits hdigit]

/-- A consolidation fails just if it has not run. -/
theorem outcome_consolidate (terminal : Terminal) (settings : Settings) (p : Progress) :
    ((consolidate terminal settings).outcome p).1 =
      if ((Consolidation.ofProject settings (rootOf settings p.workspace)).run p.workspace).1.ran then .ok ()
      else .error failureCode := by
  rw [consolidate, Step.outcome_bind, outcome_workspace]
  dsimp only
  rw [Step.outcome_bind, outcome_setWorkspace]
  dsimp only
  split
  · rename_i hran
    obtain ⟨p₁, hsay⟩ := outcome_say terminal .success (bracket_not_mem_published _ _ _ _) _
    rw [Step.outcome_bind, hsay]
    dsimp only
    split
    · obtain ⟨p₂, hsay⟩ := outcome_say terminal .warning (bracket_not_mem_skipped _) p₁
      rw [hsay]
    · rfl
  · have hplain : '[' ∉ "Catalog left unchanged".toList := by decide
    obtain ⟨p₁, hsay⟩ := outcome_say terminal .warning hplain _
    rw [Step.outcome_bind, hsay]
    rfl

variable {settings chosen : Settings} {w : Workspace} {current : Locale} {arguments : List String}
  {level root : Option String} {json : Bool}

/-- A command that consolidates succeeds just if the consolidation has run. -/
theorem code_run_consolidate (h : Arguments.request? arguments = some (.run ⟨level, json, .consolidate, root⟩))
    (hchosen : settingsFor settings w root = some chosen) (terminal : Terminal) :
    (run settings terminal current w arguments).code =
      if ((Consolidation.ofProject chosen (rootOf chosen w)).run w).1.ran then 0 else failureCode := by
  have hrun := run_of_settingsFor h hchosen terminal current
  rw [show isPossible w .consolidate = true from rfl, if_pos rfl] at hrun
  rw [hrun.1, show perform terminal chosen current .consolidate = consolidate terminal chosen from rfl,
    outcome_consolidate]
  dsimp only
  by_cases hran : ((Consolidation.ofProject chosen (rootOf chosen w)).run w).1.ran = true
  · rw [if_pos hran, if_pos hran]
  · rw [if_neg hran, if_neg hran]

/-! ## 3. Lookups -/

theorem outcome_resolve {settings : Settings} {current : Locale} {key locale text : String} (p : Progress)
    (h : ((Resolver.ofProject settings p.workspace).resolve p.workspace current key (some locale)).1 = .ok text) :
    (resolve settings current key locale).outcome p =
      (.ok (),
        ⟨p.printed ++ text ++ "\n",
          ((Resolver.ofProject settings p.workspace).resolve p.workspace current key (some locale)).2.2⟩) := by
  rw [resolve, Step.outcome_bind, outcome_workspace]
  dsimp only
  generalize (Resolver.ofProject settings p.workspace).resolve p.workspace current key (some locale) = answer at h ⊢
  obtain ⟨shown, r, w'⟩ := answer
  obtain rfl : shown = .ok text := h
  dsimp only
  rw [Step.outcome_bind, outcome_setWorkspace]
  rfl

/-- A command that looks a key up succeeds and prints what is shown for the key. -/
theorem run_resolve {key locale text : String}
    (hshown : ((Resolver.ofProject chosen w).resolve w current key (some locale)).1 = .ok text)
    (h : Arguments.request? arguments = some (.run ⟨level, json, .resolve key locale, root⟩))
    (hchosen : settingsFor settings w root = some chosen) (terminal : Terminal) :
    (run settings terminal current w arguments).code = 0 ∧
      (run settings terminal current w arguments).printed = text ++ "\n" := by
  have hrun := run_of_settingsFor h hchosen terminal current
  rw [show isPossible w (.resolve key locale) = true from rfl, if_pos rfl] at hrun
  rw [hrun.1, hrun.2.1,
    show perform terminal chosen current (.resolve key locale) = resolve chosen current key locale from rfl,
    outcome_resolve ⟨"", w⟩ hshown]
  exact ⟨rfl, congrArg (· ++ "\n") String.empty_append⟩

end Command
end Phrasebook
