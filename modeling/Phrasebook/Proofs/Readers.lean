import Phrasebook.Proofs.Outlines

/-!
# What readers answer

A reader is put together from others, and so is what is known of the trees that it answers. Here this is that the first
line of a script is no statement, so it comes first in a source, if it comes.

Results:
1. `Yields`: every tree that a reader answers has a property, with one lemma for each way to put readers together.
2. `noScriptLine_rules`: no statement is the first line of a script.
3. `exists_line_of_ofChars?`: the first line of a script comes first, and nowhere else.
-/

namespace Phrasebook.Source

/-! ## 1. Readers put together -/

/-- Every tree that a reader answers has a property. -/
def Reader.Yields (P : Tree → Prop) (p : Reader) : Prop :=
  ∀ ⦃s c ts c'⦄, p s c = some (ts, c') → ∀ t ∈ ts, P t

/-- One reader after another answers what both do. -/
theorem Reader.exists_of_append {p q : Reader} {s : Setting} {c c' : Cursor} {ts : List Tree}
    (h : (p ++ q) s c = some (ts, c')) :
    ∃ xs ys c₁, p s c = some (xs, c₁) ∧ q s c₁ = some (ys, c') ∧ ts = xs ++ ys := by
  change andThen p q s c = _ at h
  rw [andThen] at h
  split at h
  · exact absurd h (by simp)
  · rename_i xs c₁ hfirst
    split at h
    · exact absurd h (by simp)
    · rename_i ys c₂ hsecond
      obtain ⟨rfl, rfl⟩ := Prod.mk.inj (Option.some.inj h)
      exact ⟨xs, ys, c₁, hfirst, hsecond, rfl⟩

namespace Reader.Yields

variable {P : Tree → Prop} {p q : Reader}

theorem of_eq {ts us : List Tree} {c c' : Cursor} (h : ∀ t ∈ ts, P t) (heq : some (ts, c) = some (us, c')) :
    ∀ t ∈ us, P t := by
  obtain ⟨rfl, -⟩ := Prod.mk.inj (Option.some.inj heq)
  exact h

theorem refuse : Yields P refuse := fun _ _ _ _ h => absurd h (by simp [Reader.refuse])

theorem append (hp : Yields P p) (hq : Yields P q) : Yields P (p ++ q) := by
  intro s c ts c' h
  obtain ⟨xs, ys, c₁, hfirst, hsecond, rfl⟩ := exists_of_append h
  exact List.forall_mem_append.mpr ⟨hp hfirst, hq hsecond⟩

theorem orElse (hp : Yields P p) (hq : Yields P q) : Yields P (p <|> q) := by
  intro s c ts c' h
  change Reader.orElse p q s c = _ at h
  rw [Reader.orElse] at h
  split at h
  · exact hq h
  · rename_i hfirst
    rw [h] at hfirst
    exact hp hfirst

theorem repeated (hp : Yields P p) (n : Nat) : Yields P (repeated p n) := by
  induction n with
  | zero => exact fun _ _ _ _ h => of_eq (fun _ ht => absurd ht List.not_mem_nil) h
  | succ n ih =>
    intro s c ts c' h
    rw [Reader.repeated] at h
    dsimp only at h
    split at h
    · exact of_eq (fun _ ht => absurd ht List.not_mem_nil) h
    · rename_i hfirst
      split at h
      · exact of_eq (fun _ ht => absurd ht List.not_mem_nil) h
      · split at h
        · exact absurd h (by simp)
        · rename_i hmore
          exact of_eq (List.forall_mem_append.mpr ⟨hp hfirst, ih hmore⟩) h

theorem many (hp : Yields P p) : Yields P (many p) := fun s _ _ _ h => hp.repeated s.limit h

theorem ahead (p : Reader) : Yields P (ahead p) := by
  intro s c ts c' h
  obtain ⟨_, -, heq⟩ := Option.map_eq_some_iff.mp h
  exact of_eq (fun _ ht => absurd ht List.not_mem_nil) (congrArg some heq)

theorem construct {k : Kind} (h : ∀ ts, P (.node .plain k ts)) (p : Reader) : Yields P (construct k p) := by
  intro s c ts c' hread
  obtain ⟨⟨us, _⟩, -, heq⟩ := Option.map_eq_some_iff.mp hread
  exact of_eq (List.forall_mem_singleton.mpr (h us)) (congrArg some heq)

theorem typedOnly (hp : Yields P p) : Yields P (typedOnly p) := by
  intro s c ts c' h
  rw [Reader.typedOnly] at h
  split at h
  · exact hp h
  · exact absurd h (by simp)

theorem leaf {k : Kind} (h : ∀ before text, P (.leaf .plain k before text)) (split : Lexeme.Splitter) :
    Yields P (leaf k split) := by
  intro s c ts c' hread
  obtain ⟨_, -, heq⟩ := Option.map_eq_some_iff.mp hread
  exact of_eq (List.forall_mem_singleton.mpr (h _ _)) (congrArg some heq)

end Reader.Yields

/-! ## 2. Statements -/

namespace Grammar

open Reader

variable {g : Rules}

/-- A reader that does not answer the first line of a script. -/
abbrev NoScriptLine (p : Reader) : Prop := Yields (·.kind ≠ .hashbang) p

theorem noScriptLine_construct {k : Kind} (h : k ≠ .hashbang) (p : Reader) : NoScriptLine (construct k p) :=
  .construct (fun _ => h) p

theorem noScriptLine_phrase (p : Reader) : NoScriptLine (construct .phrase p) := noScriptLine_construct (by decide) p

theorem noScriptLine_declaration : NoScriptLine (declaration g) := by
  have hfunction : NoScriptLine (firstOf [functionDeclaration g, functionSignature g]) :=
    (noScriptLine_construct (by decide) _).orElse ((noScriptLine_phrase _).typedOnly.orElse .refuse)
  have hclass : NoScriptLine (classDeclaration g) := noScriptLine_phrase _
  have hvariable : NoScriptLine (variableDeclaration g) := noScriptLine_phrase _
  have htyped (p : Reader) : NoScriptLine (typedOnly (construct .phrase p)) := (noScriptLine_phrase p).typedOnly
  intro s c ts c' h
  rw [declaration] at h
  split at h
  · exact hfunction h
  · exact hfunction h
  · exact hclass h
  · exact hclass.typedOnly h
  · exact ((htyped _).orElse (hvariable.orElse .refuse)) h
  · exact hvariable h
  · exact hvariable h
  · exact htyped _ h
  · exact htyped _ h
  · exact htyped _ h
  · exact htyped _ h
  · exact htyped _ h
  · exact htyped _ h
  · exact htyped _ h
  · split at h
    · exact hclass h
    · exact absurd h (by simp)

theorem noScriptLine_statementOf (w : String) : NoScriptLine (statementOf g w) := by
  have hexport : NoScriptLine (exportStatement g) := noScriptLine_construct (by decide) _
  have himport : NoScriptLine (importStatement g) := noScriptLine_construct (by decide) _
  have hexpression : NoScriptLine (expressionStatement g) := noScriptLine_construct (by decide) _
  have hdeclaration : NoScriptLine (declaration g) := noScriptLine_declaration
  rw [statementOf.eq_def]
  split
  · exact himport.orElse (hdeclaration.orElse (hexpression.orElse .refuse))
  · exact hexport
  · exact noScriptLine_phrase _
  · exact noScriptLine_phrase _
  · exact noScriptLine_phrase _
  · exact noScriptLine_phrase _
  · exact noScriptLine_phrase _
  · exact noScriptLine_phrase _
  · exact noScriptLine_phrase _
  · exact noScriptLine_construct (by decide) _
  · exact noScriptLine_phrase _
  · exact noScriptLine_phrase _
  · exact noScriptLine_phrase _
  · exact noScriptLine_phrase _
  · exact hexport.orElse (hdeclaration.orElse (hexpression.orElse .refuse))
  · split
    · exact hdeclaration
    · exact hdeclaration.orElse ((noScriptLine_phrase _).orElse (hexpression.orElse .refuse))

theorem noScriptLine_statement : NoScriptLine (statement g) := by
  have hexport : NoScriptLine (exportStatement g) := noScriptLine_construct (by decide) _
  have hexpression : NoScriptLine (expressionStatement g) := noScriptLine_construct (by decide) _
  intro s c ts c' h
  rw [statement] at h
  split at h
  · exact absurd h (by simp)
  · exact noScriptLine_phrase _ h
  · exact noScriptLine_construct (by decide) _ h
  · exact (hexport.orElse (noScriptLine_declaration.orElse (hexpression.orElse .refuse))) h
  · split at h
    · exact hexpression h
    · exact noScriptLine_statementOf _ h

/-- No statement is the first line of a script, however deep the rules nest. -/
theorem noScriptLine_rules (n : Nat) : NoScriptLine (rules n .statement) := by
  cases n with
  | zero => exact .refuse
  | succ n => exact noScriptLine_statement

/-! ## 3. The first line of a script -/

theorem kind_of_opt_hashbangLine {s : Setting} {c c' : Cursor} {ts : List Tree} (h : opt hashbangLine s c = some (ts, c')) :
    ts.length ≤ 1 ∧ ∀ t ∈ ts, t.kind = .hashbang := by
  change Reader.orElse hashbangLine nothing s c = _ at h
  rw [Reader.orElse] at h
  split at h
  · obtain ⟨rfl, -⟩ := Prod.mk.inj (Option.some.inj h)
    exact ⟨Nat.zero_le _, fun _ ht => absurd ht List.not_mem_nil⟩
  · rename_i hline
    rw [h] at hline
    obtain ⟨_, -, heq⟩ := Option.map_eq_some_iff.mp hline
    obtain ⟨rfl, -⟩ := Prod.mk.inj heq
    exact ⟨Nat.le_refl 1, List.forall_mem_singleton.mpr rfl⟩

end Grammar

/-- A source that has been read is what its rule answers. -/
theorem exists_sourceRule_of_ofChars? {dialect : Dialect} {source : List Char} {d : Document}
    (h : Document.ofChars? dialect source = some d) :
    d.source = source ∧ ∃ depth s c, sourceRule depth s (Cursor.ofChars source) = some (d.trees, c) := by
  rw [Document.ofChars?] at h
  split at h
  · rename_i trees _ hread
    split at h
    · rw [Option.some.injEq] at h
      subst h
      exact ⟨rfl, _, _, _, hread⟩
    · exact absurd h (by simp)
  · exact absurd h (by simp)

/-- The first line of a script comes first, if there is one, and nowhere else. -/
theorem exists_line_of_ofChars? {dialect : Dialect} {source : List Char} {d : Document}
    (h : Document.ofChars? dialect source = some d) :
    ∃ line rest, d.trees = line ++ rest ∧ line.length ≤ 1 ∧ (∀ t ∈ line, t.kind = .hashbang) ∧
      ∀ t ∈ rest, t.kind ≠ .hashbang := by
  obtain ⟨-, depth, s, c, hread⟩ := exists_sourceRule_of_ofChars? h
  obtain ⟨front, last, c₂, hfront, hlast, htrees⟩ := Reader.exists_of_append hread
  obtain ⟨line, rest, c₁, hline, hrest, rfl⟩ := Reader.exists_of_append hfront
  obtain ⟨hlength, hkind⟩ := Grammar.kind_of_opt_hashbangLine hline
  have hstatements : Grammar.NoScriptLine (Grammar.statements (rules depth)) :=
    (Reader.Yields.orElse (.leaf (fun _ _ => (by decide : Kind.token ≠ .hashbang)) _) (Grammar.noScriptLine_rules _)).many
  rw [List.append_assoc] at htrees
  refine ⟨line, rest ++ last, htrees, hlength, hkind, List.forall_mem_append.mpr ⟨hstatements hrest, ?_⟩⟩
  rw [sourceEnd] at hlast
  split at hlast
  · have htoken : (Tree.leaf .plain .token c₂.before []).kind ≠ .hashbang := (by decide : Kind.token ≠ .hashbang)
    exact Reader.Yields.of_eq (List.forall_mem_singleton.mpr htoken) hlast
  · exact absurd hlast (by simp)

end Phrasebook.Source
