import Phrasebook.Proofs.Lowering

/-!
# What the names in inserted calls refer to

A rewrite looks at no scopes. It chooses two names for a whole source: that of the lookup function, which it imports unless
the clause of an import binds it, and the variable that the first destructuring of a call of the locale hook takes the locale
into.
All calls have these names, wherever they stand. What the names refer to there is a matter of the scopes around: of what
the innermost scope that declares a name introduces.

Results:
1. `refersToImport_withImport_iff`: when a name refers to an import that is put in.
2. `exists_isFirstToTake`: the variable is that of the first destructuring in the order of the document.
3. `callsImport`: what the name of the lookup function refers to.
4. `refers_variable_iff`: where a name refers to a variable that one scope declares.
5. `not_refers_of_apart`: a name that one component declares refers to nothing in another one.
-/

namespace Phrasebook.Source

/-! ## 1. Scopes -/

/-- What introduces a name. -/
inductive Binding where
  /-- An import of the source, of something that exists at run time or only of a type. -/
  | imported (atRunTime : Bool)
  /-- The import that a rewrite puts in. -/
  | inserted
  /-- The variable declarator at an address. -/
  | variable (declarator : List Nat)
  /-- A parameter, a function, a class or anything else. -/
  | other
  deriving DecidableEq, Repr

/-- That a scope declares a name. A scope is told by the address of the construct that opens it; the scope of the module
has the empty address. -/
structure Declaration where
  scope : List Nat
  name : String
  binding : Binding
  deriving DecidableEq, Repr

def declared (declarations : List Declaration) (scope : List Nat) (name : String) : List Binding :=
  (declarations.filter fun e => e.scope == scope && e.name == name).map Declaration.binding

/-- A name at an address refers to what introduces it in the innermost scope around the address that declares it, as long
as that is one thing. -/
def Refers (declarations : List Declaration) (address : List Nat) (name : String) (b : Binding) : Prop :=
  ∃ scope, scope <+: address ∧ declared declarations scope name = [b] ∧
    ∀ inner, scope <+: inner → inner <+: address → inner ≠ scope → declared declarations inner name = []

/-- A name at an address refers to an import that exists at run time. -/
def RefersToImport (declarations : List Declaration) (address : List Nat) (name : String) : Prop :=
  Refers declarations address name .inserted ∨ Refers declarations address name (.imported true)

variable {declarations : List Declaration} {scope address : List Nat} {name : String} {b : Binding}

theorem mem_declared : b ∈ declared declarations scope name ↔ ⟨scope, name, b⟩ ∈ declarations := by
  simp only [declared, List.mem_map, List.mem_filter, Bool.and_eq_true, beq_iff_eq]
  constructor
  · rintro ⟨e, ⟨he, rfl, rfl⟩, rfl⟩
    exact he
  · exact fun h => ⟨_, ⟨h, rfl, rfl⟩, rfl⟩

/-- What the locale hook's call gives is taken into a variable of this name by a construct, if it is taken at all. -/
def takesLocale (hook : String) (t : Tree) : Option String :=
  (Outline.ofConstruct t).findSome? (Landmark.taken? hook localeProperty)

/-- Declarations as a source may have them: imports declare names in the scope of the module, and none has been put in
yet. -/
structure AreOfSource (declarations : List Declaration) : Prop where
  imported : ∀ e ∈ declarations, ∀ atRunTime, e.binding = .imported atRunTime → e.scope = []
  not_inserted : ∀ e ∈ declarations, e.binding ≠ .inserted

/-! ## 2. The import that is put in -/

/-- The declarations with the import of a name that is put in. -/
def withImport (name : String) (declarations : List Declaration) : List Declaration := ⟨[], name, .inserted⟩ :: declarations

theorem declared_withImport_self :
    declared (withImport name declarations) [] name = .inserted :: declared declarations [] name := by
  simp [declared, withImport]

theorem declared_withImport_of_ne {other : String} (h : scope ≠ [] ∨ name ≠ other) :
    declared (withImport other declarations) scope name = declared declarations scope name := by
  have hskip : (([] : List Nat) == scope && other == name) = false := by
    rw [Bool.and_eq_false_iff, beq_eq_false_iff_ne, beq_eq_false_iff_ne]
    exact h.imp Ne.symm Ne.symm
  rw [declared, withImport, List.filter_cons, hskip]
  rfl

/-- The name refers to the import just where no scope declared it. -/
theorem refersToImport_withImport_iff (h : AreOfSource declarations) :
    RefersToImport (withImport name declarations) address name ↔
      ∀ scope, scope <+: address → declared declarations scope name = [] := by
  constructor
  · intro hrefers
    obtain ⟨b, hb, scope, -, hdeclared, hinner⟩ :
        ∃ b, (b = .inserted ∨ b = .imported true) ∧ Refers (withImport name declarations) address name b := by
      rcases hrefers with hrefers | hrefers
      · exact ⟨_, .inl rfl, hrefers⟩
      · exact ⟨_, .inr rfl, hrefers⟩
    -- imports declare names in the scope of the module
    have hmodule : scope = [] := by
      rcases List.mem_cons.mp (mem_declared.mp (hdeclared ▸ List.mem_singleton_self b)) with heq | hmem
      · exact congrArg Declaration.scope heq
      · rcases hb with rfl | rfl
        · exact absurd rfl (h.not_inserted _ hmem)
        · exact h.imported _ hmem true rfl
    subst hmodule
    rw [declared_withImport_self, List.cons.injEq] at hdeclared
    intro scope hscope
    by_cases hnil : scope = []
    · rw [hnil, hdeclared.2]
    · rw [← declared_withImport_of_ne (.inl hnil), hinner scope List.nil_prefix hscope hnil]
  · intro hnone
    refine .inl ⟨[], List.nil_prefix, ?_, fun inner _ hprefix hne => ?_⟩
    · rw [declared_withImport_self, hnone [] List.nil_prefix]
    · rw [declared_withImport_of_ne (.inl hne), hnone inner hprefix]

/-- Where no import is put in, the name refers to one of the source if to any. -/
theorem refersToImport_iff (h : AreOfSource declarations) :
    RefersToImport declarations address name ↔ Refers declarations address name (.imported true) := by
  refine ⟨fun hrefers => hrefers.resolve_left ?_, .inr⟩
  rintro ⟨scope, -, hdeclared, -⟩
  have hmem : Binding.inserted ∈ declared declarations scope name := hdeclared ▸ List.mem_singleton_self _
  exact h.not_inserted _ (mem_declared.mp hmem) rfl

/-! ## 3. The names that a rewrite chooses -/

namespace Outline

/-- A part of an import clause binds a name: alone, for a whole module, or in braces, there by its alias if it has one. -/
inductive PartBinds (name : String) (part : Tree) : Prop where
  | alone (hkind : part.kind = .identifier) (hword : part.word = name)
  | whole (hkind : part.kind = .namespaceImport) (c : Tree) (hc : c ∈ part.children) (hname : c.kind = .identifier)
      (hword : c.word = name)
  | aliased (hkind : part.kind = .namedImports) (s : Tree) (hs : s ∈ part.children) (hspecifier : s.kind = .importSpecifier)
      (n : Tree) (hn : s.part .alias = some n) (hword : n.word = name)
  | named (hkind : part.kind = .namedImports) (s : Tree) (hs : s ∈ part.children) (hspecifier : s.kind = .importSpecifier)
      (hnone : s.part .alias = none) (n : Tree) (hn : s.part .name = some n) (hword : n.word = name)

/-- An import statement whose clause binds a name. -/
def ClauseBinds (name : String) (t : Tree) : Prop :=
  t.kind = .importStatement ∧
    ∃ clause ∈ t.children, clause.kind = .importClause ∧ ∃ part ∈ clause.children, PartBinds name part

/-- The name that a required module gets: `name` in `import name = require('x')`. -/
def requiredNames (t : Tree) : List String :=
  (t.children.filter (·.kind == .phrase)).flatMap fun c => ((c.children.take 1).filter (·.kind == .identifier)).map Tree.word

theorem mem_importedNames_iff {part : Tree} : name ∈ importedNames part ↔ PartBinds name part := by
  rw [importedNames.eq_def]
  constructor
  · intro h
    split at h
    · rename_i hk
      exact .alone hk (List.mem_singleton.mp h).symm
    · rename_i hk
      obtain ⟨c, hc, hword⟩ := List.mem_map.mp h
      obtain ⟨hmem, hname⟩ := List.mem_filter.mp hc
      exact .whole hk c hmem (beq_iff_eq.mp hname) hword
    · rename_i hk
      obtain ⟨s, hs, hword⟩ := List.mem_filterMap.mp h
      obtain ⟨hmem, hspecifier⟩ := List.mem_filter.mp hs
      obtain ⟨n, hn, hword⟩ := Option.map_eq_some_iff.mp hword
      rcases Option.or_eq_some_iff.mp hn with halias | ⟨hnone, hn⟩
      · exact .aliased hk s hmem (beq_iff_eq.mp hspecifier) n halias hword
      · exact .named hk s hmem (beq_iff_eq.mp hspecifier) hnone n hn hword
    · exact absurd h List.not_mem_nil
  · rintro (⟨hk, rfl⟩ | ⟨hk, c, hc, hname, rfl⟩ | ⟨hk, s, hs, hspecifier, n, hn, rfl⟩ | ⟨hk, s, hs, hspecifier, hnone, n, hn, rfl⟩)
    · rw [hk]
      exact List.mem_singleton_self _
    · rw [hk]
      exact List.mem_map_of_mem (List.mem_filter.mpr ⟨hc, beq_iff_eq.mpr hname⟩)
    · rw [hk]
      refine List.mem_filterMap.mpr ⟨s, List.mem_filter.mpr ⟨hs, beq_iff_eq.mpr hspecifier⟩, ?_⟩
      rw [hn, Option.some_or, Option.map_some]
    · rw [hk]
      refine List.mem_filterMap.mpr ⟨s, List.mem_filter.mpr ⟨hs, beq_iff_eq.mpr hspecifier⟩, ?_⟩
      rw [hnone, Option.none_or, hn, Option.map_some]

/-- Among constructs, only import statements tell of imported names: those that their clauses bind. -/
theorem imports_ofConstruct_iff {t : Tree} :
    (ofConstruct t).any (Landmark.imports name) = true ↔ ClauseBinds name t := by
  have himport : Landmark.imports name (ofImport t) = true ↔
      ∃ clause ∈ t.children, clause.kind = .importClause ∧ ∃ part ∈ clause.children, PartBinds name part := by
    rw [ofImport, Landmark.imports, List.contains_iff_mem, List.mem_flatMap]
    simp only [List.mem_filter, beq_iff_eq, List.mem_flatMap, mem_importedNames_iff, and_assoc]
  rw [ClauseBinds, ← himport, List.any_eq_true]
  constructor
  · rintro ⟨l, hl, himports⟩
    rcases mem_ofConstruct hl with hcode | ⟨hk, rfl⟩
    · cases l with
      | importing source names => cases hcode
      | _ => cases himports
    · exact ⟨hk, himports⟩
  · rintro ⟨hk, himports⟩
    refine ⟨ofImport t, ?_, himports⟩
    rw [ofConstruct, hk]
    exact List.mem_singleton_self _

end Outline

/-- The clause of an import statement outside markup binds a name. -/
def ImportsName (ts : List Tree) (name : String) : Prop :=
  ∃ address q t, Tree.Stands Outline.isOpen 0 ts address q t ∧ Outline.ClauseBinds name t

/-- An import statement outside markup gives a name to a module that it requires. -/
def RequiresName (ts : List Tree) (name : String) : Prop :=
  ∃ address q t, Tree.Stands Outline.isOpen 0 ts address q t ∧ t.kind = .importStatement ∧ name ∈ Outline.requiredNames t

theorem any_ownLandmarks (place : Nat) (t : Tree) :
    (Outline.ownLandmarks place t).any (Landmark.imports name) = (Outline.ofConstruct t).any (Landmark.imports name) := by
  cases t with
  | leaf r k before text => cases k <;> rfl
  | node r k cs =>
    rw [Outline.ownLandmarks]
    split
    · rename_i helement
      rw [Bool.or_eq_true, beq_iff_eq, beq_iff_eq] at helement
      have hnone : (Outline.ofConstruct (.node r k cs)).any (Landmark.imports name) = false := by
        rcases helement with rfl | rfl <;> rfl
      rw [hnone, List.any_map, List.any_eq_false]
      exact fun _ _ => Bool.false_ne_true
    · rfl

theorem findSome?_ownLandmarks (hook : String) (place : Nat) (t : Tree) :
    (Outline.ownLandmarks place t).findSome? (Landmark.taken? hook localeProperty) = takesLocale hook t := by
  cases t with
  | leaf r k before text => cases k <;> rfl
  | node r k cs =>
    rw [Outline.ownLandmarks, takesLocale]
    split
    · rename_i helement
      rw [Bool.or_eq_true, beq_iff_eq, beq_iff_eq] at helement
      have hnone : (Outline.ofConstruct (.node r k cs)).findSome? (Landmark.taken? hook localeProperty) = none := by
        rcases helement with rfl | rfl <;> rfl
      rw [hnone, List.findSome?_map, List.findSome?_eq_none_iff]
      exact fun _ _ => rfl
    · rfl

theorem importsName_landmarksOfAll_iff {ts : List Tree} :
    importsName (Outline.landmarksOfAll 0 ts) name = true ↔ ImportsName ts name := by
  rw [importsName, Outline.landmarksOfAll_eq 0 0 ts, List.any_flatMap, List.any_eq_true]
  constructor
  · rintro ⟨⟨address, q, t⟩, hmem, himports⟩
    rw [any_ownLandmarks, Outline.imports_ofConstruct_iff] at himports
    exact ⟨address, q, t, Tree.mem_nodesFrom_zero.mp hmem, himports⟩
  · rintro ⟨address, q, t, hstands, himports⟩
    rw [← Outline.imports_ofConstruct_iff, ← any_ownLandmarks q] at himports
    exact ⟨(address, q, t), Tree.mem_nodesFrom_zero.mpr hstands, himports⟩

instance (ts : List Tree) (name : String) : Decidable (ImportsName ts name) :=
  decidable_of_iff _ importsName_landmarksOfAll_iff

theorem exists_requires_iff {ts : List Tree} :
    (∃ n ∈ Tree.nodesFrom Outline.isOpen 0 0 ts, n.2.2.kind = .importStatement ∧ name ∈ Outline.requiredNames n.2.2) ↔
      RequiresName ts name := by
  constructor
  · rintro ⟨⟨address, q, t⟩, hmem, hrequires⟩
    exact ⟨address, q, t, Tree.mem_nodesFrom_zero.mp hmem, hrequires⟩
  · rintro ⟨address, q, t, hstands, hrequires⟩
    exact ⟨(address, q, t), Tree.mem_nodesFrom_zero.mpr hstands, hrequires⟩

instance (ts : List Tree) (name : String) : Decidable (RequiresName ts name) := decidable_of_iff _ exists_requires_iff

theorem localeVariable_landmarksOfAll (hook : String) (ts : List Tree) :
    localeVariable (Outline.landmarksOfAll 0 ts) hook =
      (Tree.nodesFrom Outline.isOpen 0 0 ts).findSome? fun n => takesLocale hook n.2.2 := by
  rw [localeVariable, Outline.landmarksOfAll_eq 0 0 ts]
  induction Tree.nodesFrom Outline.isOpen 0 0 ts with
  | nil => rfl
  | cons n ns ih =>
    rw [List.flatMap_cons, List.findSome?_append, findSome?_ownLandmarks, ih, List.findSome?_cons]
    cases takesLocale hook n.2.2 <;> rfl

/-- A construct is the first in a source to take the locale, into a variable of this name. -/
structure IsFirstToTake (hook : String) (ts : List Tree) (name : String) (address : List Nat) : Prop where
  takes : ∃ q t, Tree.Stands Outline.isOpen 0 ts address q t ∧ takesLocale hook t = some name
  isFirst : ∀ other q t, Tree.Stands Outline.isOpen 0 ts other q t → other < address → takesLocale hook t = none

/-- All calls hand on the variable that the first construct to take the locale takes it into. -/
theorem exists_isFirstToTake {hook : String} {ts : List Tree}
    (h : localeVariable (Outline.landmarksOfAll 0 ts) hook = some name) : ∃ address, IsFirstToTake hook ts name address := by
  rw [localeVariable_landmarksOfAll, List.findSome?_eq_some_iff] at h
  obtain ⟨front, ⟨address, q, t⟩, back, hsplit, htakes, hfront⟩ := h
  have hmem : (address, q, t) ∈ Tree.nodesFrom Outline.isOpen 0 0 ts := by
    rw [hsplit]
    exact List.mem_append_right front List.mem_cons_self
  refine ⟨address, ⟨q, t, Tree.mem_nodesFrom_zero.mp hmem, htakes⟩, fun other q' t' hstands hlt => ?_⟩
  have hother : (other, q', t') ∈ front ++ (address, q, t) :: back := hsplit ▸ Tree.mem_nodesFrom_zero.mpr hstands
  have hpairwise : (Tree.nodesFrom Outline.isOpen 0 0 ts).Pairwise fun a b => a.1 < b.1 := Tree.pairwise_nodesFrom 0 0 ts
  rw [hsplit, List.pairwise_append, List.pairwise_cons] at hpairwise
  rcases List.mem_append.mp hother with hfirst | hlater
  · exact hfront _ hfirst
  · -- what comes later has a greater address
    exfalso
    rcases List.mem_cons.mp hlater with heq | hback
    · cases heq
      exact lt_irrefl _ hlt
    · exact lt_asymm hlt (hpairwise.2.1.1 _ hback)

/-- Calls hand on nothing if no construct takes the locale. -/
theorem takesLocale_eq_none {hook : String} {ts : List Tree} (h : localeVariable (Outline.landmarksOfAll 0 ts) hook = none)
    {q : Nat} {t : Tree} (hstands : Tree.Stands Outline.isOpen 0 ts address q t) : takesLocale hook t = none := by
  rw [localeVariable_landmarksOfAll, List.findSome?_eq_none_iff] at h
  exact h _ (Tree.mem_nodesFrom_zero.mpr hstands)

/-! ## 4. The names in all calls -/

/-- The declarations of a rewritten source: an import of the lookup function has come to them unless one binds its name. -/
def afterRewrite (settings : Settings) (ts : List Tree) (declarations : List Declaration) : List Declaration :=
  if ImportsName ts settings.lookupFunction then declarations else withImport settings.lookupFunction declarations

theorem variable_mem_afterRewrite {settings : Settings} {ts : List Tree} {taker : List Nat} :
    .variable taker ∈ declared (afterRewrite settings ts declarations) scope name ↔
      .variable taker ∈ declared declarations scope name := by
  rw [afterRewrite]
  split
  · rfl
  · rw [mem_declared, mem_declared, withImport, List.mem_cons]
    exact or_iff_right (by simp)

/-- What the name of the lookup function refers to in a call at an address. -/
structure CallsImport (settings : Settings) (ts : List Tree) (declarations : List Declaration) (address : List Nat) :
    Prop where
  /-- If the clause of an import binds it: to an import that exists at run time, if that is what it refers to already. -/
  of_importsName : ImportsName ts settings.lookupFunction →
    (RefersToImport (afterRewrite settings ts declarations) address settings.lookupFunction ↔
      Refers declarations address settings.lookupFunction (.imported true))
  /-- If no import binds it: to the import that is put in, unless a scope around the call declares it. -/
  of_not_importsName : ¬ ImportsName ts settings.lookupFunction → ¬ RequiresName ts settings.lookupFunction →
    (RefersToImport (afterRewrite settings ts declarations) address settings.lookupFunction ↔
      ∀ scope, scope <+: address → declared declarations scope settings.lookupFunction = [])

theorem callsImport {settings : Settings} {ts : List Tree} (h : AreOfSource declarations) (address : List Nat) :
    CallsImport settings ts declarations address := by
  constructor
  · intro himports
    rw [afterRewrite, if_pos himports, refersToImport_iff h]
  · intro hnone _
    rw [afterRewrite, if_neg hnone, refersToImport_withImport_iff h]

/-- A name refers to a variable that is declared in one scope just if it stands in this scope, and around it nothing else
declares the name, neither this scope nor one within it. -/
theorem refers_variable_iff {settings : Settings} {ts : List Tree} {taker : List Nat}
    (hdeclares : ∀ other, .variable taker ∈ declared declarations other name ↔ other = scope) :
    Refers (afterRewrite settings ts declarations) address name (.variable taker) ↔
      scope <+: address ∧ declared (afterRewrite settings ts declarations) scope name = [.variable taker] ∧
        ∀ inner, scope <+: inner → inner <+: address → inner ≠ scope →
          declared (afterRewrite settings ts declarations) inner name = [] := by
  constructor
  · rintro ⟨other, hother, hdeclared, hinner⟩
    have hmem : .variable taker ∈ declared (afterRewrite settings ts declarations) other name :=
      hdeclared ▸ List.mem_singleton_self _
    obtain rfl := (hdeclares other).mp (variable_mem_afterRewrite.mp hmem)
    exact ⟨hother, hdeclared, hinner⟩
  · rintro ⟨haddress, hdeclared, hinner⟩
    exact ⟨scope, haddress, hdeclared, hinner⟩

/-- What is declared in some constructs only is nothing elsewhere. -/
theorem not_refers_of_apart {outer : List Nat} (h : ∀ e ∈ declarations, e.name = name → outer <+: e.scope)
    (haddress : ¬ outer <+: address) : ¬ Refers declarations address name b := by
  rintro ⟨scope, hscope, hdeclared, -⟩
  have hmem : b ∈ declared declarations scope name := hdeclared ▸ List.mem_singleton_self b
  exact haddress ((h _ (mem_declared.mp hmem) rfl).trans hscope)

end Phrasebook.Source
