import Mathlib.Data.List.Dedup
import Phrasebook.Proofs.Imports

/-!
# What scopes declare

The scopes of a source are those of its functions and its blocks: a function has its parameters and what is declared
with `var` anywhere in it but for inner functions, a block has all else that its statements declare. Loops and selections
are scopes as well; a class and a function in an expression have their own names for themselves. All that stands in a
construct is in its scope, so the value that a selection is made by counts with the selection.

Imports are those of the module. What is imported within an ambient module exists in no program and is an import of none.

Results:
1. `exists_site`, `site_unique`: each tree of a source has one site.
2. `variable_mem_declared_iff`: a declarator declares its names in one scope, the innermost function around it for `var`
   and the innermost block otherwise.
3. `mem_variableNames_of_takesLocale`: a construct that takes the locale is a declarator of the variable.
-/

namespace Phrasebook.Source

open Phrasebook.Source.Tree

/-! ## 1. Words, signs and patterns -/

/-- A tree is a word or a sign that is written so. -/
def isWritten (text : String) (t : Tree) : Bool := t.kind == .token && t.word == text

/-- A construct begins with a word or a sign. -/
def begins (text : String) (t : Tree) : Bool := t.children.head?.any (isWritten text)

/-- The name that a construct has in the role of one. -/
def nameOf (t : Tree) : List String := ((t.part .name).map Tree.word).toList

/-- The name after a keyword. Decorators and some other words may stand before the keyword. -/
def nameAfter (skipped : List String) (keyword : String) (t : Tree) : List String :=
  match t.children.dropWhile fun c => begins "@" c || skipped.any (isWritten · c) with
  | k :: n :: _ => if isWritten keyword k && n.kind == .identifier then [n.word] else []
  | _ => []

mutual
def boundNames : Tree → List String
  | .leaf r k before text =>
    if k == .identifier || k == .shorthand then [(Tree.leaf r k before text).word] else []
  | .node r k cs =>
    match k with
    | .identifier => [(Tree.node r k cs).word]
    | .shorthand => [(Tree.node r k cs).word]
    | .objectPattern => boundNamesOfAll cs
    | .pairPattern => boundNamesOfPart .value cs
    | .defaultedPattern => boundNamesOfPart .left cs
    | .defaultedProperty => ((inRole .left cs).map Tree.word).toList
    -- in brackets, or all that is left
    | .phrase => if begins "[" (.node r k cs) || begins "..." (.node r k cs) then boundNamesOfAll cs else []
    | _ => []
/-- The names that all patterns in a row bind. -/
def boundNamesOfAll : List Tree → List String
  | [] => []
  | t :: ts => boundNames t ++ boundNamesOfAll ts
/-- The names that the first pattern of a role binds. -/
def boundNamesOfPart (role : Role) : List Tree → List String
  | [] => []
  | t :: ts => if t.role == role then boundNames t else boundNamesOfPart role ts
end

/-! ## 2. Sites -/

/-- What is around a row of trees. -/
structure Surroundings where
  /-- The construct that they are parts of, none for the statements of a source. -/
  construct : Option Tree
  /-- Its address. -/
  address : List Nat
  /-- The scope of the innermost function. -/
  function : List Nat
  /-- The scope of the innermost block. -/
  block : List Nat

/-- What is around the statements of a source. -/
def Surroundings.module : Surroundings := ⟨none, [], [], []⟩

/-- Where a tree stands. -/
structure Site where
  around : Surroundings
  /-- The trees before it in its row, the nearest first. -/
  front : List Tree

namespace Site

def address (s : Site) : List Nat := s.around.address ++ [s.front.length]

/-- The tree is a part of a construct that begins with one of some words. -/
def isIn (s : Site) (words : List String) : Bool := s.around.construct.any fun t => words.any (begins · t)

/-- The tree comes right after one of some words. -/
def follows (s : Site) (words : List String) : Bool := s.front.head?.any fun t => words.any (isWritten · t)

/-- The tree is a function's body, or statements that are like one: those of a namespace and those that prepare a class. -/
def opensFunction (s : Site) (t : Tree) : Bool :=
  t.role == .body || t.kind == .block && (s.follows ["static"] || s.isIn ["namespace", "module", "declare"])

def opensBlock (s : Site) (t : Tree) : Bool :=
  s.opensFunction t || t.kind == .block || t.kind == .phrase && (begins "for" t || begins "switch" t)

/-- What is around the parts of the tree. -/
def within (s : Site) (t : Tree) : Surroundings where
  construct := some t
  address := s.address
  function := if s.opensFunction t then s.address else s.around.function
  block := if s.opensBlock t then s.address else s.around.block

def home (s : Site) : List Nat := if s.isIn ["var"] then s.around.function else s.around.block

def isStatement (s : Site) (t : Tree) : Bool :=
  t.role == .declaration ||
    match s.around.construct with
    | none => true
    | some c => c.kind == .block || s.isIn ["declare"] || s.isIn ["switch"] && !s.follows ["case"]

end Site

mutual
/-- A tree and all trees in it, each with its site. -/
def sitesAt (s : Site) : Tree → List (Site × Tree)
  | .leaf r k before text => [(s, .leaf r k before text)]
  | .node r k cs => (s, .node r k cs) :: sitesFrom (s.within (.node r k cs)) [] cs
/-- All trees in a row, each with its site. -/
def sitesFrom (around : Surroundings) (front : List Tree) : List Tree → List (Site × Tree)
  | [] => []
  | t :: ts => sitesAt ⟨around, front⟩ t ++ sitesFrom around (t :: front) ts
end

/-- All trees of a source with their sites. -/
def sitesOf (ts : List Tree) : List (Site × Tree) := sitesFrom .module [] ts

/-! ## 3. Declarations -/

def variableNames (t : Tree) : List String :=
  if t.kind == .declarator then (((t.part .name).map boundNames).getD []).dedup else []

def importsTypes (t : Tree) : Bool := t.children.any fun c => isWritten "type" c || isWritten "typeof" c

/-- The names that a part of an import clause binds, and whether they exist at run time. -/
def importedBy (atRunTime : Bool) (part : Tree) : List (String × Bool) :=
  if part.kind == .namedImports then
    (part.children.filter (·.kind == .importSpecifier)).flatMap fun s =>
      (((s.part .alias).or (s.part .name)).map fun n => (n.word, atRunTime && !importsTypes s)).toList
  else (Outline.importedNames part).map fun name => (name, atRunTime)

/-- The names that an import statement binds, and whether they exist at run time. -/
def importNames (t : Tree) : List (String × Bool) :=
  if t.kind == .importStatement then
    let atRunTime := !importsTypes t
    ((t.children.filter (·.kind == .importClause)).flatMap fun c => c.children.flatMap (importedBy atRunTime)) ++
      (Outline.requiredNames t).map fun name => (name, atRunTime)
  else []

/-- A function that has no kind of its own: a generator in an expression, or one without a body. -/
def isFunctionPhrase (t : Tree) : Bool :=
  t.kind == .phrase && ((t.children.dropWhile (isWritten "async")).head?.any (isWritten "function"))

/-- The names that a statement declares in the block around it. -/
def statementNames (s : Site) (t : Tree) : List String :=
  if t.kind == .functionDeclaration || (isFunctionPhrase t && (t.part .body).isNone) then nameOf t
  else if t.kind == .phrase then
    (if s.isStatement t then nameAfter ["abstract"] "class" t else []) ++ nameAfter ["const"] "enum" t ++
      nameAfter [] "namespace" t ++ nameAfter [] "module" t ++ nameAfter [] "import" t ++ usedNames t
  else []
where
  /-- The names of what is let go at the end of the block. -/
  usedNames (t : Tree) : List String :=
    match t.children with
    | w :: target :: _ => if isWritten "using" w then boundNames target else []
    | _ => []

/-- The names that a construct has for itself. -/
def ownNames (t : Tree) : List String :=
  if t.kind == .functionExpression || (isFunctionPhrase t && (t.part .body).isSome) then nameOf t
  else if t.kind == .phrase then nameAfter ["abstract"] "class" t
  else []

/-- The names that are declared for each round of a loop. -/
def roundNames (s : Site) (t : Tree) : List String :=
  if s.isIn ["for"] && s.follows ["var", "let", "const"] then boundNames t else []

/-- The names of parameters in parentheses: of each what stands before its type and its default value. -/
def parameterNames (t : Tree) : List String :=
  t.children.flatMap fun c =>
    ((c.children.takeWhile fun part => !isWritten ":" part && !isWritten "=" part).filter fun part =>
      !begins "@" part).flatMap boundNames

/-- The parameters of the body that comes after a row, nearest first: the last in parentheses that are no result type, or
a name without parentheses. They come with their number in the row. -/
def parametersIn : List Tree → Option (Nat × List String)
  | [] => none
  | t :: before =>
    if t.role == .name then some (before.length, [t.word])
    else if t.kind == .phrase && begins "(" t && !before.head?.any fun b => isWritten ":" b || isWritten "is" b then
      some (before.length, parameterNames t)
    else parametersIn before

/-- What is caught for the block that comes after a row, nearest first: what comes after the last open parenthesis. -/
def caughtIn : List Tree → Option (Nat × List String)
  | [] => none
  | t :: before => if before.head?.any (isWritten "(") then some (before.length, boundNames t) else caughtIn before

/-- What is bound before a tree for the tree: the parameters of a body, or what a block catches. -/
def boundBefore (s : Site) (t : Tree) : Option (Nat × List String) :=
  if t.role == .body then parametersIn s.front
  else if t.kind == .block && s.isIn ["try"] && s.follows [")"] then caughtIn s.front
  else none

/-- What is bound before a tree is declared in the tree, and where it is bound. -/
def entryNames (s : Site) (t : Tree) : List (List Nat × String) :=
  match boundBefore s t with
  | some (i, names) => names.flatMap fun name => [(s.around.address ++ [i], name), (s.address, name)]
  | none => []

/-- What a tree declares that is neither imported nor the variable of a declarator, with the scopes. -/
def otherNames (s : Site) (t : Tree) : List (List Nat × String) :=
  (statementNames s t).map (s.around.block, ·) ++ (ownNames t).map (s.address, ·) ++
    (roundNames s t).map (if s.follows ["var"] then s.around.function else s.around.block, ·) ++ entryNames s t

def declarationsAt (s : Site) (t : Tree) : List Declaration :=
  (variableNames t).map (fun name => ⟨s.home, name, .variable s.address⟩) ++
    (importNames t).map (fun n =>
      ⟨s.around.block, n.1, if s.around.block = [] then .imported n.2 else .other⟩) ++
    (otherNames s t).map (fun n => ⟨n.1, n.2, .other⟩)

def declarationsOf (ts : List Tree) : List Declaration := (sitesOf ts).flatMap fun n => declarationsAt n.1 n.2

/-! ## 4. Every tree has a site -/

variable {ts : List Tree} {s s' : Site} {t t' : Tree} {address : List Nat}

mutual
theorem map_sitesAt (place : Nat) (s : Site) (t : Tree) :
    (sitesAt s t).map (fun n => (n.1.address, n.2)) =
      (nodesAt (fun _ => true) place s.front.length t).map fun n => (s.around.address ++ n.1, n.2.2) := by
  cases t with
  | leaf r k before text => rfl
  | node r k cs =>
    rw [sitesAt, nodesAt, List.map_cons, List.map_cons, if_pos rfl, List.map_map,
      map_sitesFrom place (s.within (.node r k cs)) [] cs]
    refine congrArg₂ List.cons rfl (List.map_congr_left fun n _ => ?_)
    simp [Site.within, Site.address]
theorem map_sitesFrom (place : Nat) (around : Surroundings) (front ts : List Tree) :
    (sitesFrom around front ts).map (fun n => (n.1.address, n.2)) =
      (nodesFrom (fun _ => true) place front.length ts).map fun n => (around.address ++ n.1, n.2.2) := by
  cases ts with
  | nil => rfl
  | cons t ts =>
    rw [sitesFrom, nodesFrom, List.map_append, List.map_append, map_sitesAt place ⟨around, front⟩ t,
      map_sitesFrom (place + t.size) around (t :: front) ts]
    rfl
end

theorem map_sitesOf (ts : List Tree) :
    (sitesOf ts).map (fun n => (n.1.address, n.2)) =
      (nodesFrom (fun _ => true) 0 0 ts).map fun n => (n.1, n.2.2) :=
  map_sitesFrom 0 .module [] ts

theorem exists_site {passes : Kind → Bool} {q : Nat} (h : Stands passes 0 ts address q t) :
    ∃ s, (s, t) ∈ sitesOf ts ∧ s.address = address := by
  have hmem : (address, t) ∈ (nodesFrom (fun _ => true) 0 0 ts).map fun n => (n.1, n.2.2) :=
    List.mem_map_of_mem (f := fun n : Placed => (n.1, n.2.2)) (mem_nodesFrom_zero.mpr (h.mono fun _ _ => rfl))
  rw [← map_sitesOf] at hmem
  obtain ⟨⟨s, t'⟩, hs, heq⟩ := List.mem_map.mp hmem
  obtain ⟨rfl, rfl⟩ := Prod.mk.inj heq
  exact ⟨s, hs, rfl⟩

/-- Addresses increase along the sites. -/
theorem nodup_map_address (ts : List Tree) : ((sitesOf ts).map fun n => n.1.address).Nodup := by
  have hsorted : (nodesFrom (fun _ => true) 0 0 ts).Pairwise fun a b => a.1 < b.1 := pairwise_nodesFrom 0 0 ts
  have hmap : (sitesOf ts).map (fun n => n.1.address) = (nodesFrom (fun _ => true) 0 0 ts).map Prod.fst := by
    have h := congrArg (List.map Prod.fst) (map_sitesOf ts)
    rwa [List.map_map, List.map_map] at h
  rw [hmap, List.Nodup, List.pairwise_map]
  exact hsorted.imp fun h => ne_of_lt h

theorem site_unique (h : (s, t) ∈ sitesOf ts) (h' : (s', t') ∈ sitesOf ts) (heq : s.address = s'.address) :
    s = s' ∧ t = t' :=
  Prod.mk.inj (List.inj_on_of_nodup_map (nodup_map_address ts) h h' heq)

/-- The scopes around a row are around the construct that the row is in. -/
structure Surroundings.IsScoped (around : Surroundings) : Prop where
  function : around.function <+: around.address
  block : around.block <+: around.address

theorem Surroundings.IsScoped.within (h : s.around.IsScoped) (t : Tree) : (s.within t).IsScoped where
  function := by
    rw [Site.within]
    dsimp only
    split
    · exact List.prefix_refl _
    · exact h.function.trans (List.prefix_append _ _)
  block := by
    rw [Site.within]
    dsimp only
    split
    · exact List.prefix_refl _
    · exact h.block.trans (List.prefix_append _ _)

mutual
theorem isScoped_of_mem_sitesAt (s : Site) (h : s.around.IsScoped) :
    ∀ t : Tree, ∀ n ∈ sitesAt s t, n.1.around.IsScoped
  | .leaf r k before text => by
    rw [sitesAt, List.forall_mem_singleton]
    exact h
  | .node r k cs => by
    rw [sitesAt, List.forall_mem_cons]
    exact ⟨h, isScoped_of_mem_sitesFrom _ (h.within _) [] cs⟩
theorem isScoped_of_mem_sitesFrom (around : Surroundings) (h : around.IsScoped) (front : List Tree) :
    ∀ ts : List Tree, ∀ n ∈ sitesFrom around front ts, n.1.around.IsScoped
  | [] => fun _ hn => absurd hn List.not_mem_nil
  | t :: ts => by
    rw [sitesFrom, List.forall_mem_append]
    exact ⟨isScoped_of_mem_sitesAt ⟨around, front⟩ h t, isScoped_of_mem_sitesFrom around h (t :: front) ts⟩
end

/-- What a declarator declares is declared in a scope around it. -/
theorem home_prefix_address (h : (s, t) ∈ sitesOf ts) : s.home <+: s.address := by
  have hscoped := isScoped_of_mem_sitesFrom .module ⟨List.prefix_refl _, List.prefix_refl _⟩ [] ts _ h
  rw [Site.home]
  split
  · exact hscoped.function.trans (List.prefix_append _ _)
  · exact hscoped.block.trans (List.prefix_append _ _)

/-! ## 5. What declarators declare -/

theorem mem_declarationsAt {e : Declaration} :
    e ∈ declarationsAt s t ↔
      (∃ name ∈ variableNames t, e = ⟨s.home, name, .variable s.address⟩) ∨
        (∃ n ∈ importNames t, e = ⟨s.around.block, n.1, if s.around.block = [] then .imported n.2 else .other⟩) ∨
          ∃ n ∈ otherNames s t, e = ⟨n.1, n.2, .other⟩ := by
  simp only [declarationsAt, List.mem_append, List.mem_map, or_assoc, eq_comm (b := e)]

theorem mem_declarationsOf {e : Declaration} :
    e ∈ declarationsOf ts ↔ ∃ s t, (s, t) ∈ sitesOf ts ∧ e ∈ declarationsAt s t := by
  simp [declarationsOf, List.mem_flatMap]

/-- A declarator declares its names in one scope: for `var` the innermost function around it, else the innermost block. -/
theorem variable_mem_declared_iff (h : (s, t) ∈ sitesOf ts) {scope : List Nat} {name : String} :
    .variable s.address ∈ declared (declarationsOf ts) scope name ↔ scope = s.home ∧ name ∈ variableNames t := by
  rw [mem_declared, mem_declarationsOf]
  constructor
  · rintro ⟨s', t', h', hmem⟩
    rcases mem_declarationsAt.mp hmem with ⟨name', hname, heq⟩ | ⟨n, -, heq⟩ | ⟨n, -, heq⟩
    · obtain ⟨rfl, rfl, haddress⟩ := Declaration.mk.inj heq
      obtain ⟨rfl, rfl⟩ := site_unique h h' (Binding.variable.inj haddress)
      exact ⟨rfl, hname⟩
    · have hbinding := congrArg Declaration.binding heq
      dsimp only at hbinding
      split at hbinding <;> cases hbinding
    · cases congrArg Declaration.binding heq
  · rintro ⟨rfl, hname⟩
    exact ⟨s, t, h, mem_declarationsAt.mpr (.inl ⟨name, hname, rfl⟩)⟩

-- in a block `var` declares for the function, whose parameter is declared for the parentheses and for the body
example :
    (Document.ofChars? .plain "function f(a) \x7b \x7b var b; let c; \x7d \x7d".toList).map
      (fun d => declarationsOf d.trees) =
      some [⟨[], "f", .other⟩, ⟨[0, 2], "a", .other⟩, ⟨[0, 3], "a", .other⟩,
        ⟨[0, 3], "b", .variable [0, 3, 1, 1, 1]⟩, ⟨[0, 3, 1], "c", .variable [0, 3, 1, 2, 1]⟩] := by
  decide +kernel

theorem boundNamesOfAll_eq (ts : List Tree) : boundNamesOfAll ts = ts.flatMap boundNames := by
  induction ts with
  | nil => rfl
  | cons t ts ih => rw [boundNamesOfAll, ih, List.flatMap_cons]

theorem boundNamesOfPart_eq (role : Role) (ts : List Tree) :
    boundNamesOfPart role ts = ((inRole role ts).map boundNames).getD [] := by
  induction ts with
  | nil => rfl
  | cons t ts ih =>
    rw [boundNamesOfPart, inRole, List.find?_cons]
    cases t.role == role with
    | true => rfl
    | false => exact ih

/-- What a pattern binds, by its kind. -/
theorem boundNames_eq (t : Tree) :
    boundNames t =
      match t.kind with
      | .identifier => [t.word]
      | .shorthand => [t.word]
      | .objectPattern => t.children.flatMap boundNames
      | .pairPattern => ((t.part .value).map boundNames).getD []
      | .defaultedPattern => ((t.part .left).map boundNames).getD []
      | .defaultedProperty => ((t.part .left).map Tree.word).toList
      | .phrase => if begins "[" t || begins "..." t then t.children.flatMap boundNames else []
      | _ => [] := by
  cases t with
  | leaf r k before text => cases k <;> rfl
  | node r k cs =>
    cases k
    case objectPattern => exact boundNamesOfAll_eq cs
    case pairPattern => exact boundNamesOfPart_eq .value cs
    case defaultedPattern => exact boundNamesOfPart_eq .left cs
    case phrase =>
      rw [boundNames, boundNamesOfAll_eq]
      rfl
    all_goals rfl

theorem boundNames_of_identifier (h : t.kind = .identifier) : boundNames t = [t.word] := by rw [boundNames_eq, h]

/-- What a part of an object pattern is taken to bind is bound by it. -/
theorem mem_boundNames_of_binding {property name : String} (h : Outline.binding t = some (property, name)) :
    name ∈ boundNames t := by
  rw [boundNames_eq]
  unfold Outline.binding at h
  split at h
  · rename_i hkind
    rw [hkind]
    cases h
    exact List.mem_singleton_self _
  · rename_i hkind
    rw [hkind]
    obtain ⟨left, hleft, heq⟩ := Option.map_eq_some_iff.mp h
    cases heq
    simp [hleft]
  · rename_i hkind
    rw [hkind]
    split at h
    · rename_i key value hkey hvalue
      -- the value is a name, or a name with a default value
      obtain ⟨target, htarget, hmem⟩ : ∃ target,
          (if value.kind == .defaultedPattern then value.part .left else some value) = some target ∧
            (target.kind == .identifier) = true ∧ target.word = name := by
        dsimp only at h
        split at h
        · rename_i target htarget
          split at h
          · rename_i hidentifier
            cases h
            exact ⟨target, htarget, hidentifier, rfl⟩
          · cases h
        · cases h
      have htargetNames : boundNames target = [name] := by
        rw [boundNames_of_identifier (beq_iff_eq.mp hmem.1), hmem.2]
      have hnames : boundNames value = [name] := by
        split at htarget
        · rename_i hdefaulted
          rw [boundNames_eq, beq_iff_eq.mp hdefaulted]
          simp only [htarget, Option.map_some, Option.getD_some, htargetNames]
        · cases htarget
          exact htargetNames
      simp [hvalue, hnames]
    · cases h
  · cases h

/-- Exports tell of default exports. -/
theorem exists_defaultExport {landmark : Landmark} (h : landmark ∈ Outline.ofExport t) :
    ∃ name, landmark = .defaultExport name := by
  have htold {found : Option Tree} (hfound : landmark ∈ (found.map fun n => Landmark.defaultExport n.word).toList) :
      ∃ name, landmark = .defaultExport name := by
    obtain ⟨n, -, rfl⟩ := Option.map_eq_some_iff.mp (Option.mem_toList.mp hfound)
    exact ⟨n.word, rfl⟩
  rw [Outline.ofExport.eq_def] at h
  split at h
  · split at h
    · split at h
      · exact htold h
      · cases h
    · split at h
      · split at h
        · exact ⟨_, List.mem_singleton.mp h⟩
        · split at h
          · exact htold h
          · cases h
      · cases h
  · cases h

/-- Only declarators take properties of a call's result into variables: those that their patterns bind. -/
theorem destructuring_mem_ofConstruct {callee : String} {bindings : Entries String String}
    (h : .destructuring callee bindings ∈ Outline.ofConstruct t) :
    t.kind = .declarator ∧ ∃ pattern, t.part .name = some pattern ∧ pattern.kind = .objectPattern ∧
      bindings = Entries.ofList (pattern.children.filterMap Outline.binding) := by
  unfold Outline.ofConstruct at h
  split at h
  · simp at h
  · rename_i hkind
    refine ⟨hkind, ?_⟩
    unfold Outline.ofDeclarator at h
    split at h
    · rename_i pattern value hpattern hvalue
      split at h
      · simp at h
      · split at h
        · rename_i hobject
          rw [Bool.and_eq_true, beq_iff_eq] at hobject
          split at h
          · split at h
            · rw [List.mem_singleton, Landmark.destructuring.injEq] at h
              exact ⟨pattern, hpattern, hobject.1, h.2⟩
            · cases h
          · cases h
        · cases h
    · cases h
  · obtain ⟨exported, heq⟩ := exists_defaultExport h
    cases heq
  · simp [Outline.ofImport] at h
  · cases h

/-- A construct that takes the locale is a declarator of the variable. -/
theorem mem_variableNames_of_takesLocale {hook name : String} (h : takesLocale hook t = some name) :
    name ∈ variableNames t := by
  obtain ⟨landmark, hlandmark, htaken⟩ := List.exists_of_findSome?_eq_some h
  cases landmark with
  | destructuring callee bindings =>
    obtain ⟨hkind, pattern, hpattern, hobject, rfl⟩ := destructuring_mem_ofConstruct hlandmark
    have hget : (Entries.ofList (pattern.children.filterMap Outline.binding)).get? localeProperty = some name := by
      rw [Landmark.taken?] at htaken
      split at htaken
      · exact (Option.filter_eq_some_iff.mp htaken).1
      · cases htaken
    rw [Entries.get?_ofList] at hget
    obtain ⟨part, hpart, hbinding⟩ := List.mem_filterMap.mp (List.mem_reverse.mp (Entries.mem_of_get? hget))
    have hbound : name ∈ boundNames pattern := by
      rw [boundNames_eq, hobject]
      exact List.mem_flatMap.mpr ⟨part, hpart, mem_boundNames_of_binding hbinding⟩
    rw [variableNames, if_pos (beq_iff_eq.mpr hkind), List.mem_dedup, hpattern]
    exact hbound
  | function _ _ | bound _ _ | defaultExport _ | importing _ _ | markup _ => cases htaken

/-- What the scopes of a source declare is what they may have. -/
theorem areOfSource_declarationsOf (ts : List Tree) : AreOfSource (declarationsOf ts) where
  imported := by
    intro e he atRunTime hbinding
    obtain ⟨s, t, -, hmem⟩ := mem_declarationsOf.mp he
    rcases mem_declarationsAt.mp hmem with ⟨name, -, rfl⟩ | ⟨n, -, rfl⟩ | ⟨n, -, rfl⟩
    · cases hbinding
    · by_contra hinner
      dsimp only at hinner hbinding
      rw [if_neg hinner] at hbinding
      cases hbinding
    · cases hbinding
  not_inserted := by
    intro e he hbinding
    obtain ⟨s, t, -, hmem⟩ := mem_declarationsOf.mp he
    rcases mem_declarationsAt.mp hmem with ⟨name, -, rfl⟩ | ⟨n, -, rfl⟩ | ⟨n, -, rfl⟩
    · cases hbinding
    · dsimp only at hbinding
      split at hbinding <;> cases hbinding
    · cases hbinding

end Phrasebook.Source
