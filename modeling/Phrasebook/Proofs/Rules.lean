import Phrasebook.Proofs.Leaves

/-!
# What the rules make

The rules are put together from readers that leave off before a lexeme and answer trees of one make, so they do this too.
Most are found to by the shape of their definition alone. Where a rule looks at what comes next, or at the trees that it goes
on from, it is looked at case by case; and where a kind of node is known to have certain parts, so are these.

Results:
1. `keeps_rules`: however deep the rules nest, they answer trees of this make.
2. `isWellRead_of_ofChars?`: so the trees of every source are.
-/

namespace Phrasebook.Source.Grammar

open Reader

section Rules

/-! ## 1. Types, patterns and markup -/

variable {g : Rules} [∀ goal, Keeps (g goal)]

instance (words : List String) : Keeps (modifier words) := by
  have hlast : Keeps (notAhead fun _ c => if c.rest.isEmpty then some ([], c) else none) := keeps_notAhead
  exact keeps_append

instance : Keeps (propertyName g) := by unfold propertyName; infer_instance
instance : Keeps (ascription g) := by unfold ascription; infer_instance
instance : Keeps dottedName := by unfold dottedName; infer_instance
instance : Keeps (typeArguments g) := by unfold typeArguments; infer_instance
instance : Keeps (typeParameter g) := by unfold typeParameter; infer_instance
instance : Keeps (typeParameters g) := by unfold typeParameters; infer_instance
instance : Keeps (resultType g) := by unfold resultType; infer_instance
instance : Keeps (callSignature g) := by unfold callSignature; infer_instance
instance : Keeps (functionType g) := by unfold functionType; infer_instance
instance : Keeps (tupleMember g) := by unfold tupleMember; infer_instance
instance : Keeps simpleType.typeQuery := by unfold simpleType.typeQuery; infer_instance
instance : Keeps (simpleType g) := by unfold simpleType; infer_instance
instance : Keeps (indexedType g) := by unfold indexedType; infer_instance
instance : Keeps (prefixedType g) := by unfold prefixedType; infer_instance
instance : Keeps (typeOperand g) := by unfold typeOperand; infer_instance
instance : Keeps unionSign := by unfold unionSign; infer_instance
instance : Keeps (unionType g) := by unfold unionType; infer_instance
instance : Keeps (type g) := by unfold type; infer_instance
instance : Keeps (indexMember g) := by unfold indexMember; infer_instance
instance (words : List String) : Keeps (optModifier words) := by unfold optModifier; infer_instance
instance : Keeps propertyModifiers := by unfold propertyModifiers; infer_instance
instance : Keeps methodModifiers := by unfold methodModifiers; infer_instance
instance : Keeps (typeMember g) := by unfold typeMember; infer_instance
instance : Keeps objectType.memberEnd := by unfold objectType.memberEnd; infer_instance
instance : Keeps (objectType.members g) := by unfold objectType.members; infer_instance
instance : Keeps (objectType g) := by unfold objectType; infer_instance

instance : Keeps equals := by unfold equals; infer_instance
instance : Keeps (initializer g) := by unfold initializer; infer_instance
instance : Keeps (patternWithDefault g) := by unfold patternWithDefault; infer_instance
instance : Keeps (restPattern g) := by unfold restPattern; infer_instance
instance : Keeps shorthand := ⟨fun _ _ _ _ hc h => (keeps_wordAmong _).keeps hc h⟩
instance : Keeps (propertyPattern g) := by unfold propertyPattern; infer_instance
instance : Keeps (objectPattern g) := by unfold objectPattern; infer_instance
instance : Keeps (arrayPattern g) := by unfold arrayPattern; infer_instance
instance : Keeps (destructuringPattern g) := by unfold destructuringPattern; infer_instance
instance : Keeps (assignableProperty g) := by unfold assignableProperty; infer_instance
instance : Keeps (pattern g) := by unfold pattern; infer_instance
instance : Keeps (decorator.argument g) := by unfold decorator.argument; infer_instance
instance : Keeps (decorator g) := by unfold decorator; infer_instance
instance : Keeps (parameter g) := by unfold parameter; infer_instance
instance : Keeps (parameters g) := by unfold parameters; infer_instance

instance : Keeps (embed g) := by unfold embed; infer_instance
instance : Keeps markupWord := by unfold markupWord; infer_instance
instance : Keeps tagName := by unfold tagName; infer_instance
instance : Keeps (tagAttribute g) := by unfold tagAttribute; infer_instance
instance : Keeps (tagFront g) := by unfold tagFront; infer_instance
instance : Keeps closingTag := by unfold closingTag; infer_instance

/-- Blanks that start with a line end are no text. -/
theorem isAsciiSpace_of_isText_eq_false {atLine : Bool} {cs : List Char} (h : Lexeme.isText atLine cs = false) :
    ∀ c ∈ cs, Lexeme.isAsciiSpace c = true := by
  induction cs generalizing atLine with
  | nil => exact fun _ hc => absurd hc List.not_mem_nil
  | cons c cs ih =>
    rw [Lexeme.isText] at h
    split at h
    · rename_i hline
      exact List.forall_mem_cons.mpr ⟨by rw [beq_iff_eq.mp hline]; decide, ih h⟩
    · split at h
      · rename_i hblank
        exact List.forall_mem_cons.mpr ⟨(Bool.and_eq_true_iff.mp hblank).2, ih h⟩
      · exact absurd h (by simp)

theorem isSpace_of_isAsciiSpace {c : Char} (h : Lexeme.isAsciiSpace c = true) : Lexeme.isSpace c = true := by
  simp only [Lexeme.isAsciiSpace, Lexeme.isSpace, Bool.or_eq_true] at h ⊢
  grind

instance : Keeps (child g) := by
  refine ⟨fun s c ts c' _ h => ?_⟩
  rw [child, Lexeme.spanChars_eq] at h
  dsimp only at h
  have hliteral : Lexeme.IsLiteralText (c.chars.takeWhile fun d => !Lexeme.breaksText d) := by
    refine .of_plain fun d hd => ?_
    have hplain := List.mem_takeWhile_imp hd
    exact ⟨fun heq => absurd hplain (by rw [heq]; decide), fun heq => absurd hplain (by rw [heq]; decide)⟩
  split at h
  · exact keeps_of_eq h ⟨.nil _, ⟨.nil _, by rwa [Tree.HoldsFor, List.nil_append]⟩, trivial⟩
  · rename_i hblank
    have hspace (d : Char) (hd : d ∈ c.chars.takeWhile fun d => !Lexeme.breaksText d) : Lexeme.isSpace d = true :=
      isSpace_of_isAsciiSpace (isAsciiSpace_of_isText_eq_false (Bool.not_eq_true _ ▸ hblank) d hd)
    split at h
    · exact keeps_of_eq h ⟨Cursor.isClean_ofChars _, ⟨.of_blanks hspace _, trivial⟩, trivial⟩
    · change orElse _ _ s _ = _ at h
      rw [orElse] at h
      split at h
      · have hmore : Keeps (firstOf [embed g, notAhead (sign "</") ++ g .element]) := inferInstance
        exact hmore.keeps (show Lexeme.IsTrivia _ _ from .of_blanks hspace _) h
      · rename_i hfirst
        rw [h] at hfirst
        obtain ⟨⟨text, rest⟩, hread, heq⟩ := Option.map_eq_some_iff.mp hfirst
        have htext := hliteral.append (Lexeme.isLiteralText_reference hread)
        exact keeps_of_eq (congrArg some heq) ⟨Cursor.isClean_ofChars rest, ⟨.of_blanks hspace _, htext⟩, trivial⟩

instance : Keeps (element g) := by
  have hnamed : Keeps (follow (tagFront g) fun front =>
      construct .selfClosing (given front ++ sign "/>") <|>
        construct .element (construct .opening (given front ++ sign ">") ++ many (child g) ++ closingTag)) := by
    refine keeps_follow fun front hfront => ?_
    have := keeps_given hfront
    infer_instance
  unfold element
  infer_instance

/-! ## 2. Operands and expressions -/

instance (generator : Bool) : Keeps (functionWord generator) := by
  unfold functionWord
  split <;> infer_instance

instance : Keeps (functionBody g) := by unfold functionBody; infer_instance
instance : Keeps (functionExpression.rest g) := by unfold functionExpression.rest; infer_instance
instance : Keeps (functionExpression g) := by unfold functionExpression; infer_instance
instance : Keeps (functionDeclaration g) := by unfold functionDeclaration; infer_instance

instance (annotated : Bool) : Keeps (arrowFunction.front g annotated) := by
  unfold arrowFunction.front
  split <;> infer_instance

instance (annotated : Bool) : Keeps (arrowFunction g annotated) := by unfold arrowFunction; infer_instance
instance : Keeps (heritage g) := by unfold heritage; infer_instance
instance : Keeps (classRule g) := by unfold classRule; infer_instance
instance : Keeps classMethodModifiers := by unfold classMethodModifiers; infer_instance
instance : Keeps classFieldModifiers.typed := by unfold classFieldModifiers.typed; infer_instance
instance : Keeps classFieldModifiers := by unfold classFieldModifiers; infer_instance
instance (afterExpression : Bool) : Keeps (memberStop afterExpression) := by unfold memberStop; infer_instance
instance : Keeps (classMember.method g) := by unfold classMember.method; infer_instance
instance : Keeps (classMember.field g) := by unfold classMember.field; infer_instance
instance : Keeps (classMember g) := by unfold classMember; infer_instance
instance : Keeps (classBody g) := by unfold classBody; infer_instance
instance : Keeps (item g) := by unfold item; infer_instance
instance : Keeps (arguments g) := by unfold arguments; infer_instance
instance : Keeps (objectMember g) := by unfold objectMember; infer_instance
instance : Keeps (objectLiteral g) := by unfold objectLiteral; infer_instance
instance : Keeps (arrayLiteral g) := by unfold arrayLiteral; infer_instance
instance : Keeps (patternAssignment g) := by unfold patternAssignment; infer_instance
instance : Keeps (parenthesized g) := by unfold parenthesized; infer_instance

instance : Keeps optionalStep.optionalSign := by unfold optionalStep.optionalSign; infer_instance
instance : Keeps (moduleWord g) := by unfold moduleWord; infer_instance
instance : Keeps stepSign := by unfold stepSign; infer_instance
instance : Keeps (yielding g) := by unfold yielding; infer_instance
instance : Keeps (usingAssignment g) := by unfold usingAssignment; infer_instance
instance : Keeps binaryOperator := by unfold binaryOperator; infer_instance
instance : Keeps (typeClaim g) := by unfold typeClaim; infer_instance

section

variable {t : Tree}

theorem keeps_given_one (ht : t.IsWellRead) : Keeps (given [t]) := keeps_given ⟨ht, trivial⟩

theorem keeps_optionalStep (ht : t.IsWellRead) : Keeps (optionalStep g t) := by
  have := keeps_given_one ht
  unfold optionalStep
  infer_instance

theorem keeps_propertyStep (ht : t.IsWellRead) : Keeps (propertyStep g t) := by
  have := keeps_given_one ht
  unfold propertyStep
  infer_instance

theorem keeps_callStep (ht : t.IsWellRead) : Keeps (callStep g t) := by
  have := keeps_given_one ht
  unfold callStep
  infer_instance

theorem keeps_instantiationStep (ht : t.IsWellRead) : Keeps (instantiationStep g t) := by
  have := keeps_given_one ht
  unfold instantiationStep
  infer_instance

theorem keeps_presenceStep (ht : t.IsWellRead) : Keeps (presenceStep t) := by
  have := keeps_given_one ht
  unfold presenceStep
  infer_instance

theorem keeps_operandStep (ht : t.IsWellRead) : Keeps (operandStep g t) := by
  have hproperty := keeps_propertyStep (g := g) ht
  have hcall := keeps_callStep (g := g) ht
  have hinstantiation := keeps_instantiationStep (g := g) ht
  have htyped : Keeps (typedOnly (callStep g t <|> instantiationStep g t)) := inferInstance
  refine ⟨fun s c ts c' hc h => ?_⟩
  rw [operandStep] at h
  split at h
  · exact hproperty.keeps hc h
  · exact hproperty.keeps hc h
  · exact (keeps_optionalStep ht).keeps hc h
  · exact hcall.keeps hc h
  · exact hcall.keeps hc h
  · exact htyped.keeps hc h
  · exact (keeps_presenceStep ht).keeps hc h
  · exact absurd h (by simp)

theorem keeps_constructor {p : Reader} [Keeps p] : Keeps (constructor g p) := by
  refine keeps_chain fun t ht => ⟨fun s c ts c' hc h => ?_⟩
  split at h
  · exact (keeps_propertyStep ht).keeps hc h
  · exact (keeps_propertyStep ht).keeps hc h
  · exact (keeps_presenceStep ht).keeps hc h
  · exact absurd h (by simp)

instance {p : Reader} [Keeps p] : Keeps (finished g p) := by
  refine keeps_follow fun ts hts => ?_
  have hgiven := keeps_given hts
  split
  · rename_i t
    have hassignment : Keeps (assignmentStep g t) := by
      rw [assignmentStep]
      split <;> infer_instance
    infer_instance
  · exact hgiven

end

instance (annotated : Bool) : Keeps (wordOperand g annotated) := by
  refine ⟨fun s c ts c' hc h => ?_⟩
  rw [wordOperand] at h
  split_ifs at h <;> exact Keeps.keeps hc h

instance (annotated : Bool) : Keeps (primary g annotated) := by
  refine ⟨fun s c ts c' hc h => ?_⟩
  rw [primary] at h
  split at h
  case h_12 =>
    split at h
    · exact Keeps.keeps hc h
    · exact Keeps.keeps hc h
  all_goals first | exact Keeps.keeps hc h | exact absurd h (by simp)

instance : Keeps (creation g) := by
  have := keeps_constructor (g := g) (p := grouped (primary g false))
  unfold creation
  infer_instance

instance (annotated : Bool) : Keeps (extendedOperand g annotated) := by
  have hchain := keeps_chain (p := grouped (primary g annotated)) fun t ht => keeps_operandStep (g := g) ht
  exact ⟨fun s c ts c' hc h => (inferInstance : Keeps (finished g _)).keeps hc h⟩

instance : Keeps (extendedCreation g) := by
  have hchain := keeps_chain (p := creation g) fun t ht => keeps_operandStep (g := g) ht
  exact ⟨fun s c ts c' hc h => (inferInstance : Keeps (finished g _)).keeps hc h⟩

instance (annotated : Bool) : Keeps (operand g annotated) := by
  rw [operand]
  refine @keeps_afterArrowComments _ ⟨fun s c ts c' hc h => ?_⟩
  split at h
  case h_9 =>
    dsimp only at h
    split_ifs at h <;> exact Keeps.keeps hc h
  all_goals first | exact Keeps.keeps hc h | exact absurd h (by simp)

instance (annotated : Bool) : Keeps (operands g annotated) := by unfold operands; infer_instance

instance : Keeps conditionSign := by
  unfold conditionSign
  refine @keeps_leaf _ _ ⟨fun cs text rest h => ?_⟩ ⟨rfl⟩
  split at h
  · exact absurd h (by simp)
  · split at h
    · obtain ⟨rfl, -⟩ := Prod.mk.inj (Option.some.inj h)
      exact fun _ hc => hc
    · exact absurd h (by simp)
  · obtain ⟨rfl, -⟩ := Prod.mk.inj (Option.some.inj h)
    exact fun _ hc => hc
  · exact absurd h (by simp)

instance : Keeps (outcomes g) := by
  refine ⟨fun s c ts c' hc h => ?_⟩
  rw [outcomes] at h
  dsimp only at h
  split at h
  · exact Keeps.keeps hc h
  · exact Keeps.keeps hc h

instance (annotated : Bool) : Keeps (expression g annotated) := by unfold expression; infer_instance
instance : Keeps (expressions g) := by unfold expressions; infer_instance

/-! ## 3. Statements -/

instance {p : Reader} [Keeps p] : Keeps (ended p) := by
  refine keeps_follow fun ts hts => ?_
  have := keeps_given hts
  infer_instance

instance : Keeps (declarator g) := by unfold declarator; infer_instance
instance : Keeps (declarators g) := by unfold declarators; infer_instance
instance : Keeps (variableDeclaration g) := by unfold variableDeclaration; infer_instance
instance : Keeps (functionSignature g) := by unfold functionSignature; infer_instance
instance : Keeps (typeAlias g) := by unfold typeAlias; infer_instance
instance : Keeps (interfaceDeclaration g) := by unfold interfaceDeclaration; infer_instance
instance : Keeps (enumeration g) := by unfold enumeration; infer_instance
instance : Keeps (classDeclaration g) := by unfold classDeclaration; infer_instance
instance : Keeps (namespaceDeclaration g) := by unfold namespaceDeclaration; infer_instance
instance : Keeps (ambientDeclaration g) := by unfold ambientDeclaration; infer_instance
instance : Keeps importAlias := by unfold importAlias; infer_instance

instance : Keeps (declaration g) := by
  refine ⟨fun s c ts c' hc h => ?_⟩
  rw [declaration] at h
  split at h
  case h_15 =>
    split at h
    · exact Keeps.keeps hc h
    · exact absurd h (by simp)
  all_goals exact Keeps.keeps hc h

instance : Keeps exportedName := by unfold exportedName; infer_instance

section

variable {p : Reader}

theorem yields_as {P : Tree → Prop} (h : ∀ t r, P t → P (t.withRole r)) (hp : Yields P p) (r : Role) :
    Yields P (as r p) := by
  intro s c ts c' hread
  obtain ⟨⟨us, _⟩, hus, heq⟩ := Option.map_eq_some_iff.mp hread
  exact Yields.of_eq (List.forall_mem_map.mpr fun t ht => h t r (hp hus t ht)) (congrArg some heq)

/-- A reader of leaves. -/
abbrev ReadsLeaves (p : Reader) : Prop := Yields (·.isLeaf = true) p

theorem readsLeaves_leaf (k : Kind) (split : Lexeme.Splitter) : ReadsLeaves (leaf k split) := .leaf (fun _ _ => rfl) split

theorem readsLeaves_wordAmong (k : Kind) (test : String → Bool) : ReadsLeaves (wordAmong k test) := readsLeaves_leaf _ _

theorem ReadsLeaves.as (hp : ReadsLeaves p) (r : Role) : ReadsLeaves (as r p) :=
  yields_as (fun t _ ht => by cases t <;> exact ht) hp r

theorem readsLeaves_declaredName : ReadsLeaves declaredName := by
  intro s c ts c' h
  rw [declaredName] at h
  split at h
  · exact readsLeaves_wordAmong _ _ h
  · exact readsLeaves_leaf _ Lexeme.name h

theorem readsLeaves_exportedName : ReadsLeaves exportedName :=
  readsLeaves_declaredName.orElse ((readsLeaves_wordAmong _ _).orElse ((readsLeaves_leaf _ _).orElse .refuse))

theorem readsLeaves_notAhead : ReadsLeaves (notAhead p) := by
  intro s c ts c' h
  rw [notAhead] at h
  split at h
  · exact Yields.of_eq (fun _ ht => absurd ht List.not_mem_nil) h
  · exact absurd h (by simp)

instance : Keeps importSpecifier.renamed := by unfold importSpecifier.renamed; infer_instance

/-- The parts of an entry of an import are leaves. -/
instance : Keeps importSpecifier := by
  have hkeeps : Keeps (firstOf [importSpecifier.renamed ++ importSpecifier.closes,
      typedOnly (wordAmong .token ["type", "typeof"].contains) ++ importSpecifier.renamed ++ importSpecifier.closes]) := by
    unfold importSpecifier.closes
    infer_instance
  have hword : ReadsLeaves (word "as") := readsLeaves_wordAmong _ _
  have hrenamed : ReadsLeaves importSpecifier.renamed :=
    (((readsLeaves_exportedName.as .name).append hword).append (readsLeaves_declaredName.as .alias)).orElse
      ((readsLeaves_notAhead.append (readsLeaves_declaredName.as .name)).orElse .refuse)
  have hentry : ReadsLeaves (importSpecifier.renamed ++ importSpecifier.closes) := hrenamed.append (.ahead _)
  have htyped : ReadsLeaves (typedOnly (wordAmong .token ["type", "typeof"].contains) ++ importSpecifier.renamed ++
      importSpecifier.closes) := ((readsLeaves_wordAmong _ _).typedOnly.append hrenamed).append (.ahead _)
  exact keeps_construct_of_parts fun s c ts c' h => hentry.orElse (htyped.orElse .refuse) h

end

instance : Keeps namedImports := by unfold namedImports; infer_instance
instance : Keeps namespaceImport := by unfold namespaceImport; infer_instance
instance : Keeps importClause := by unfold importClause; infer_instance
instance : Keeps fromClause := by unfold fromClause; infer_instance
instance : Keeps (importAttributes g) := by unfold importAttributes; infer_instance
instance : Keeps (importStatement g) := by unfold importStatement; infer_instance
instance : Keeps exportSpecifier.closes := by unfold exportSpecifier.closes; infer_instance
instance : Keeps exportSpecifier.renamed := by unfold exportSpecifier.renamed; infer_instance
instance : Keeps exportSpecifier := by unfold exportSpecifier; infer_instance
instance : Keeps exportClause := by unfold exportClause; infer_instance
instance : Keeps (defaultExport g) := by unfold defaultExport; infer_instance
instance : Keeps (exportStatement g) := by unfold exportStatement; infer_instance

instance : Keeps (statements g) := by unfold statements; infer_instance
instance : Keeps (block g) := by unfold block; infer_instance
instance : Keeps (ifStatement g) := by unfold ifStatement; infer_instance
instance : Keeps (eachHead.declared g) := by unfold eachHead.declared; infer_instance
instance : Keeps (eachHead g) := by unfold eachHead; infer_instance
instance : Keeps (countHead g) := by unfold countHead; infer_instance
instance : Keeps (forStatement g) := by unfold forStatement; infer_instance
instance : Keeps (switchCase g) := by unfold switchCase; infer_instance
instance : Keeps (switchStatement g) := by unfold switchStatement; infer_instance
instance : Keeps (tryStatement g) := by unfold tryStatement; infer_instance
instance (w : String) : Keeps (jump w) := by unfold jump; infer_instance
instance : Keeps (returnStatement g) := by unfold returnStatement; infer_instance
instance : Keeps (labelled g) := by unfold labelled; infer_instance

/-- The end of a statement is one leaf, of no width where there is no semicolon. -/
theorem exists_of_insertedSemicolon {afterExpression : Bool} {s : Setting} {c c' : Cursor} {ts : List Tree}
    (h : insertedSemicolon afterExpression s c = some (ts, c')) : ∃ before, ts = [.leaf .plain .token before []] := by
  have hattempt : ∀ (n : Nat) (passed before : List Char),
      insertedSemicolon.attempt afterExpression s c n passed before = some (ts, c') →
        ∃ before', ts = [.leaf .plain .token before' []] := by
    intro n
    induction n with
    | zero => exact fun _ _ h => absurd h (by simp [insertedSemicolon.attempt])
    | succ n ih =>
      intro passed before h
      rw [insertedSemicolon.attempt] at h
      split at h
      · exact ⟨passed, (Prod.mk.inj (Option.some.inj h)).1.symm⟩
      · split at h
        · exact ih _ _ h
        · exact absurd h (by simp)
  exact hattempt _ _ _ h

theorem exists_of_semicolon {afterExpression : Bool} {s : Setting} {c c' : Cursor} {ts : List Tree}
    (h : semicolon afterExpression s c = some (ts, c')) :
    ∃ stop : Tree, ts = [stop] ∧ stop.role = .plain ∧ stop.IsStop := by
  change orElse _ _ s c = _ at h
  rw [orElse] at h
  split at h
  · obtain ⟨⟨text, _⟩, hread, heq⟩ := Option.map_eq_some_iff.mp h
    obtain ⟨_, -, htext⟩ := Option.map_eq_some_iff.mp hread
    obtain ⟨rfl, -⟩ := Prod.mk.inj htext
    obtain ⟨rfl, -⟩ := Prod.mk.inj heq
    exact ⟨_, rfl, rfl, rfl, .inr rfl⟩
  · rename_i hfirst
    rw [h] at hfirst
    obtain ⟨before, rfl⟩ := exists_of_insertedSemicolon hfirst
    exact ⟨_, rfl, rfl, rfl, .inl rfl⟩

/-- A rule that answers one tree. -/
def IsSingle (p : Reader) : Prop := ∀ s c ts c', p s c = some (ts, c') → ∃ t, ts = [t]

theorem keeps_expressionStatement (hsingle : IsSingle (g .expressions)) : Keeps (expressionStatement g) := by
  refine keeps_construct_of_parts fun s c ts c' hread => ?_
  obtain ⟨values, ends, _, hvalues, hends, rfl⟩ := exists_of_append hread
  obtain ⟨⟨vs, _⟩, hvs, hrole⟩ := Option.map_eq_some_iff.mp hvalues
  obtain ⟨v, rfl⟩ := hsingle _ _ _ _ hvs
  obtain ⟨stop, rfl, hplain, hstop⟩ := exists_of_semicolon hends
  obtain ⟨rfl, -⟩ := Prod.mk.inj hrole
  refine ⟨v.withRole .value, stop, rfl, ?_, hplain, hstop⟩
  cases v <;> rfl

theorem keeps_statementOf (hsingle : IsSingle (g .expressions)) (w : String) : Keeps (statementOf g w) := by
  have := keeps_expressionStatement hsingle
  rw [statementOf.eq_def]
  split <;> first | infer_instance | skip
  split <;> infer_instance

theorem keeps_statement (hsingle : IsSingle (g .expressions)) : Keeps (statement g) := by
  have hexpression := keeps_expressionStatement hsingle
  refine ⟨fun s c ts c' hc h => ?_⟩
  rw [statement] at h
  split at h
  · exact absurd h (by simp)
  · exact Keeps.keeps hc h
  · exact Keeps.keeps hc h
  · exact Keeps.keeps hc h
  · split at h
    · exact Keeps.keeps hc h
    · exact (keeps_statementOf hsingle _).keeps hc h

/-! ## 4. Sources -/

theorem keeps_rule (hsingle : IsSingle (g .expressions)) (goal : Goal) : Keeps (rule goal g) := by
  have := keeps_statement hsingle
  cases goal <;> (rw [rule]; infer_instance)

/-- What is grouped is one tree. -/
theorem single_of_grouped {p : Reader} {s : Setting} {c c' : Cursor} {ts : List Tree}
    (h : grouped p s c = some (ts, c')) : ∃ t, ts = [t] := by
  obtain ⟨⟨us, _⟩, -, heq⟩ := Option.map_eq_some_iff.mp h
  dsimp only at heq
  split at heq
  · exact ⟨_, (Prod.mk.inj heq).1.symm⟩
  · exact ⟨_, (Prod.mk.inj heq).1.symm⟩

theorem isSingle_rules (n : Nat) : IsSingle (rules n .expressions) := by
  cases n with
  | zero => exact fun _ _ _ _ h => absurd h (by simp [rules, refuse])
  | succ n => exact fun _ _ _ _ h => single_of_grouped h

end Rules

/-- However deep the rules nest, what they answer is well read. -/
theorem keeps_rules (n : Nat) (goal : Goal) : Keeps (rules n goal) := by
  induction n generalizing goal with
  | zero => exact keeps_refuse
  | succ n ih => exact ⟨fun _ _ _ _ hc h => (keeps_rule (isSingle_rules n) goal).keeps hc h⟩

instance : Keeps hashbangLine := by
  refine @keeps_leaf_of_holds _ _ ⟨fun cs text rest h => ?_⟩ fun cs text rest _ h => ?_
  · split at h
    · intro c hc
      rwa [Lexeme.head?_of_ahead (Option.some.inj h)] at hc
    · exact absurd h (by simp)
  · split at h
    · rw [Lexeme.spanChars_eq] at h
      obtain ⟨rfl, -⟩ := Prod.mk.inj (Option.some.inj h)
      exact ⟨_, rfl, fun hmem => absurd (List.mem_takeWhile_imp hmem) (by decide)⟩
    · exact absurd h (by simp)

instance : Keeps sourceEnd := by
  refine ⟨fun s c ts c' hc h => ?_⟩
  rw [sourceEnd] at h
  split at h
  · exact keeps_of_eq h ⟨.nil _, ⟨hc.mono (by simp), trivial⟩, trivial⟩
  · exact absurd h (by simp)

theorem keeps_sourceRule (depth : Nat) : Keeps (sourceRule depth) := by
  have := keeps_rules depth
  unfold sourceRule
  infer_instance

end Grammar

/-- The trees of a source are well read. -/
theorem isWellRead_of_ofChars? {dialect : Dialect} {source : List Char} {d : Document}
    (h : Document.ofChars? dialect source = some d) : ∀ t ∈ d.trees, t.IsWellRead := by
  obtain ⟨-, depth, s, c, hread⟩ := exists_sourceRule_of_ofChars? h
  exact Tree.areWellRead_iff.mp ((Grammar.keeps_sourceRule depth).keeps (Cursor.isClean_ofChars source) hread).2

end Phrasebook.Source
