import TypedScript.Parser.Entry
import TypedScript.Proofs.TwoRuns.Expressions

/-!
The rules for statements, side by side, and what two runs over whole texts come to.
-/

namespace TypedScript

def Parse.ImportClause.relocate (move : Nat → Nat) (clause : Parse.ImportClause) :
    Parse.ImportClause :=
  ⟨clause.defaultBinding.map (Identifier.relocate move),
    clause.namespaceBinding.map (Identifier.relocate move),
    clause.namedBindings.map (Specifier.relocate move)⟩

namespace TwoRuns

open Parse

variable {runs : TwoRuns} {outer otherOuter : Nesting}

theorem atStatementEnd_alike : runs.Alike Eq atStatementEnd atStatementEnd := by
  apply current_alike.bind
  intro token other alike
  apply Alike.pure
  rw [alike.isMark, alike.isMark, alike.kind, alike.afterLineBreak]

theorem statementEnd_alike : runs.Alike Eq statementEnd statementEnd := by
  apply (accept_alike _).bindEq
  intro found
  apply Alike.branch
  · exact .pure rfl
  · apply atStatementEnd_alike.bindEq
    intro ends
    exact .branch (.pure rfl) (unexpected_alike _)

/-! Imports. -/

theorem moduleName_alike : runs.Alike (runs.Same ModuleName.relocate) moduleName moduleName := by
  apply (expectKind_alike _).bind
  intro token other alike
  apply Alike.pure
  simp only [Same, ModuleName.relocate, Same.span alike, alike.stringValue?]

theorem specifier_alike : runs.Alike (runs.Same Specifier.relocate) specifier specifier := by
  apply currentStart_alike.bind
  intro start otherStart starts
  apply identifierName_alike.bind
  intro first otherFirst firsts
  apply (acceptWord_alike _).bindEq
  intro found
  apply Alike.branch
  · apply identifierName_alike.bind
    intro name otherName names
    apply (spanFrom_alike starts).bind
    intro span otherSpan spans
    apply Alike.pure
    simp only [Same, Specifier.relocate, Option.map_some, spans, firsts, names]
  · apply (spanFrom_alike starts).bind
    intro span otherSpan spans
    apply Alike.pure
    simp only [Same, Specifier.relocate, Option.map_none, spans, firsts]

theorem specifiers_alike :
    runs.Alike (runs.Same (each Specifier.relocate)) specifiers specifiers := by
  apply (expect_alike _).bind
  intro _ _ _
  apply (commaList_alike _ specifier_alike).bind
  intro list otherList same
  apply (expect_alike _).bind
  intro _ _ _
  exact .pure same

theorem importedNames_alike {first second : Option Identifier}
    (same : runs.Same (perhaps Identifier.relocate) first second) :
    runs.Alike (runs.Same ImportClause.relocate) (importedNames first) (importedNames second) := by
  apply current_alike.bind
  intro token other alike
  rw [alike.kind]
  split
  · apply specifiers_alike.bind
    intro list otherList lists
    apply Alike.pure
    simp only [Same, ImportClause.relocate, same, lists, Option.map_none]
  · apply take_alike.bind
    intro _ _ _
    apply (expectWord_alike _).bind
    intro _ _ _
    apply identifier_alike.bind
    intro name otherName names
    apply Alike.pure
    simp only [Same, ImportClause.relocate, same, names, Option.map_some, List.map_nil]
  · exact identifierExpected_alike

theorem importClause_alike :
    runs.Alike (runs.Same ImportClause.relocate) importClause importClause := by
  apply current_alike.bind
  intro token other alike
  apply Alike.ite (by rw [alike.kind])
  · apply identifier_alike.bind
    intro name otherName names
    apply (accept_alike _).bindEq
    intro found
    apply Alike.branch
    · exact importedNames_alike (congrArg some names)
    · apply Alike.pure
      simp only [Same, ImportClause.relocate, Option.map_some, Option.map_none, List.map_nil, names]
  · exact importedNames_alike rfl

theorem importBindings_alike :
    runs.Alike (runs.Same ImportClause.relocate) importBindings importBindings := by
  apply current_alike.bind
  intro token other alike
  apply Alike.ite (by rw [alike.kind])
  · exact .pure rfl
  · apply importClause_alike.bind
    intro clause otherClause clauses
    apply (expectWord_alike _).bind
    intro _ _ _
    exact .pure clauses

theorem importDeclaration_alike :
    runs.Alike (runs.Same Statement.relocate) importDeclaration importDeclaration := by
  apply currentStart_alike.bind
  intro start otherStart starts
  apply (expectKeyword_alike _).bind
  intro _ _ _
  apply importBindings_alike.bind
  intro clause otherClause clauses
  apply moduleName_alike.bind
  intro source otherSource sources
  apply statementEnd_alike.bindEq
  intro _
  apply (spanFrom_alike starts).bind
  intro span otherSpan spans
  apply Alike.pure
  rcases ImportClause.mk.inj clauses with ⟨defaults, namespaces, named⟩
  simp only [Same, Statement.relocate, ImportDeclaration.relocate, spans, defaults, namespaces,
    named, sources]

/-! Declarations. -/

theorem extendedTypes_alike (nestings : runs.Nestings outer otherOuter) :
    runs.Alike (runs.Same (each TypeExpr.relocate)) (extendedTypes outer)
      (extendedTypes otherOuter) := by
  have turn : runs.Alike (Turns (runs.Same TypeExpr.relocate)) (typeReference outer >>= commaTurn)
      (typeReference otherOuter >>= commaTurn) :=
    (typeReference_alike nestings).bind fun _ _ => commaTurn_alike
  apply (acceptWord_alike _).bindEq
  intro found
  exact .branch (repeated_alike turn) (.pure rfl)

theorem interfaceDeclaration_alike (nestings : runs.Nestings outer otherOuter) :
    runs.Alike (runs.Same Statement.relocate) (interfaceDeclaration outer)
      (interfaceDeclaration otherOuter) := by
  apply currentStart_alike.bind
  intro start otherStart starts
  apply (expectKeyword_alike _).bind
  intro _ _ _
  apply identifier_alike.bind
  intro name otherName names
  apply (typeParameters_alike nestings).bind
  intro typeParameters otherTypeParameters sameTypeParameters
  apply (extendedTypes_alike nestings).bind
  intro extended otherExtended sameExtended
  apply (typeMembers_alike nestings).bind
  intro members otherMembers sameMembers
  apply (spanFrom_alike starts).bind
  intro span otherSpan spans
  apply Alike.pure
  simp only [Same, Statement.relocate, InterfaceDeclaration.relocate, spans, names,
    sameTypeParameters, sameExtended, sameMembers]

theorem typeAlias_alike (nestings : runs.Nestings outer otherOuter) :
    runs.Alike (runs.Same Statement.relocate) (typeAlias outer) (typeAlias otherOuter) := by
  apply currentStart_alike.bind
  intro start otherStart starts
  apply (expectKeyword_alike _).bind
  intro _ _ _
  apply identifier_alike.bind
  intro name otherName names
  apply (typeParameters_alike nestings).bind
  intro typeParameters otherTypeParameters sameTypeParameters
  apply (expect_alike _).bind
  intro _ _ _
  apply nestings.type.bind
  intro aliased otherAliased same
  apply statementEnd_alike.bindEq
  intro _
  apply (spanFrom_alike starts).bind
  intro span otherSpan spans
  apply Alike.pure
  simp only [Same, Statement.relocate, TypeAlias.relocate, spans, names, sameTypeParameters, same]

theorem bodyOrEnd_alike :
    runs.Alike (runs.Same (perhaps FunctionBody.relocate)) bodyOrEnd bodyOrEnd := by
  apply (atMark_alike _).bindEq
  intro found
  apply Alike.branch
  · exact functionBody_alike.present
  · apply atStatementEnd_alike.bindEq
    intro ends
    apply Alike.branch
    · apply statementEnd_alike.bindEq
      intro _
      exact .pure rfl
    · exact unexpected_alike _

theorem functionDeclaration_alike (nestings : runs.Nestings outer otherOuter) :
    runs.Alike (runs.Same Statement.relocate) (functionDeclaration outer)
      (functionDeclaration otherOuter) := by
  apply currentStart_alike.bind
  intro start otherStart starts
  apply (expectKeyword_alike _).bind
  intro _ _ _
  apply identifier_alike.bind
  intro name otherName names
  apply (typeParameters_alike nestings).bind
  intro typeParameters otherTypeParameters sameTypeParameters
  apply (parameters_alike nestings true).bind
  intro parameters otherParameters sameParameters
  apply (declaredType?_alike nestings).bind
  intro result otherResult results
  apply bodyOrEnd_alike.bind
  intro body otherBody bodies
  apply (spanFrom_alike starts).bind
  intro span otherSpan spans
  apply Alike.pure
  simp only [Same, Statement.relocate, FunctionDeclaration.relocate, spans, names,
    sameTypeParameters, sameParameters, results, bodies]

theorem variableValue?_alike (nestings : runs.Nestings outer otherOuter) (kind : VariableKind) :
    runs.Alike (runs.Same (perhaps Expression.relocate)) (variableValue? outer kind)
      (variableValue? otherOuter kind) := by
  apply (accept_alike _).bindEq
  intro found
  apply Alike.branch
  · exact nestings.expression.present
  · cases kind with
    | constant => exact unexpected_alike _
    | mutable => exact .pure rfl

theorem variableDeclaration_alike (nestings : runs.Nestings outer otherOuter)
    (kind : VariableKind) :
    runs.Alike (runs.Same Statement.relocate) (variableDeclaration outer kind)
      (variableDeclaration otherOuter kind) := by
  apply currentStart_alike.bind
  intro start otherStart starts
  apply take_alike.bind
  intro _ _ _
  apply identifier_alike.bind
  intro name otherName names
  apply (declaredType?_alike nestings).bind
  intro declaredType otherType types
  apply (variableValue?_alike nestings kind).bind
  intro value otherValue values
  apply statementEnd_alike.bindEq
  intro _
  apply (spanFrom_alike starts).bind
  intro span otherSpan spans
  apply Alike.pure
  simp only [Same, Statement.relocate, VariableDeclaration.relocate, spans, names, types, values]

theorem declaration?_alike (nestings : runs.Nestings outer otherOuter) :
    runs.Alike (runs.Same (perhaps Statement.relocate)) (declaration? outer)
      (declaration? otherOuter) := by
  have lets : runs.Alike Eq atLet atLet := by
    apply (atWord_alike _).bindEq
    intro found
    apply Alike.branch
    · apply (kindAhead_alike _).bindEq
      intro kind
      exact .pure rfl
    · exact .pure rfl
  apply current_alike.bind
  intro token other alike
  rw [alike.kind]
  split
  · exact (interfaceDeclaration_alike nestings).present
  · exact (typeAlias_alike nestings).present
  · exact (functionDeclaration_alike nestings).present
  · exact (variableDeclaration_alike nestings .constant).present
  · apply lets.bindEq
    intro declares
    apply Alike.branch
    · exact (variableDeclaration_alike nestings .mutable).present
    · exact .pure rfl
  · exact .pure rfl

/-! Exports. -/

theorem exportedNames_alike {start otherStart : Nat} (starts : runs.Offsets start otherStart) :
    runs.Alike (runs.Same Statement.relocate) (exportedNames start)
      (exportedNames otherStart) := by
  apply specifiers_alike.bind
  intro list otherList lists
  apply (afterWord_alike _ moduleName_alike).bind
  intro source otherSource sources
  apply statementEnd_alike.bindEq
  intro _
  apply (spanFrom_alike starts).bind
  intro span otherSpan spans
  apply Alike.pure
  simp only [Same, Statement.relocate, spans, lists, sources]

theorem exportDeclaration_alike (nestings : runs.Nestings outer otherOuter) :
    runs.Alike (runs.Same Statement.relocate) (exportDeclaration outer)
      (exportDeclaration otherOuter) := by
  apply currentStart_alike.bind
  intro start otherStart starts
  apply (expectKeyword_alike _).bind
  intro _ _ _
  apply (atMark_alike _).bindEq
  intro named
  apply Alike.branch
  · exact exportedNames_alike starts
  · apply (acceptWord_alike _).bindEq
    intro isDefault
    apply Alike.branch
    · apply nestings.expression.bind
      intro value otherValue values
      apply statementEnd_alike.bindEq
      intro _
      apply (spanFrom_alike starts).bind
      intro span otherSpan spans
      apply Alike.pure
      simp only [Same, Statement.relocate, spans, values]
    · apply (declaration?_alike nestings).bind
      intro found otherFound same
      rcases same.perhaps_cases with
        ⟨rfl, rfl⟩ | ⟨declaration, otherDeclaration, rfl, rfl, declarations⟩
      · exact unexpected_alike _
      · apply (spanFrom_alike starts).bind
        intro span otherSpan spans
        apply Alike.pure
        simp only [Same, Statement.relocate, spans, declarations]

/-! Other statements. -/

theorem returnStatement_alike (nestings : runs.Nestings outer otherOuter) :
    runs.Alike (runs.Same Statement.relocate) (returnStatement outer)
      (returnStatement otherOuter) := by
  have returned : runs.Alike (runs.Same (perhaps Expression.relocate)) (returned? outer)
      (returned? otherOuter) := by
    apply atStatementEnd_alike.bindEq
    intro ends
    apply Alike.branch
    · exact .pure rfl
    · exact nestings.expression.present
  apply currentStart_alike.bind
  intro start otherStart starts
  apply (expectKeyword_alike _).bind
  intro _ _ _
  apply returned.bind
  intro value otherValue values
  apply statementEnd_alike.bindEq
  intro _
  apply (spanFrom_alike starts).bind
  intro span otherSpan spans
  apply Alike.pure
  simp only [Same, Statement.relocate, spans, values]

theorem emptyStatement_alike :
    runs.Alike (runs.Same Statement.relocate) emptyStatement emptyStatement := by
  apply currentStart_alike.bind
  intro start otherStart starts
  apply take_alike.bind
  intro _ _ _
  apply (spanFrom_alike starts).bind
  intro span otherSpan spans
  apply Alike.pure
  simp only [Same, Statement.relocate, spans]

theorem expressionStatement_alike (nestings : runs.Nestings outer otherOuter) :
    runs.Alike (runs.Same Statement.relocate) (expressionStatement outer)
      (expressionStatement otherOuter) := by
  apply current_alike.bind
  intro token other alike
  apply Alike.ite (by rw [alike.kind])
  · apply nestings.expression.bind
    intro value otherValue values
    apply statementEnd_alike.bindEq
    intro _
    apply (spanFrom_alike alike.start).bind
    intro span otherSpan spans
    apply Alike.pure
    simp only [Same, Statement.relocate, spans, values]
  · exact unexpected_alike _

theorem statement_alike (nestings : runs.Nestings outer otherOuter) :
    runs.Alike (runs.Same Statement.relocate) (statement outer) (statement otherOuter) := by
  apply current_alike.bind
  intro token other alike
  rw [alike.kind]
  split
  · exact importDeclaration_alike
  · exact exportDeclaration_alike nestings
  · exact returnStatement_alike nestings
  · exact emptyStatement_alike
  · apply (declaration?_alike nestings).bind
    intro found otherFound same
    rcases same.perhaps_cases with
      ⟨rfl, rfl⟩ | ⟨declaration, otherDeclaration, rfl, rfl, declarations⟩
    · exact expressionStatement_alike nestings
    · exact .pure declarations

theorem statements_alike (nestings : runs.Nestings outer otherOuter) :
    runs.Alike (runs.Same (each Statement.relocate)) (statements outer)
      (statements otherOuter) := by
  apply repeated_alike
  apply current_alike.bind
  intro token other alike
  apply Alike.ite (by rw [alike.kind])
  · exact .pure .stop
  · exact (statement_alike nestings).map fun _ _ => .more

/-! Whole texts. -/

theorem endOfInput_alike : runs.Alike Eq endOfInput endOfInput := by
  intro left right related
  apply current_outcome related
  intro token other seen alike
  rw [← alike.kind]
  split
  · next more => exact failAt_seen related seen .unexpectedToken more _
  · exact .ok rfl related

theorem whole_alike {α β : Type} {view : (Nat → Nat) → α → β} {first second : Parse α}
    (item : runs.Alike (runs.Same view) first second) :
    runs.Alike (runs.Same view) (do let value ← first; endOfInput; return value)
      (do let value ← second; endOfInput; return value) := by
  apply item.bind
  intro value other same
  apply endOfInput_alike.bindEq
  intro _
  exact .pure same

theorem run_outcomes {α : Type} {values : α → α → Prop} {parser : Nesting → Parse α}
    (alike : ∀ outer otherOuter, runs.Nestings outer otherOuter →
      runs.Alike values (parser outer) (parser otherOuter))
    (options otherOptions : ParseOptions) (source otherSource : String)
    (left : runs.left = lex options.keywords source)
    (right : runs.right = lex otherOptions.keywords otherSource)
    (limit : runs.limit = options.nestingLimit)
    (otherLimit : runs.limit + runs.extra = otherOptions.nestingLimit)
    (beginning : runs.passed = 0) (otherBeginning : runs.otherPassed = 0) :
    (∃ value other, run options source parser = .ok value ∧
      run otherOptions otherSource parser = .ok other ∧ values value other) ∨
    (∃ error otherError, run options source parser = .error error ∧
      run otherOptions otherSource parser = .error otherError ∧ runs.Errors error otherError) ∨
    ∃ error, run options source parser = .error error ∧ runs.StopsEarly error := by
  have outcome := alike _ _ nestings_outermost runs.related_beginning
  simp only [TwoRuns.beginning, TwoRuns.otherBeginning, beginning, otherBeginning,
    Cursor.skip] at outcome
  simp only [run, ← left, ← right, ← limit, ← otherLimit]
  revert outcome
  generalize parser (.outermost (.ofLimit runs.limit)) (.ofLexed runs.left) = first
  generalize parser (.outermost (.ofLimit (runs.limit + runs.extra))) (.ofLexed runs.right) = second
  intro outcome
  cases outcome with
  | ok same => exact .inl ⟨_, _, rfl, rfl, same⟩
  | error errors => exact .inr (.inl ⟨_, _, rfl, rfl, errors⟩)
  | early stops => exact .inr (.inr ⟨_, rfl, stops⟩)

/-- What two runs over whole texts come to, if neither text breaks off. -/
theorem run_cases {α : Type} {values : α → α → Prop} {parser : Nesting → Parse α}
    (alike : ∀ outer otherOuter, runs.Nestings outer otherOuter →
      runs.Alike values (parser outer) (parser otherOuter))
    (options otherOptions : ParseOptions) (source otherSource : String)
    (left : runs.left = lex options.keywords source)
    (right : runs.right = lex otherOptions.keywords otherSource)
    (limit : runs.limit = options.nestingLimit)
    (otherLimit : runs.limit + runs.extra = otherOptions.nestingLimit)
    (beginning : runs.passed = 0 := by rfl) (otherBeginning : runs.otherPassed = 0 := by rfl)
    (whole : ¬runs.cut := by exact id) :
    (∃ value other, run options source parser = .ok value ∧
      run otherOptions otherSource parser = .ok other ∧ values value other) ∨
    (∃ error otherError, run options source parser = .error error ∧
      run otherOptions otherSource parser = .error otherError ∧ runs.Errors error otherError) ∨
    (0 < runs.extra ∧ ∃ expected found, run options source parser =
      .error (.grammar ⟨.nestingLimitExceeded runs.limit, expected, found⟩)) := by
  rcases run_outcomes alike options otherOptions source otherSource left right limit otherLimit
    beginning otherBeginning with read | failed | ⟨error, stopped, stops⟩
  · exact .inl read
  · exact .inr (.inl failed)
  · cases stops with
    | refused wider => exact .inr (.inr ⟨wider, _, _, stopped⟩)
    | brokenOff cut => exact absurd cut whole

end TwoRuns

end TypedScript
