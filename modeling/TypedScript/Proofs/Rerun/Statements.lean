import TypedScript.Parser.Entry
import TypedScript.Proofs.Rerun.Expressions

/-!
The rules for statements in both runs. A statement may end where the text does, so these are
compared only without a tail: both runs read the same text.
-/

namespace TypedScript

namespace Rerun

open Parse

variable {rerun : Rerun} {outer otherOuter : Nesting} {expected : List Punctuator} {α : Type}

/-! Without a tail both runs see the same token everywhere. -/

theorem current_alone (alone : rerun.tail = []) {next otherNext : Token → Parse α}
    (step : ∀ token, rerun.AlikeAt expected (next token) (otherNext token)) :
    rerun.AlikeAt expected (current >>= next) (current >>= otherNext) := by
  intro left right related
  have same := related.eq_of_alone alone
  exact current_inside (same ▸ rfl) fun token _ _ => step token related

theorem currentStart_alone (alone : rerun.tail = []) {next otherNext : Nat → Parse α}
    (step : ∀ start, rerun.AlikeAt expected (next start) (otherNext start)) :
    rerun.AlikeAt expected (currentStart >>= next) (currentStart >>= otherNext) := by
  rw [currentStart, bind_assoc, bind_assoc]
  apply current_alone alone
  intro token
  rw [pure_bind, pure_bind]
  exact step _

theorem take_alone (alone : rerun.tail = []) : rerun.AlikeAt expected take take := by
  intro left right related
  cases related.eq_of_alone alone
  cases seen : left.peek 0 with
  | ok token =>
      rw [take_eq seen]
      exact .ok rfl (.of_eq alone _)
  | error error =>
      simp only [take, current, Bind.bind, EStateM.bind, peek, seen]
      exact .stopped .lexical

theorem kindAhead_alone (alone : rerun.tail = []) (count : Nat) :
    rerun.AlikeAt expected (kindAhead count) (kindAhead count) := by
  intro left right related
  cases related.eq_of_alone alone
  simp only [kindAhead, Bind.bind, EStateM.bind, peek]
  cases left.peek count with
  | ok token => exact .ok rfl related
  | error error => exact .stopped .lexical

theorem atStatementEnd_alone (alone : rerun.tail = []) :
    rerun.AlikeAt expected atStatementEnd atStatementEnd :=
  current_alone alone fun _ => .pure _

theorem statementEnd_alone (alone : rerun.tail = []) :
    rerun.AlikeAt expected statementEnd statementEnd := by
  apply (accept_alike rfl expected).bind
  intro found
  apply AlikeAt.branch
  · exact .pure _
  · apply (atStatementEnd_alone alone).bind
    intro ends
    exact .branch (.pure _) (unexpected_alike _ expected)

theorem expectWord_alone (alone : rerun.tail = []) (word : String) :
    rerun.AlikeAt expected (expectWord word) (expectWord word) := by
  apply (atWord_alike word expected).bind
  intro found
  exact .branch (take_alone alone) (unexpected_alike _ expected)

/-! Imports. -/

theorem moduleName_alike : rerun.Alike moduleName moduleName := by
  intro expected
  have taken : rerun.Begins (expectKind .stringLiteral) (expectKind .stringLiteral) :=
    expectKind_begins rfl nofun
  exact (taken.alike expected).bind fun token => .pure _

theorem specifiers_alone (alone : rerun.tail = []) :
    rerun.AlikeAt expected specifiers specifiers := by
  have specifier : rerun.Alike specifier specifier := by
    intro expected
    apply currentStart_alone alone
    intro start
    apply (identifierName_begins.alike expected).bind
    intro first
    apply (acceptWord_alike _ expected).bind
    intro found
    apply AlikeAt.branch
    · apply (identifierName_begins.alike expected).bind
      intro name
      exact (spanFrom_alike start expected).bind fun span => .pure _
    · exact (spanFrom_alike start expected).bind fun span => .pure _
  exact (bracketed_begins rfl (fun _ => commaList_alike _ specifier) fun _ _ => .pure _).alike
    expected

theorem importedNames_alone (alone : rerun.tail = []) (binding : Option Identifier) :
    rerun.AlikeAt expected (importedNames binding) (importedNames binding) := by
  apply current_alone alone
  intro token
  split
  · exact (specifiers_alone alone).bind fun names => .pure _
  · apply (take_alone alone).bind
    intro _
    apply (expectWord_alone alone _).bind
    intro _
    exact (identifier_begins.alike expected).bind fun name => .pure _
  · exact identifierExpected_alike expected

theorem importBindings_alone (alone : rerun.tail = []) :
    rerun.AlikeAt expected importBindings importBindings := by
  have clauses : rerun.AlikeAt expected importClause importClause := by
    apply current_alone alone
    intro token
    apply AlikeAt.branch
    · apply (identifier_begins.alike expected).bind
      intro name
      apply (accept_alike rfl expected).bind
      intro found
      exact .branch (importedNames_alone alone _) (.pure _)
    · exact importedNames_alone alone none
  apply current_alone alone
  intro token
  apply AlikeAt.branch
  · exact .pure _
  · apply clauses.bind
    intro clause
    exact (expectWord_alone alone _).bind fun _ => .pure _

theorem importDeclaration_alone (alone : rerun.tail = []) :
    rerun.AlikeAt expected importDeclaration importDeclaration := by
  apply currentStart_alone alone
  intro start
  apply ((expectKeyword_begins _).alike expected).bind
  intro _
  apply (importBindings_alone alone).bind
  intro clause
  apply (moduleName_alike expected).bind
  intro source
  apply (statementEnd_alone alone).bind
  intro _
  exact (spanFrom_alike start expected).bind fun span => .pure _

/-! Declarations. -/

theorem extendedTypes_alike (nestings : rerun.Nestings outer otherOuter) :
    rerun.Alike (extendedTypes outer) (extendedTypes otherOuter) := by
  intro expected
  have turn : rerun.AlikeAt expected (typeReference outer >>= commaTurn)
      (typeReference otherOuter >>= commaTurn) :=
    ((typeReference_begins nestings).alike expected).bind fun type => commaTurn_alike type expected
  apply (acceptWord_alike _ expected).bind
  intro found
  exact .branch (repeated_alike turn) (.pure _)

theorem interfaceDeclaration_alone (nestings : rerun.Nestings outer otherOuter)
    (alone : rerun.tail = []) :
    rerun.AlikeAt expected (interfaceDeclaration outer) (interfaceDeclaration otherOuter) := by
  apply currentStart_alone alone
  intro start
  apply ((expectKeyword_begins _).alike expected).bind
  intro _
  apply (identifier_begins.alike expected).bind
  intro name
  apply (typeParameters_alike nestings expected).bind
  intro typeParameters
  apply (extendedTypes_alike nestings expected).bind
  intro extended
  apply ((typeMembers_begins nestings).alike expected).bind
  intro members
  exact (spanFrom_alike start expected).bind fun span => .pure _

theorem typeAlias_alone (nestings : rerun.Nestings outer otherOuter) (alone : rerun.tail = []) :
    rerun.AlikeAt expected (typeAlias outer) (typeAlias otherOuter) := by
  apply currentStart_alone alone
  intro start
  apply ((expectKeyword_begins _).alike expected).bind
  intro _
  apply (identifier_begins.alike expected).bind
  intro name
  apply (typeParameters_alike nestings expected).bind
  intro typeParameters
  apply ((expect_begins rfl).alike expected).bind
  intro _
  apply (nestings.type.alike expected).bind
  intro aliased
  apply (statementEnd_alone alone).bind
  intro _
  exact (spanFrom_alike start expected).bind fun span => .pure _

theorem functionDeclaration_alone (nestings : rerun.Nestings outer otherOuter)
    (alone : rerun.tail = []) :
    rerun.AlikeAt expected (functionDeclaration outer) (functionDeclaration otherOuter) := by
  have body : rerun.AlikeAt expected bodyOrEnd bodyOrEnd := by
    apply (atMark_alike (by decide) expected).bind
    intro found
    apply AlikeAt.branch
    · exact (functionBody_begins.alike expected).map _
    · apply (atStatementEnd_alone alone).bind
      intro ends
      apply AlikeAt.branch
      · exact (statementEnd_alone alone).bind fun _ => .pure _
      · exact unexpected_alike _ expected
  apply currentStart_alone alone
  intro start
  apply ((expectKeyword_begins _).alike expected).bind
  intro _
  apply (identifier_begins.alike expected).bind
  intro name
  apply (typeParameters_alike nestings expected).bind
  intro typeParameters
  apply ((parameters_begins nestings true).alike expected).bind
  intro parameters
  apply (declaredType?_alike nestings expected).bind
  intro result
  apply body.bind
  intro body
  exact (spanFrom_alike start expected).bind fun span => .pure _

theorem variableDeclaration_alone (nestings : rerun.Nestings outer otherOuter)
    (alone : rerun.tail = []) (kind : VariableKind) :
    rerun.AlikeAt expected (variableDeclaration outer kind)
      (variableDeclaration otherOuter kind) := by
  have value : rerun.AlikeAt expected (variableValue? outer kind)
      (variableValue? otherOuter kind) := by
    apply (accept_alike rfl expected).bind
    intro found
    apply AlikeAt.branch
    · exact (nestings.expression.alike expected).map _
    · cases kind with
      | constant => exact unexpected_alike _ expected
      | mutable => exact .pure _
  apply currentStart_alone alone
  intro start
  apply (take_alone alone).bind
  intro _
  apply (identifier_begins.alike expected).bind
  intro name
  apply (declaredType?_alike nestings expected).bind
  intro declaredType
  apply value.bind
  intro initializer
  apply (statementEnd_alone alone).bind
  intro _
  exact (spanFrom_alike start expected).bind fun span => .pure _

theorem declaration?_alone (nestings : rerun.Nestings outer otherOuter)
    (alone : rerun.tail = []) :
    rerun.AlikeAt expected (declaration? outer) (declaration? otherOuter) := by
  have lets : rerun.AlikeAt expected atLet atLet := by
    apply (atWord_alike _ expected).bind
    intro found
    exact .branch ((kindAhead_alone alone _).bind fun kind => .pure _) (.pure _)
  apply current_alone alone
  intro token
  split
  · exact (interfaceDeclaration_alone nestings alone).map _
  · exact (typeAlias_alone nestings alone).map _
  · exact (functionDeclaration_alone nestings alone).map _
  · exact (variableDeclaration_alone nestings alone .constant).map _
  · apply lets.bind
    intro declares
    exact .branch ((variableDeclaration_alone nestings alone .mutable).map _) (.pure _)
  · exact .pure _

/-! Exports. -/

theorem exportDeclaration_alone (nestings : rerun.Nestings outer otherOuter)
    (alone : rerun.tail = []) :
    rerun.AlikeAt expected (exportDeclaration outer) (exportDeclaration otherOuter) := by
  apply currentStart_alone alone
  intro start
  have names : rerun.AlikeAt expected (exportedNames start) (exportedNames start) := by
    apply (specifiers_alone alone).bind
    intro specifiers
    apply (afterWord_alike _ moduleName_alike expected).bind
    intro source
    apply (statementEnd_alone alone).bind
    intro _
    exact (spanFrom_alike start expected).bind fun span => .pure _
  apply ((expectKeyword_begins _).alike expected).bind
  intro _
  apply (atMark_alike (by decide) expected).bind
  intro named
  apply AlikeAt.branch names
  apply (acceptWord_alike _ expected).bind
  intro isDefault
  apply AlikeAt.branch
  · apply (nestings.expression.alike expected).bind
    intro value
    apply (statementEnd_alone alone).bind
    intro _
    exact (spanFrom_alike start expected).bind fun span => .pure _
  · apply (declaration?_alone nestings alone).bind
    rintro (_ | declaration)
    · exact unexpected_alike _ expected
    · exact (spanFrom_alike start expected).bind fun span => .pure _

/-! Other statements. -/

theorem returnStatement_alone (nestings : rerun.Nestings outer otherOuter)
    (alone : rerun.tail = []) :
    rerun.AlikeAt expected (returnStatement outer) (returnStatement otherOuter) := by
  have returned : rerun.AlikeAt expected (returned? outer) (returned? otherOuter) := by
    apply (atStatementEnd_alone alone).bind
    intro ends
    exact .branch (.pure _) ((nestings.expression.alike expected).map _)
  apply currentStart_alone alone
  intro start
  apply ((expectKeyword_begins _).alike expected).bind
  intro _
  apply returned.bind
  intro value
  apply (statementEnd_alone alone).bind
  intro _
  exact (spanFrom_alike start expected).bind fun span => .pure _

theorem expressionStatement_alone (nestings : rerun.Nestings outer otherOuter)
    (alone : rerun.tail = []) :
    rerun.AlikeAt expected (expressionStatement outer) (expressionStatement otherOuter) := by
  apply current_alone alone
  intro token
  apply AlikeAt.branch
  · apply (nestings.expression.alike expected).bind
    intro value
    apply (statementEnd_alone alone).bind
    intro _
    exact (spanFrom_alike token.start expected).bind fun span => .pure _
  · exact unexpected_alike _ expected

theorem statement_alone (nestings : rerun.Nestings outer otherOuter) (alone : rerun.tail = []) :
    rerun.AlikeAt expected (statement outer) (statement otherOuter) := by
  apply current_alone alone
  intro token
  split
  · exact importDeclaration_alone alone
  · exact exportDeclaration_alone nestings alone
  · exact returnStatement_alone nestings alone
  · apply currentStart_alone alone
    intro start
    apply (take_alone alone).bind
    intro _
    exact (spanFrom_alike start expected).bind fun span => .pure _
  · apply (declaration?_alone nestings alone).bind
    rintro (_ | declaration)
    · exact expressionStatement_alone nestings alone
    · exact .pure _

theorem statements_alone (nestings : rerun.Nestings outer otherOuter) (alone : rerun.tail = []) :
    rerun.AlikeAt expected (statements outer) (statements otherOuter) := by
  apply repeated_alike
  apply current_alone alone
  intro token
  exact .branch (.pure _) ((statement_alone nestings alone).map _)

theorem whole_alone {first second : Parse α} (item : rerun.AlikeAt expected first second)
    (alone : rerun.tail = []) :
    rerun.AlikeAt expected (do let value ← first; endOfInput; return value)
      (do let value ← second; endOfInput; return value) := by
  have ends : rerun.AlikeAt expected endOfInput endOfInput := by
    apply current_alone alone
    intro token
    apply AlikeAt.branch
    · intro left right related
      exact failAt_outcome related (fun _ => rfl) (fun _ => rfl)
    · exact .pure _
  apply item.bind
  intro value
  exact ends.bind fun _ => .pure _

end Rerun

end TypedScript
