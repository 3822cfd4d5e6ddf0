import TypedScript.Parser.Statements
import TypedScript.Proofs.Confinement.Expressions
import TypedScript.Proofs.Reading.Statements

/-!
How far the rules for statements look. Main statement: where all braces are closed and the last
token is a semicolon, a statement is read without a look beyond the last token.
-/

namespace TypedScript

namespace Confined

open Parse

variable {nesting : Nesting} {depth : Nat} {α : Type}

theorem atStatementEnd : Confined (.within depth) (.within depth) atStatementEnd :=
  current.bind fun _ => pure _

theorem take_terminator {before : Cursor} {token : Token} (found : before.peek 0 = .ok token)
    (isSemicolon : token.kind = .punctuator .semicolon) :
    ConfinedAt before (.within 0) .over take :=
  .take_of_moves found (by simp [isSemicolon]) fun _ => .terminator isSemicolon

theorem statementEnd : Confined (.within 0) .over statementEnd := by
  intro before
  rw [Parse.statementEnd, Parse.accept, bind_assoc]
  apply ConfinedAt.atMark_bind
  intro token found
  split
  · next isSemicolon =>
      rw [bind_assoc]
      apply (take_terminator found (Token.isMark_iff.mp isSemicolon)).bind
      intro _ after _
      exact pure _ after
  · rw [pure_bind, if_neg Bool.false_ne_true]
    refine atStatementEnd.bind (fun ends => ?_) before
    split
    · exact (pure _).finish
    · exact unexpected

/-! Imports. -/

theorem moduleName : Confined (.within depth) (.within depth) moduleName :=
  (expectKind (by simp) fun _ _ isString => .plain (isString ▸ rfl)).bind fun _ => pure _

theorem specifiers : Confined (.within depth) (.within depth) specifiers := by
  have specifier : Confined (.within (depth + 1)) (.within (depth + 1)) specifier := by
    refine currentStart.bind fun start => identifierName.bind fun _ =>
      (acceptWord "as").bind fun found => ?_
    split
    · exact identifierName.bind fun _ => (spanFrom start).bind fun _ => pure _
    · exact (spanFrom start).bind fun _ => pure _
  exact openBrace.bind fun _ => (commaList .closeBrace specifier).bind fun _ =>
    closeBrace.bind fun _ => pure _

theorem importedNames (defaultBinding : Option Identifier) :
    Confined (.within depth) (.within depth) (importedNames defaultBinding) := by
  intro before
  apply ConfinedAt.current_bind
  intro token found
  split
  · exact specifiers.bind (fun _ => pure _) before
  · next isAsterisk =>
      apply ConfinedAt.take_bind (.one found (isAsterisk ▸ rfl))
      intro _ after _
      exact (expectWord "as").bind (fun _ => identifier.bind fun _ => pure _) after
  · exact identifierExpected before

theorem importBindings : Confined (.within depth) (.within depth) importBindings := by
  have importClause : Confined (.within depth) (.within depth) importClause := by
    refine current.bind fun token => ?_
    split
    · refine identifier.bind fun name => (accept rfl).bind fun found => ?_
      split
      · exact importedNames (some name)
      · exact pure _
    · exact importedNames none
  refine current.bind fun token => ?_
  split
  · exact pure _
  · exact importClause.bind fun _ => (expectWord "from").bind fun _ => pure _

theorem importDeclaration : Confined (.within 0) .over importDeclaration :=
  currentStart.bind fun start => (expectKeyword .importWord).bind fun _ =>
    importBindings.bind fun _ => moduleName.bind fun _ => statementEnd.bind fun _ =>
    (spanFrom start).bind fun _ => pure _

/-! Declarations. -/

theorem interfaceDeclaration (confined : nesting.Confined) :
    Confined (.within 0) .over (interfaceDeclaration nesting) := by
  have extendedTypes : Confined (.within 0) (.within 0) (extendedTypes nesting) := by
    refine (acceptWord "extends").bind fun found => ?_
    split
    · exact repeated ((typeReference confined).bind commaTurn)
    · exact pure _
  exact currentStart.bind fun start => (expectKeyword .interfaceWord).bind fun _ =>
    identifier.bind fun _ => (typeParameters confined).bind fun _ => extendedTypes.bind fun _ =>
    (typeMembers confined).finish.bind fun _ => (spanFrom start).bind fun _ => pure _

theorem typeAlias (confined : nesting.Confined) :
    Confined (.within 0) .over (typeAlias nesting) :=
  currentStart.bind fun start => (expectKeyword .typeWord).bind fun _ =>
    identifier.bind fun _ => (typeParameters confined).bind fun _ => (expect rfl).bind fun _ =>
    confined.type.bind fun _ => statementEnd.bind fun _ => (spanFrom start).bind fun _ => pure _

theorem functionDeclaration (confined : nesting.Confined) :
    Confined (.within 0) .over (functionDeclaration nesting) := by
  have bodyOrEnd : Confined (.within 0) .over bodyOrEnd := by
    refine (atMark .openBrace).bind fun found => ?_
    split
    · exact functionBody.map.finish
    · refine atStatementEnd.bind fun ends => ?_
      split
      · exact statementEnd.bind fun _ => pure _
      · exact unexpected
  exact currentStart.bind fun start => (expectKeyword .functionWord).bind fun _ =>
    identifier.bind fun _ => (typeParameters confined).bind fun _ =>
    (parameters confined true).bind fun _ => (declaredType? confined).bind fun _ =>
    bodyOrEnd.bind fun _ => (spanFrom start).bind fun _ => pure _

theorem variableDeclaration (confined : nesting.Confined) (kind : VariableKind) {before : Cursor}
    (plain : PlainAhead 1 before) :
    ConfinedAt before (.within 0) .over (variableDeclaration nesting kind) := by
  have variableValue? : Confined (.within 0) (.within 0) (variableValue? nesting kind) := by
    refine (accept rfl).bind fun found => ?_
    split
    · exact confined.expression.map
    · split
      · exact unexpected
      · exact pure _
  apply ConfinedAt.currentStart_bind
  intro start
  apply ConfinedAt.take_bind plain
  intro _ after _
  exact identifier.bind (fun _ => (declaredType? confined).bind fun _ =>
    variableValue?.bind fun _ => statementEnd.bind fun _ => (spanFrom start).bind fun _ => pure _)
    after

theorem declaration?_bind (confined : nesting.Confined) {next : Option Statement → Parse α}
    (present : ∀ statement, Confined .over .over (next (some statement)))
    (absent : Confined (.within 0) .over (next none)) :
    Confined (.within 0) .over (declaration? nesting >>= next) := by
  have some_bind {parser : Parse Statement} {before : Cursor}
      (declares : ConfinedAt before (.within 0) .over parser) :
      ConfinedAt before (.within 0) .over ((some <$> parser) >>= next) := by
    rw [map_eq_pure_bind, bind_assoc]
    apply declares.bind
    intro statement after _
    rw [pure_bind]
    exact present statement after
  intro before
  rw [Parse.declaration?, bind_assoc]
  apply ConfinedAt.current_bind
  intro token found
  split
  · exact some_bind (interfaceDeclaration confined before)
  · exact some_bind (typeAlias confined before)
  · exact some_bind (functionDeclaration confined before)
  · next isConst =>
      exact some_bind (variableDeclaration confined .constant (.one found (isConst ▸ rfl)))
  · next isName =>
      have plain := PlainAhead.one found (isName ▸ rfl)
      have atLet : ConfinedAt before (.within 0) (.within 0) atLet := by
        apply ConfinedAt.atWord_bind
        intro _ _
        split
        · apply ConfinedAt.kindAhead_bind plain
          intro _ _
          exact pure _ before
        · exact pure _ before
      rw [bind_assoc]
      apply atLet.bind
      intro isLet after looked
      rcases atLet_eq_ok looked with ⟨rfl, _⟩
      split
      · exact some_bind (variableDeclaration confined .mutable plain)
      · rw [pure_bind]
        exact absent before
  · rw [pure_bind]
    exact absent before

/-! Exports. -/

theorem exportedNames (start : Nat) : Confined (.within 0) .over (exportedNames start) :=
  specifiers.bind fun _ => (afterWord "from" moduleName).bind fun _ =>
    statementEnd.bind fun _ => (spanFrom start).bind fun _ => pure _

theorem exportDeclaration (confined : nesting.Confined) :
    Confined (.within 0) .over (exportDeclaration nesting) := by
  refine currentStart.bind fun start => (expectKeyword .exportWord).bind fun _ =>
    (atMark .openBrace).bind fun found => ?_
  split
  · exact exportedNames start
  · refine (acceptWord "default").bind fun isDefault => ?_
    split
    · exact confined.expression.bind fun _ => statementEnd.bind fun _ =>
        (spanFrom start).bind fun _ => pure _
    · exact declaration?_bind confined (fun _ => (spanFrom start).bind fun _ => pure _) unexpected

/-! Other statements. -/

theorem returnStatement (confined : nesting.Confined) :
    Confined (.within 0) .over (returnStatement nesting) := by
  have returned? : Confined (.within 0) (.within 0) (returned? nesting) := by
    refine atStatementEnd.bind fun ends => ?_
    split
    · exact pure _
    · exact confined.expression.map
  exact currentStart.bind fun start => (expectKeyword .returnWord).bind fun _ =>
    returned?.bind fun _ => statementEnd.bind fun _ => (spanFrom start).bind fun _ => pure _

theorem expressionStatement (confined : nesting.Confined) :
    Confined (.within 0) .over (expressionStatement nesting) := by
  refine current.bind fun token => ?_
  split
  · exact confined.expression.bind fun _ => statementEnd.bind fun _ =>
      (spanFrom token.start).bind fun _ => pure _
  · exact unexpected

theorem statement (confined : nesting.Confined) :
    Confined (.within 0) .over (statement nesting) := by
  intro before
  apply ConfinedAt.current_bind
  intro token found
  split
  · exact importDeclaration before
  · exact exportDeclaration confined before
  · exact returnStatement confined before
  · next isSemicolon =>
      apply ConfinedAt.currentStart_bind
      intro start
      apply (take_terminator found isSemicolon).bind
      intro _ after _
      exact (spanFrom start).bind (fun _ => pure _) after
  · refine declaration?_bind confined (fun _ => ?_) ?_ before
    · exact pure _
    · exact expressionStatement confined

end Confined

end TypedScript
