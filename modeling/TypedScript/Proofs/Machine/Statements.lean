import TypedScript.Proofs.Machine.Expressions

/-!
The productions for statements, beside the rules of the grammar. A parser with a state reads of a
text what the grammar reads of the recorded tokens, as it is stored; so do its calls for types and
expressions, and each of them ends on the level where it began.
-/

namespace TypedScript

def Parse.ImportClause.stored (clause : Parse.ImportClause) : Machine.ImportClause :=
  ⟨clause.defaultBinding.map Identifier.stored, clause.namespaceBinding.map Identifier.stored,
    clause.namedBindings.map (Specifier.stored .importSpecifier)⟩

namespace Machine

open Parse

variable {depth : Nat} {calls : Calls} {nesting : Nesting}

/-! Imports. -/

theorem moduleName_follows : Follows depth ModuleName.stored moduleName Parse.moduleName :=
  .of_lift _ fun _ => .pure rfl

theorem specifier_follows (kind : NodeKind) :
    Follows depth (Specifier.stored kind) (specifier kind) Parse.specifier := by
  refine .of_lift _ fun start => ?_
  apply identifierName_follows.bind
  intro first
  refine .of_lift _ fun renamed => .ite ?_ ?_
  · apply identifierName_follows.bind
    intro name
    apply (finish_follows _ start).bind
    intro span
    exact .pure rfl
  · apply (finish_follows _ start).bind
    intro span
    exact .pure rfl

theorem specifiers_follows (kind : NodeKind) :
    Follows depth (List.map (Specifier.stored kind)) (specifiers kind) Parse.specifiers := by
  refine .of_lift _ fun _ => ?_
  apply (commaList_follows _ (specifier_follows kind)).bind
  intro list
  exact .of_lift _ fun _ => .pure rfl

theorem importedNames_follows (defaultBinding : Option Identifier) :
    Follows depth ImportClause.stored (importedNames (defaultBinding.map Identifier.stored))
      (Parse.importedNames defaultBinding) := by
  refine .of_lift _ fun token => ?_
  cases token.kind with
  | punctuator mark =>
      cases mark with
      | openBrace =>
          apply (specifiers_follows .importSpecifier).bind
          intro list
          exact .pure rfl
      | asterisk =>
          refine .of_lift _ fun _ => .of_lift _ fun _ => ?_
          apply identifier_follows.bind
          intro name
          exact .pure rfl
      | _ => exact identifierExpected_follows
  | _ => exact identifierExpected_follows

theorem importClause_follows :
    Follows depth ImportClause.stored importClause Parse.importClause := by
  refine .of_lift _ fun token => .ite ?_ (importedNames_follows none)
  apply identifier_follows.bind
  intro name
  exact .of_lift _ fun comma => .ite (importedNames_follows (some name)) (.pure rfl)

theorem importBindings_follows :
    Follows depth ImportClause.stored importBindings Parse.importBindings := by
  refine .of_lift _ fun token => .ite (.pure rfl) ?_
  apply importClause_follows.bind
  intro clause
  exact .of_lift _ fun _ => .pure rfl

theorem importDeclaration_follows :
    Follows depth Statement.stored importDeclaration Parse.importDeclaration := by
  refine .of_lift _ fun start => .of_lift _ fun _ => ?_
  apply importBindings_follows.bind
  intro clause
  apply moduleName_follows.bind
  intro source
  refine .of_lift _ fun _ => ?_
  apply (finish_follows _ start).bind
  intro span
  exact .pure rfl

/-! Declarations. -/

theorem extendedTypes_follows (agree : calls.Agree depth nesting) :
    Follows depth (List.map TypeExpr.stored) (extendedTypes calls)
      (Parse.extendedTypes nesting) := by
  refine .of_lift _ fun extending => .ite ?_ (.pure rfl)
  exact repeated_follows ((typeReference_follows agree).bind commaTurn_follows)

theorem interfaceDeclaration_follows (agree : calls.Agree depth nesting) :
    Follows depth Statement.stored (interfaceDeclaration calls)
      (Parse.interfaceDeclaration nesting) := by
  refine .of_lift _ fun start => .of_lift _ fun _ => ?_
  apply identifier_follows.bind
  intro name
  apply (typeParameters_follows agree).bind
  intro typeParameters
  apply (extendedTypes_follows agree).bind
  intro extended
  apply (typeMembers_follows agree).bind
  intro members
  apply (finish_follows _ start).bind
  intro span
  exact .pure rfl

theorem typeAlias_follows (agree : calls.Agree depth nesting) :
    Follows depth Statement.stored (typeAlias calls) (Parse.typeAlias nesting) := by
  refine .of_lift _ fun start => .of_lift _ fun _ => ?_
  apply identifier_follows.bind
  intro name
  apply (typeParameters_follows agree).bind
  intro typeParameters
  refine .of_lift _ fun _ => ?_
  apply agree.type.bind
  intro aliased
  refine .of_lift _ fun _ => ?_
  apply (finish_follows _ start).bind
  intro span
  exact .pure rfl

theorem bodyOrEnd_follows :
    Follows depth (Option.map FunctionBody.stored) bodyOrEnd Parse.bodyOrEnd := by
  refine .of_lift _ fun opens => .ite (functionBody_follows.map fun _ => rfl) ?_
  refine .of_lift _ fun ends => .ite ?_ (unexpected_follows _)
  exact .of_lift _ fun _ => .pure rfl

theorem functionDeclaration_follows (agree : calls.Agree depth nesting) :
    Follows depth Statement.stored (functionDeclaration calls)
      (Parse.functionDeclaration nesting) := by
  refine .of_lift _ fun start => .of_lift _ fun _ => ?_
  apply identifier_follows.bind
  intro name
  apply (typeParameters_follows agree).bind
  intro typeParameters
  apply (parameters_follows agree true).bind
  intro parameters
  apply (declaredType?_follows agree).bind
  intro result
  apply bodyOrEnd_follows.bind
  intro body
  apply (finish_follows _ start).bind
  intro span
  exact .pure rfl

theorem variableValue?_follows (agree : calls.Agree depth nesting) (kind : VariableKind) :
    Follows depth (Option.map Expression.stored) (variableValue? calls kind)
      (Parse.variableValue? nesting kind) := by
  refine .of_lift _ fun equals => .ite (agree.expression.map fun _ => rfl) ?_
  cases kind with
  | constant => exact unexpected_follows _
  | mutable => exact .pure rfl

theorem variableDeclaration_follows (agree : calls.Agree depth nesting) (kind : VariableKind) :
    Follows depth Statement.stored (variableDeclaration calls kind)
      (Parse.variableDeclaration nesting kind) := by
  refine .of_lift _ fun start => .of_lift _ fun _ => ?_
  apply identifier_follows.bind
  intro name
  apply (declaredType?_follows agree).bind
  intro declaredType
  apply (variableValue?_follows agree kind).bind
  intro initializer
  refine .of_lift _ fun _ => ?_
  apply (finish_follows _ start).bind
  intro span
  exact .pure rfl

theorem declaration?_follows (agree : calls.Agree depth nesting) :
    Follows depth (Option.map Statement.stored) (declaration? calls)
      (Parse.declaration? nesting) := by
  refine .of_lift _ fun token => ?_
  cases token.kind with
  | keyword word =>
      cases word with
      | interfaceWord => exact (interfaceDeclaration_follows agree).map fun _ => rfl
      | typeWord => exact (typeAlias_follows agree).map fun _ => rfl
      | functionWord => exact (functionDeclaration_follows agree).map fun _ => rfl
      | constWord => exact (variableDeclaration_follows agree .constant).map fun _ => rfl
      | _ => exact .pure rfl
  | identifier =>
      refine .of_lift _ fun declares => .ite ?_ (.pure rfl)
      exact (variableDeclaration_follows agree .mutable).map fun _ => rfl
  | _ => exact .pure rfl

/-! Exports. -/

theorem exportedNames_follows (start : Nat) :
    Follows depth Statement.stored (exportedNames start) (Parse.exportedNames start) := by
  apply (specifiers_follows .exportSpecifier).bind
  intro list
  apply (afterWord_follows _ moduleName_follows).bind
  intro source
  refine .of_lift _ fun _ => ?_
  apply (finish_follows _ start).bind
  intro span
  exact .pure rfl

theorem exportDeclaration_follows (agree : calls.Agree depth nesting) :
    Follows depth Statement.stored (exportDeclaration calls)
      (Parse.exportDeclaration nesting) := by
  refine .of_lift _ fun start => .of_lift _ fun _ => .of_lift _ fun opens => ?_
  refine .ite (exportedNames_follows start) (.of_lift _ fun isDefault => .ite ?_ ?_)
  · apply agree.expression.bind
    intro value
    refine .of_lift _ fun _ => ?_
    apply (finish_follows _ start).bind
    intro span
    exact .pure rfl
  · apply (declaration?_follows agree).bind
    intro declaration
    cases declaration with
    | none => exact unexpected_follows _
    | some declaration =>
        apply (finish_follows _ start).bind
        intro span
        exact .pure rfl

/-! Other statements. -/

theorem returned?_follows (agree : calls.Agree depth nesting) :
    Follows depth (Option.map Expression.stored) (returned? calls) (Parse.returned? nesting) :=
  .of_lift _ fun _ => .ite (.pure rfl) (agree.expression.map fun _ => rfl)

theorem returnStatement_follows (agree : calls.Agree depth nesting) :
    Follows depth Statement.stored (returnStatement calls) (Parse.returnStatement nesting) := by
  refine .of_lift _ fun start => .of_lift _ fun _ => ?_
  apply (returned?_follows agree).bind
  intro value
  refine .of_lift _ fun _ => ?_
  apply (finish_follows _ start).bind
  intro span
  exact .pure rfl

theorem emptyStatement_follows :
    Follows depth Statement.stored emptyStatement Parse.emptyStatement := by
  refine .of_lift _ fun start => .of_lift _ fun _ => ?_
  apply (finish_follows _ start).bind
  intro span
  exact .pure rfl

theorem expressionStatement_follows (agree : calls.Agree depth nesting) :
    Follows depth Statement.stored (expressionStatement calls)
      (Parse.expressionStatement nesting) := by
  refine .of_lift _ fun token => .ite ?_ (unexpected_follows _)
  apply agree.expression.bind
  intro value
  refine .of_lift _ fun _ => ?_
  apply (finish_follows _ token.start).bind
  intro span
  exact .pure rfl

theorem bind_declaration?_follows (agree : calls.Agree depth nesting)
    {machine : Option Stored.Statement → Machine Stored.Statement}
    {parser : Option Statement → Parse Statement}
    (found : ∀ declaration, Follows depth Statement.stored (machine (some declaration.stored))
      (parser (some declaration)))
    (absent : Follows depth Statement.stored (machine none) (parser none)) :
    Follows depth Statement.stored (declaration? calls >>= machine)
      (Parse.declaration? nesting >>= parser) := by
  apply (declaration?_follows agree).bind
  intro declaration
  cases declaration with
  | none => exact absent
  | some declaration => exact found declaration

theorem statement_follows (agree : calls.Agree depth nesting) :
    Follows depth Statement.stored (statement calls) (Parse.statement nesting) := by
  refine .of_lift _ fun token => ?_
  have expression := expressionStatement_follows agree
  cases token.kind with
  | keyword word =>
      cases word with
      | importWord => exact importDeclaration_follows
      | exportWord => exact exportDeclaration_follows agree
      | returnWord => exact returnStatement_follows agree
      | _ => exact bind_declaration?_follows agree (fun _ => .pure rfl) expression
  | punctuator mark =>
      cases mark with
      | semicolon => exact emptyStatement_follows
      | _ => exact bind_declaration?_follows agree (fun _ => .pure rfl) expression
  | _ => exact bind_declaration?_follows agree (fun _ => .pure rfl) expression

theorem statements_follows (agree : calls.Agree depth nesting) :
    Follows depth (List.map Statement.stored) (statements calls) (Parse.statements nesting) := by
  apply repeated_follows
  refine .of_lift _ fun token => .ite (.pure rfl) ?_
  exact (statement_follows agree).map fun _ => rfl

/-! Whole texts, and calls. -/

theorem call_follows (agree : calls.Agree depth nesting) (kind : Fragment.Kind) :
    Follows depth Fragment.stored (call calls kind) (Fragment.parser nesting kind) := by
  cases kind with
  | type => exact agree.type.map fun _ => rfl
  | expression => exact agree.expression.map fun _ => rfl

def readRecorded {α : Type} (options : ParseOptions) (source : String)
    (parser : Nesting → Parse α) : EStateM.Result SyntaxError Cursor α :=
  parser (.outermost (.ofLimit options.nestingLimit))
    (.ofLexed (lexRecorded options.keywords source))

def result {α β : Type} (stored : α → β) :
    EStateM.Result SyntaxError Cursor α → Except SyntaxError β
  | .ok value _ => .ok (stored value)
  | .error error _ => .error error

theorem result_eq_ok {α β : Type} {stored : α → β} {read : EStateM.Result SyntaxError Cursor α}
    {value : β} : result stored read = .ok value ↔
      ∃ tree after, read = .ok tree after ∧ value = stored tree := by
  cases read with
  | ok tree after => simp [result, eq_comm]
  | error => simp [result]

/-- What the machine reads of a text is what the grammar reads of its recorded tokens, as it is
stored. -/
theorem run_eq {α β : Type} {stored : α → β} {machine : Calls → Machine β}
    {parser : Nesting → Parse α}
    (follows : ∀ {calls nesting}, calls.Agree 0 nesting →
      Follows 0 stored (machine calls) (parser nesting))
    (options : ParseOptions) (source : String) :
    run options source machine = result stored (readRecorded options source parser) := by
  have same := follows (Calls.outermost_agree options.nestingLimit)
    (.ofLexed (lexRecorded options.keywords source))
  unfold run start ParserState.ofLexed readRecorded
  rw [same]
  cases parser _ _ <;> rfl

theorem parseProgram_eq (options : ParseOptions) (source : String) :
    parseProgram options source =
      result (fun statements => (Program.mk ⟨0, low32 source.utf8ByteSize⟩ statements).stored)
        (readRecorded options source Parse.statements) := by
  rw [parseProgram, run_eq statements_follows]
  cases readRecorded options source Parse.statements <;> rfl

theorem parseType_eq (options : ParseOptions) (source : String) :
    parseType options source =
      result TypeExpr.stored (readRecorded options source fun nesting => do
        let type ← nesting.type
        endOfInput
        return type) := by
  refine run_eq (fun agree => ?_) options source
  apply agree.type.bind
  intro type
  exact .of_lift _ fun _ => .pure rfl

theorem parseExpression_eq (options : ParseOptions) (source : String) :
    parseExpression options source =
      result Expression.stored (readRecorded options source fun nesting => do
        let expression ← nesting.expression
        endOfInput
        return expression) := by
  refine run_eq (fun agree => ?_) options source
  apply agree.expression.bind
  intro expression
  exact .of_lift _ fun _ => .pure rfl

/-- One call answers what the grammar reads there, and gives back all levels that it has taken. -/
theorem answer_eq (options : ParseOptions) (cursor : Cursor) (kind : Fragment.Kind) :
    answer options ⟨cursor, 0⟩ kind =
      match Fragment.parser (.outermost (.ofLimit options.nestingLimit)) kind cursor with
      | .ok fragment after => (.ok fragment.stored, ⟨after, 0⟩)
      | .error error after => (.error error, ⟨after, 0⟩) := by
  have follows := call_follows (Calls.outermost_agree options.nestingLimit) kind cursor
  unfold answer
  rw [follows]
  cases Fragment.parser _ kind cursor <;> rfl

end Machine

end TypedScript
