import TypedScript.Proofs.History
import TypedScript.Proofs.Reading.Statements

/-!
Where a call of a grammar rule may stop. No call stops before the place where it began, whether it
fails or not, although some of them try one way to go on and come back to try another. A call that
yields a statement, a type, an expression, a member or a parameter stops after that place.
-/

namespace TypedScript

namespace Parse

/-- The grammar rules, as they are called at one depth. Rules that go on with something that has
been read already are given what that is and where it began. -/
inductive Production (nesting : Nesting) : {α : Type} → Parse α → Prop
  | identifier : Production nesting identifier
  | identifierName : Production nesting identifierName
  -- Functions.
  | declaredType : Production nesting (declaredType? nesting)
  | typeParameter : Production nesting (typeParameter nesting)
  | typeParameters : Production nesting (typeParameters nesting)
  | parameter (allowInitializer : Bool) : Production nesting (parameter nesting allowInitializer)
  | parameters (allowInitializers : Bool) :
      Production nesting (parameters nesting allowInitializers)
  | functionBody : Production nesting functionBody
  -- Types.
  | type : Production nesting nesting.type
  | requiredType : Production nesting (requiredType nesting)
  | typeArguments : Production nesting (typeArguments nesting)
  | typeArgumentsInType : Production nesting (typeArguments? nesting)
  | typeArgumentsInExpression : Production nesting (typeArgumentsInExpression? nesting)
  | typeReference : Production nesting (typeReference nesting)
  | literalType : Production nesting literalType
  | nameType : Production nesting (nameType nesting)
  | functionType : Production nesting (functionType nesting)
  | parenthesizedType : Production nesting (parenthesizedType nesting)
  | tupleType : Production nesting (tupleType nesting)
  | propertySignature (start : Nat) (name : Identifier) (optional : Bool) :
      Production nesting (propertySignature nesting start name optional)
  | methodSignature (start : Nat) (name : Identifier) (optional : Bool) :
      Production nesting (methodSignature nesting start name optional)
  | typeMember : Production nesting (typeMember nesting)
  | typeMembers : Production nesting (typeMembers nesting)
  | objectType : Production nesting (objectType nesting)
  | primaryType : Production nesting (primaryType nesting)
  | arraySuffixes (start : Nat) (element : TypeExpr) :
      Production nesting (arraySuffixes nesting start element)
  | postfixType : Production nesting (postfixType nesting)
  | intersectionType : Production nesting (intersectionType nesting)
  | unionType : Production nesting (unionType nesting)
  -- Expressions.
  | expression : Production nesting nesting.expression
  | arguments : Production nesting (arguments nesting)
  | argumentsOption : Production nesting (arguments? nesting)
  | propertyKey : Production nesting propertyKey
  | objectProperty : Production nesting (objectProperty nesting)
  | objectLiteral : Production nesting (objectLiteral nesting)
  | arrayLiteral : Production nesting (arrayLiteral nesting)
  | parenthesizedExpression : Production nesting (parenthesizedExpression nesting)
  | literalOrName : Production nesting literalOrName
  | primaryExpression : Production nesting (primaryExpression nesting)
  | suffixes (start : Nat) (allowCalls : Bool) (base : Expression) :
      Production nesting (suffixes nesting start allowCalls base)
  | newExpression : Production nesting (newExpression nesting)
  | leftHandSide : Production nesting (leftHandSide nesting)
  | unary : Production nesting (unary nesting)
  | operators (start minimum : Nat) (left : Expression) :
      Production nesting (operators nesting start minimum left)
  | binary (minimum : Nat) : Production nesting (binary nesting minimum)
  | conditional : Production nesting (conditional nesting)
  | arrowBody : Production nesting (arrowBody nesting)
  | simpleArrow : Production nesting (simpleArrow nesting)
  | parenthesizedArrow : Production nesting (parenthesizedArrow nesting)
  | arrow : Production nesting (arrow? nesting)
  | assignment : Production nesting (assignment nesting)
  -- Statements.
  | statementEnd : Production nesting statementEnd
  | moduleName : Production nesting moduleName
  | specifier : Production nesting specifier
  | specifiers : Production nesting specifiers
  | importClause : Production nesting importClause
  | importBindings : Production nesting importBindings
  | importDeclaration : Production nesting importDeclaration
  | extendedTypes : Production nesting (extendedTypes nesting)
  | interfaceDeclaration : Production nesting (interfaceDeclaration nesting)
  | typeAlias : Production nesting (typeAlias nesting)
  | bodyOrEnd : Production nesting bodyOrEnd
  | functionDeclaration : Production nesting (functionDeclaration nesting)
  | variableDeclaration (kind : VariableKind) :
      Production nesting (variableDeclaration nesting kind)
  | declaration : Production nesting (declaration? nesting)
  | exportedNames (start : Nat) : Production nesting (exportedNames start)
  | exportDeclaration : Production nesting (exportDeclaration nesting)
  | returnStatement : Production nesting (returnStatement nesting)
  | emptyStatement : Production nesting emptyStatement
  | expressionStatement : Production nesting (expressionStatement nesting)
  | statement : Production nesting (statement nesting)
  | statements : Production nesting (statements nesting)

/-- The grammar rules whose value stands for at least one token. -/
inductive Solid (nesting : Nesting) : {α : Type} → Parse α → Prop
  | statement : Solid nesting (statement nesting)
  | type : Solid nesting nesting.type
  | expression : Solid nesting nesting.expression
  | typeMember : Solid nesting (typeMember nesting)
  | parameter (allowInitializer : Bool) : Solid nesting (parameter nesting allowInitializer)

theorem Solid.takes {nesting : Nesting} {α : Type} {parser : Parse α} {before after : Cursor}
    {value : α} (solid : Solid nesting parser) (reading : nesting.Reading)
    (parsed : parser before = .ok value after) : after.ahead.length < before.ahead.length := by
  cases solid with
  | statement =>
      rcases statement_forms reading parsed with ⟨_, _, whole⟩
      exact whole.length_lt
  | type =>
      rcases reading.type parsed with ⟨_, _, piece⟩
      exact piece.length_lt piece.ne_nil
  | expression =>
      rcases reading.expression parsed with ⟨_, _, whole⟩
      exact whole.length_lt
  | typeMember =>
      rcases typeMember_forms reading parsed with ⟨_, _, whole⟩
      exact whole.length_lt
  | parameter allowInitializer =>
      rcases parameter_forms reading allowInitializer parsed with ⟨_, _, whole⟩
      exact whole.length_lt

open TwoRuns

theorem Production.reaches {lexed : Lexed} {limit room : Nat} {cursor : Cursor} {α : Type}
    {parser : Parse α} (production : Production (.ofRoom (.ofLimit limit) room) parser)
    (holds : lexed.Holds cursor) : cursor.Reaches (place (parser cursor)) := by
  rcases holds with ⟨count, _, rfl⟩
  have nestings : (beside lexed count limit).Nestings (.ofRoom (.ofLimit limit) room)
      (.ofRoom (.ofLimit limit) room) := nestings_ofRoom room
  have reaches {β : Type} {values : β → β → Prop} {parser : Parse β}
      (alike : (beside lexed count limit).Alike values parser parser) := reaches_of_alike alike
  cases production with
  | identifier => exact reaches identifier_alike
  | identifierName => exact reaches identifierName_alike
  | declaredType => exact reaches (declaredType?_alike nestings)
  | typeParameter => exact reaches (typeParameter_alike nestings)
  | typeParameters => exact reaches (typeParameters_alike nestings)
  | parameter allowInitializer =>
      exact reaches (parameter_alike nestings allowInitializer)
  | parameters allowInitializers =>
      exact reaches (parameters_alike nestings allowInitializers)
  | functionBody => exact reaches functionBody_alike
  | type => exact reaches nestings.type
  | requiredType => exact reaches (requiredType_alike nestings)
  | typeArguments => exact reaches (typeArguments_alike nestings)
  | typeArgumentsInType => exact reaches (typeArguments?_alike nestings)
  | typeArgumentsInExpression => exact reaches (typeArgumentsInExpression?_alike nestings)
  | typeReference => exact reaches (typeReference_alike nestings)
  | literalType => exact reaches literalType_alike
  | nameType => exact reaches (nameType_alike nestings)
  | functionType => exact reaches (functionType_alike nestings)
  | parenthesizedType => exact reaches (parenthesizedType_alike nestings)
  | tupleType => exact reaches (tupleType_alike nestings)
  | propertySignature start name optional =>
      exact reaches (propertySignature_alike nestings rfl rfl optional)
  | methodSignature start name optional =>
      exact reaches (methodSignature_alike nestings rfl rfl optional)
  | typeMember => exact reaches (typeMember_alike nestings)
  | typeMembers => exact reaches (typeMembers_alike nestings)
  | objectType => exact reaches (objectType_alike nestings)
  | primaryType => exact reaches (primaryType_alike nestings)
  | arraySuffixes start element => exact reaches (arraySuffixes_alike nestings rfl rfl)
  | postfixType => exact reaches (postfixType_alike nestings)
  | intersectionType => exact reaches (intersectionType_alike nestings)
  | unionType => exact reaches (unionType_alike nestings)
  | expression => exact reaches nestings.expression
  | arguments => exact reaches (arguments_alike nestings)
  | argumentsOption => exact reaches (arguments?_alike nestings)
  | propertyKey => exact reaches propertyKey_alike
  | objectProperty => exact reaches (objectProperty_alike nestings)
  | objectLiteral => exact reaches (objectLiteral_alike nestings)
  | arrayLiteral => exact reaches (arrayLiteral_alike nestings)
  | parenthesizedExpression => exact reaches (parenthesizedExpression_alike nestings)
  | literalOrName => exact reaches literalOrName_alike
  | primaryExpression => exact reaches (primaryExpression_alike nestings)
  | suffixes start allowCalls base =>
      exact reaches (suffixes_alike nestings rfl allowCalls rfl)
  | newExpression => exact reaches (newExpression_alike nestings)
  | leftHandSide => exact reaches (leftHandSide_alike nestings)
  | unary => exact reaches (unary_alike nestings)
  | operators start minimum left =>
      exact reaches (operators_alike nestings rfl minimum rfl)
  | binary minimum => exact reaches (binary_alike nestings minimum)
  | conditional => exact reaches (conditional_alike nestings)
  | arrowBody => exact reaches (arrowBody_alike nestings)
  | simpleArrow => exact reaches (simpleArrow_alike nestings)
  | parenthesizedArrow => exact reaches (parenthesizedArrow_alike nestings)
  | arrow => exact reaches (arrow?_alike nestings)
  | assignment => exact reaches (assignment_alike nestings)
  | statementEnd => exact reaches statementEnd_alike
  | moduleName => exact reaches moduleName_alike
  | specifier => exact reaches specifier_alike
  | specifiers => exact reaches specifiers_alike
  | importClause => exact reaches importClause_alike
  | importBindings => exact reaches importBindings_alike
  | importDeclaration => exact reaches importDeclaration_alike
  | extendedTypes => exact reaches (extendedTypes_alike nestings)
  | interfaceDeclaration => exact reaches (interfaceDeclaration_alike nestings)
  | typeAlias => exact reaches (typeAlias_alike nestings)
  | bodyOrEnd => exact reaches bodyOrEnd_alike
  | functionDeclaration => exact reaches (functionDeclaration_alike nestings)
  | variableDeclaration kind => exact reaches (variableDeclaration_alike nestings kind)
  | declaration => exact reaches (declaration?_alike nestings)
  | exportedNames start => exact reaches (exportedNames_alike rfl)
  | exportDeclaration => exact reaches (exportDeclaration_alike nestings)
  | returnStatement => exact reaches (returnStatement_alike nestings)
  | emptyStatement => exact reaches emptyStatement_alike
  | expressionStatement => exact reaches (expressionStatement_alike nestings)
  | statement => exact reaches (statement_alike nestings)
  | statements => exact reaches (statements_alike nestings)

end Parse

end TypedScript
