import TypedScript.Parser.Expressions

/-!
Statements. A statement ends with a semicolon, or without one before a line break, a closing brace
or the end of the text.
-/

namespace TypedScript

namespace Parse

def atStatementEnd : Parse Bool := do
  let token ← current
  return token.isMark .semicolon || token.isMark .closeBrace || token.kind = .endOfFile ||
    token.afterLineBreak

def statementEnd : Parse Unit := do
  if ← accept .semicolon then return ()
  else if ← atStatementEnd then return ()
  else unexpected (.token (.punctuator .semicolon))

/-! Imports. -/

def moduleName : Parse ModuleName := do
  let token ← expectKind .stringLiteral
  return ⟨token.span, token.stringValue?.getD ""⟩

def specifier : Parse Specifier := do
  let start ← currentStart
  let first ← identifierName
  if ← acceptWord "as" then
    let name ← identifierName
    return ⟨← spanFrom start, some first, name⟩
  else
    return ⟨← spanFrom start, none, first⟩

def specifiers : Parse (List Specifier) := do
  let _ ← expect .openBrace
  let specifiers ← commaList .closeBrace specifier
  let _ ← expect .closeBrace
  return specifiers

structure ImportClause where
  defaultBinding : Option Identifier
  namespaceBinding : Option Identifier
  namedBindings : List Specifier

/-- The part of an import clause after the default binding: names in braces or a namespace. -/
def importedNames (defaultBinding : Option Identifier) : Parse ImportClause := do
  match (← current).kind with
  | .punctuator .openBrace => return ⟨defaultBinding, none, ← specifiers⟩
  | .punctuator .asterisk =>
      let _ ← take
      let _ ← expectWord "as"
      return ⟨defaultBinding, some (← identifier), []⟩
  | _ => identifierExpected

def importClause : Parse ImportClause := do
  if (← current).kind = .identifier then
    let name ← identifier
    if ← accept .comma then importedNames (some name) else return ⟨some name, none, []⟩
  else
    importedNames none

/-- What an import binds, up to `from`; nothing if the name of the module comes next. -/
def importBindings : Parse ImportClause := do
  if (← current).kind = .stringLiteral then return ⟨none, none, []⟩
  else
    let clause ← importClause
    let _ ← expectWord "from"
    return clause

def importDeclaration : Parse Statement := do
  let start ← currentStart
  let _ ← expectKeyword .importWord
  let clause ← importBindings
  let source ← moduleName
  statementEnd
  return .importing ⟨← spanFrom start, clause.defaultBinding, clause.namespaceBinding,
    clause.namedBindings, source⟩

/-! Declarations. -/

def extendedTypes (nesting : Nesting) : Parse (List TypeExpr) := do
  if ← acceptWord "extends" then repeated (typeReference nesting >>= commaTurn) else return []

def interfaceDeclaration (nesting : Nesting) : Parse Statement := do
  let start ← currentStart
  let _ ← expectKeyword .interfaceWord
  let name ← identifier
  let typeParameters ← typeParameters nesting
  let extended ← extendedTypes nesting
  let members ← typeMembers nesting
  return .interface ⟨← spanFrom start, name, typeParameters, extended, members⟩

def typeAlias (nesting : Nesting) : Parse Statement := do
  let start ← currentStart
  let _ ← expectKeyword .typeWord
  let name ← identifier
  let typeParameters ← typeParameters nesting
  let _ ← expect .equals
  let aliased ← nesting.type
  statementEnd
  return .typeAlias ⟨← spanFrom start, name, typeParameters, aliased⟩

def bodyOrEnd : Parse (Option FunctionBody) := do
  if ← atMark .openBrace then some <$> functionBody
  else if ← atStatementEnd then
    statementEnd
    return none
  else
    unexpected (.token (.punctuator .openBrace))

def functionDeclaration (nesting : Nesting) : Parse Statement := do
  let start ← currentStart
  let _ ← expectKeyword .functionWord
  let name ← identifier
  let typeParameters ← typeParameters nesting
  let parameters ← parameters nesting true
  let result ← declaredType? nesting
  let body ← bodyOrEnd
  return .function ⟨← spanFrom start, name, typeParameters, parameters, result, body⟩

def variableValue? (nesting : Nesting) (kind : VariableKind) : Parse (Option Expression) := do
  if ← accept .equals then some <$> nesting.expression
  else
    match kind with
    | .constant => unexpected (.token (.punctuator .equals))
    | .mutable => return none

def variableDeclaration (nesting : Nesting) (kind : VariableKind) : Parse Statement := do
  let start ← currentStart
  let _ ← take
  let name ← identifier
  let declaredType ← declaredType? nesting
  let initializer ← variableValue? nesting kind
  statementEnd
  return .binding ⟨← spanFrom start, kind, name, declaredType, initializer⟩

/-- Whether `let` comes next and declares something; otherwise it is a plain name. -/
def atLet : Parse Bool := do
  if ← atWord "let" then return (← kindAhead 1) = .identifier else return false

def declaration? (nesting : Nesting) : Parse (Option Statement) := do
  match (← current).kind with
  | .keyword .interfaceWord => some <$> interfaceDeclaration nesting
  | .keyword .typeWord => some <$> typeAlias nesting
  | .keyword .functionWord => some <$> functionDeclaration nesting
  | .keyword .constWord => some <$> variableDeclaration nesting .constant
  | .identifier =>
      if ← atLet then some <$> variableDeclaration nesting .mutable else return none
  | _ => return none

/-! Exports. -/

def exportedNames (start : Nat) : Parse Statement := do
  let specifiers ← specifiers
  let source ← afterWord "from" moduleName
  statementEnd
  return .exportingNames (← spanFrom start) specifiers source

def exportDeclaration (nesting : Nesting) : Parse Statement := do
  let start ← currentStart
  let _ ← expectKeyword .exportWord
  if ← atMark .openBrace then exportedNames start
  else if ← acceptWord "default" then
    let expression ← nesting.expression
    statementEnd
    return .exportingDefault (← spanFrom start) expression
  else
    match ← declaration? nesting with
    | some declaration => return .exporting (← spanFrom start) declaration
    | none => unexpected .declaration

/-! Other statements. -/

/-- What is returned, unless the statement ends here. -/
def returned? (nesting : Nesting) : Parse (Option Expression) := do
  if ← atStatementEnd then return none else some <$> nesting.expression

def returnStatement (nesting : Nesting) : Parse Statement := do
  let start ← currentStart
  let _ ← expectKeyword .returnWord
  let expression ← returned? nesting
  statementEnd
  return .returning (← spanFrom start) expression

def emptyStatement : Parse Statement := do
  let start ← currentStart
  let _ ← take
  return .empty (← spanFrom start)

def expressionStatement (nesting : Nesting) : Parse Statement := do
  let token ← current
  if token.kind.startsExpression then
    let expression ← nesting.expression
    statementEnd
    return .expression (← spanFrom token.start) expression
  else
    unexpected .declaration

def statement (nesting : Nesting) : Parse Statement := do
  match (← current).kind with
  | .keyword .importWord => importDeclaration
  | .keyword .exportWord => exportDeclaration nesting
  | .keyword .returnWord => returnStatement nesting
  | .punctuator .semicolon => emptyStatement
  | _ =>
      match ← declaration? nesting with
      | some declaration => return declaration
      | none => expressionStatement nesting

def statementTurn (nesting : Nesting) : Parse (Turn Statement) := do
  if (← current).kind = .endOfFile then return .stop else .more <$> statement nesting

def statements (nesting : Nesting) : Parse (List Statement) :=
  repeated (statementTurn nesting)

end Parse

end TypedScript
