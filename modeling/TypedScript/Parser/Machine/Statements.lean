import TypedScript.Options
import TypedScript.Parser.Machine.Expressions
import TypedScript.Parser.Entry

/-!
Statements, read by a parser with a state, and whole texts. Offsets are taken as they are recorded,
and so are tokens.
-/

namespace TypedScript

inductive Stored.Fragment where
  | type (type : Stored.TypeExpr)
  | expression (expression : Stored.Expression)

def Fragment.stored : Fragment → Stored.Fragment
  | .type value => .type value.stored
  | .expression value => .expression value.stored

namespace Machine

open Parse

/-! Imports. -/

def moduleName : Machine Stored.ModuleName := do
  return moduleNameFromToken (← expectKind .stringLiteral)

def specifier (kind : NodeKind) : Machine Stored.Specifier := do
  let start ← currentStart
  let first ← identifierName
  if ← acceptWord "as" then
    let name ← identifierName
    return ⟨← finish (.node kind) start, some first, name⟩
  else
    return ⟨← finish (.node kind) start, none, first⟩

def specifiers (kind : NodeKind) : Machine (List Stored.Specifier) := do
  let _ ← expect .openBrace
  let specifiers ← commaList .closeBrace (specifier kind)
  let _ ← expect .closeBrace
  return specifiers

structure ImportClause where
  defaultBinding : Option Stored.Identifier
  namespaceBinding : Option Stored.Identifier
  namedBindings : List Stored.Specifier

def importedNames (defaultBinding : Option Stored.Identifier) : Machine ImportClause := do
  match (← current).kind with
  | .punctuator .openBrace => return ⟨defaultBinding, none, ← specifiers .importSpecifier⟩
  | .punctuator .asterisk =>
      let _ ← take
      let _ ← expectWord "as"
      return ⟨defaultBinding, some (← identifier), []⟩
  | _ => identifierExpected

def importClause : Machine ImportClause := do
  if (← current).kind = .identifier then
    let name ← identifier
    if ← accept .comma then importedNames (some name) else return ⟨some name, none, []⟩
  else
    importedNames none

/-- What an import binds, up to `from`; nothing if the name of the module comes next. -/
def importBindings : Machine ImportClause := do
  if (← current).kind = .stringLiteral then return ⟨none, none, []⟩
  else
    let clause ← importClause
    let _ ← expectWord "from"
    return clause

def importDeclaration : Machine Stored.Statement := do
  let start ← currentStart
  let _ ← expectKeyword .importWord
  let clause ← importBindings
  let source ← moduleName
  statementEnd
  return .importing ⟨← finish (.node .importDeclaration) start, clause.defaultBinding,
    clause.namespaceBinding, clause.namedBindings, source⟩

/-! Declarations. -/

def extendedTypes (calls : Calls) : Machine (List Stored.TypeExpr) := do
  if ← acceptWord "extends" then repeated (typeReference calls >>= commaTurn) else return []

def interfaceDeclaration (calls : Calls) : Machine Stored.Statement := do
  let start ← currentStart
  let _ ← expectKeyword .interfaceWord
  let name ← identifier
  let typeParameters ← typeParameters calls
  let extended ← extendedTypes calls
  let members ← typeMembers calls
  return .interface ⟨← finish (.node .interfaceDeclaration) start, name, typeParameters, extended,
    members⟩

def typeAlias (calls : Calls) : Machine Stored.Statement := do
  let start ← currentStart
  let _ ← expectKeyword .typeWord
  let name ← identifier
  let typeParameters ← typeParameters calls
  let _ ← expect .equals
  let aliased ← calls.nestedType
  statementEnd
  return .typeAlias ⟨← finish (.node .typeAliasDeclaration) start, name, typeParameters, aliased⟩

def bodyOrEnd : Machine (Option Stored.FunctionBody) := do
  if ← atMark .openBrace then some <$> functionBody
  else if ← atStatementEnd then
    statementEnd
    return none
  else
    unexpected (.token (.punctuator .openBrace))

def functionDeclaration (calls : Calls) : Machine Stored.Statement := do
  let start ← currentStart
  let _ ← expectKeyword .functionWord
  let name ← identifier
  let typeParameters ← typeParameters calls
  let parameters ← parameters calls true
  let result ← declaredType? calls
  let body ← bodyOrEnd
  return .function ⟨← finish (.node .functionDeclaration) start, name, typeParameters, parameters,
    result, body⟩

def variableValue? (calls : Calls) (kind : VariableKind) :
    Machine (Option Stored.Expression) := do
  if ← accept .equals then some <$> calls.nestedExpression
  else
    match kind with
    | .constant => unexpected (.token (.punctuator .equals))
    | .mutable => return none

def variableDeclaration (calls : Calls) (kind : VariableKind) : Machine Stored.Statement := do
  let start ← currentStart
  let _ ← take
  let name ← identifier
  let declaredType ← declaredType? calls
  let initializer ← variableValue? calls kind
  statementEnd
  return .binding ⟨← finish (.node .variableDeclaration) start, kind, name, declaredType,
    initializer⟩

def declaration? (calls : Calls) : Machine (Option Stored.Statement) := do
  match (← current).kind with
  | .keyword .interfaceWord => some <$> interfaceDeclaration calls
  | .keyword .typeWord => some <$> typeAlias calls
  | .keyword .functionWord => some <$> functionDeclaration calls
  | .keyword .constWord => some <$> variableDeclaration calls .constant
  | .identifier =>
      if ← atLet then some <$> variableDeclaration calls .mutable else return none
  | _ => return none

/-! Exports. -/

def exportedNames (start : Nat) : Machine Stored.Statement := do
  let specifiers ← specifiers .exportSpecifier
  let source ← afterWord "from" moduleName
  statementEnd
  return .exportingNames (← finish (.node .exportDeclaration) start) specifiers source

def exportDeclaration (calls : Calls) : Machine Stored.Statement := do
  let start ← currentStart
  let _ ← expectKeyword .exportWord
  if ← atMark .openBrace then exportedNames start
  else if ← acceptWord "default" then
    let expression ← calls.nestedExpression
    statementEnd
    return .exportingDefault (← finish (.node .exportDeclaration) start) expression
  else
    match ← declaration? calls with
    | some declaration =>
        return .exporting (← finish (.node .exportDeclaration) start) declaration
    | none => unexpected .declaration

/-! Other statements. -/

def returned? (calls : Calls) : Machine (Option Stored.Expression) := do
  if ← atStatementEnd then return none else some <$> calls.nestedExpression

def returnStatement (calls : Calls) : Machine Stored.Statement := do
  let start ← currentStart
  let _ ← expectKeyword .returnWord
  let expression ← returned? calls
  statementEnd
  return .returning (← finish (.node .returnStatement) start) expression

def emptyStatement : Machine Stored.Statement := do
  let start ← currentStart
  let _ ← take
  return .empty (← finish (.node .emptyStatement) start)

def expressionStatement (calls : Calls) : Machine Stored.Statement := do
  let token ← current
  if token.kind.startsExpression then
    let expression ← calls.nestedExpression
    statementEnd
    return .expression (← finish (.node .expressionStatement) token.start) expression
  else
    unexpected .declaration

def statement (calls : Calls) : Machine Stored.Statement := do
  match (← current).kind with
  | .keyword .importWord => importDeclaration
  | .keyword .exportWord => exportDeclaration calls
  | .keyword .returnWord => returnStatement calls
  | .punctuator .semicolon => emptyStatement
  | _ =>
      match ← declaration? calls with
      | some declaration => return declaration
      | none => expressionStatement calls

def statementTurn (calls : Calls) : Machine (Turn Stored.Statement) := do
  if (← current).kind = .endOfFile then return .stop else .more <$> statement calls

def statements (calls : Calls) : Machine (List Stored.Statement) :=
  repeated (statementTurn calls)

/-! Whole texts. -/

def start (keywords : KeywordSet) (source : String) : ParserState :=
  .ofLexed (lexRecorded keywords source)

def run (options : ParseOptions) (source : String) (machine : Calls → Machine α) :
    Except SyntaxError α :=
  match machine (.outermost options.nestingLimit) (start options.keywords source) with
  | .ok value _ => .ok value
  | .error error _ => .error error

def parseProgram (options : ParseOptions) (source : String) :
    Except SyntaxError Stored.Program := do
  let statements ← run options source statements
  return ⟨⟨.node .program, 0, low32 source.utf8ByteSize⟩, statements⟩

def parseType (options : ParseOptions) (source : String) : Except SyntaxError Stored.TypeExpr :=
  run options source fun calls => do
    let type ← calls.nestedType
    endOfInput
    return type

def parseExpression (options : ParseOptions) (source : String) :
    Except SyntaxError Stored.Expression :=
  run options source fun calls => do
    let expression ← calls.nestedExpression
    endOfInput
    return expression

def call (calls : Calls) : Fragment.Kind → Machine Stored.Fragment
  | .type => .type <$> calls.nestedType
  | .expression => .expression <$> calls.nestedExpression

def answer (options : ParseOptions) (state : ParserState) (kind : Fragment.Kind) :
    Except SyntaxError Stored.Fragment × ParserState :=
  match call (.outermost options.nestingLimit) kind state with
  | .ok fragment after => (.ok fragment, after)
  | .error error after => (.error error, after)

/-- The state after calls one after another. Each of them begins where the one before stopped, also
if that one failed. -/
def after (options : ParseOptions) (state : ParserState) (kinds : List Fragment.Kind) :
    ParserState :=
  kinds.foldl (fun state kind => (answer options state kind).2) state

end Machine

end TypedScript
