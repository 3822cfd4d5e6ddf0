import TypedScript.Parser.Functions

/-!
Types. In the order of how loosely they bind: unions, intersections, arrays, and the rest.

```text
type         := union
union        := ['|'] intersection ('|' intersection)*
intersection := ['&'] postfix ('&' postfix)*
postfix      := primary ('[' ']')*
primary      := name ['<' type (',' type)* '>'] | literal | primitive
              | '(' type ')' | function | '{' members '}' | '[' types ']'
```
-/

namespace TypedScript

namespace Parse

/-- Fails unless a type can begin here. -/
def requireTypeStart : Parse Unit := do
  if !(← current).kind.startsType then unexpected .type

def requiredType (nesting : Nesting) : Parse TypeExpr := do
  requireTypeStart
  nesting.type

def typeArguments (nesting : Nesting) : Parse (List TypeExpr) := do
  let _ ← expect .lessThan
  let arguments ← repeated (requiredType nesting >>= commaTurn)
  let _ ← expect .greaterThan
  return arguments

def typeArguments? (nesting : Nesting) : Parse (Option (List TypeExpr)) := do
  if ← atMark .lessThan then some <$> typeArguments nesting else return none

/-- The type arguments of an expression, if present. Angle brackets may also be comparisons: they
hold type arguments only if what follows is a call or cannot go on a comparison. A closing bracket
that touches an equals sign is the comparison of the two. -/
def typeArgumentsInExpression? (nesting : Nesting) : Parse (Option (List TypeExpr)) := do
  if ← atMark .lessThan then
    speculate nesting.rules.isFinal do
      let arguments ← typeArguments nesting
      let token ← current
      if token.isMark .equals && token.start == (← get).lastStop then
        return none
      else if token.isMark .openParen || token.kind.followsTypeArguments token.afterLineBreak then
        return some arguments
      else
        return none
  else
    return none

def namePart : Parse (Turn String) := do
  if ← atMark .dot then
    if (← kindAhead 1).isName then
      let _ ← take
      return .more (← take).text
    else
      return .stop
  else
    return .stop

/-- The range of a name: that of its first token until a part is added to it. -/
def nameSpan (start : Nat) (first : Token) (parts : List String) : Parse Span :=
  if parts.isEmpty then pure first.span else spanFrom start

def typeReference (nesting : Nesting) : Parse TypeExpr := do
  let start ← currentStart
  if (← current).kind = .identifier then
    let first ← take
    let parts ← repeated namePart
    let name : Identifier :=
      ⟨← nameSpan start first parts, String.intercalate "." (first.text :: parts)⟩
    let arguments ← typeArguments? nesting
    return .named (← spanFrom start) name arguments
  else
    typeExpected

def literalType : Parse TypeExpr := do
  let token ← take
  match literalOf? token with
  | some literal => return .literal (← spanFrom token.start) literal
  | none => typeExpected

/-- A type that begins with a name: a literal, a primitive, or a reference. A primitive before a dot
is the name of a space. -/
def nameType (nesting : Nesting) : Parse TypeExpr := do
  let token ← current
  if (literalOf? token).isSome then literalType
  else
    match Primitive.ofSpelling? token.text with
    | none => typeReference nesting
    | some primitive =>
        if (← kindAhead 1) = .punctuator .dot then typeReference nesting
        else
          let _ ← take
          return .primitive (← spanFrom token.start) primitive

/-- Whether the parenthesis that comes next opens the parameters of a function. -/
def atFunctionType : Parse Bool := do
  match ← kindAhead 1 with
  | .punctuator .closeParen | .punctuator .dotDotDot => return true
  | .identifier =>
      match ← kindAhead 2 with
      | .punctuator .colon | .punctuator .comma | .punctuator .question | .punctuator .equals =>
          return true
      | .punctuator .closeParen => return (← kindAhead 3) = .punctuator .arrow
      | _ => return false
  | _ => return false

def functionType (nesting : Nesting) : Parse TypeExpr := do
  let start ← currentStart
  let typeParameters ← typeParameters nesting
  let parameters ← parameters nesting false
  let _ ← expect .arrow
  let result ← nesting.type
  return .function (← spanFrom start) typeParameters parameters result

def parenthesizedType (nesting : Nesting) : Parse TypeExpr := do
  let start ← currentStart
  let _ ← expect .openParen
  let inner ← nesting.type
  let _ ← expect .closeParen
  return .parenthesized (← spanFrom start) inner

def tupleType (nesting : Nesting) : Parse TypeExpr := do
  let start ← currentStart
  let _ ← expect .openBracket
  let elements ← commaList .closeBracket (requiredType nesting)
  let _ ← expect .closeBracket
  return .tuple (← spanFrom start) elements

/-! Members of interfaces and of the types of objects. -/

def propertySignature (nesting : Nesting) (start : Nat) (name : Identifier) (optional : Bool) :
    Parse TypeMember := do
  let declaredType ← declaredType? nesting
  return .property (← spanFrom start) name optional declaredType

def methodSignature (nesting : Nesting) (start : Nat) (name : Identifier) (optional : Bool) :
    Parse TypeMember := do
  let typeParameters ← typeParameters nesting
  let parameters ← parameters nesting false
  let result ← declaredType? nesting
  return .method (← spanFrom start) name optional typeParameters parameters result

def typeMember (nesting : Nesting) : Parse TypeMember := do
  let start ← currentStart
  let name ← identifierName
  let optional ← accept .question
  match (← current).kind with
  | .punctuator .openParen | .punctuator .lessThan => methodSignature nesting start name optional
  | _ => propertySignature nesting start name optional

/-- What stands between two members: a semicolon, a comma or a line break. Before the closing brace
nothing needs to. -/
def memberSeparator : Parse Unit := do
  let token ← current
  match token.kind with
  | .punctuator .semicolon | .punctuator .comma =>
      let _ ← take
  | .punctuator .closeBrace => return ()
  | _ =>
      if !token.afterLineBreak then
        unexpected (.token (.punctuator .semicolon))

def memberTurn (nesting : Nesting) : Parse (Turn TypeMember) := do
  match (← current).kind with
  | .punctuator .closeBrace => return .stop
  | .endOfFile => unexpected (.token (.punctuator .closeBrace))
  | _ =>
      let member ← typeMember nesting
      memberSeparator
      return .more member

def typeMembers (nesting : Nesting) : Parse (List TypeMember) := do
  let _ ← expect .openBrace
  let members ← repeated (memberTurn nesting)
  let _ ← expect .closeBrace
  return members

def objectType (nesting : Nesting) : Parse TypeExpr := do
  let start ← currentStart
  let members ← typeMembers nesting
  return .object (← spanFrom start) members

/-! All types. -/

def primaryType (nesting : Nesting) : Parse TypeExpr := do
  match (← current).kind with
  | .identifier => nameType nesting
  | .stringLiteral | .numericLiteral => literalType
  | .punctuator .openParen =>
      if ← atFunctionType then functionType nesting else parenthesizedType nesting
  | .punctuator .lessThan => functionType nesting
  | .punctuator .openBrace => objectType nesting
  | .punctuator .openBracket => tupleType nesting
  | _ => typeExpected

/-- Any number of `[]` after a type. Each of them makes the type one level deeper, and none of them
stands on a new line. -/
def arraySuffixes (nesting : Nesting) (start : Nat) (element : TypeExpr) : Parse TypeExpr := do
  let token ← current
  if token.isMark .openBracket && !token.afterLineBreak then
    if (← kindAhead 1) = .punctuator .closeBracket then
      (← nesting.enter .type).arraySuffix start element
    else
      return element
  else
    return element

def arraySuffix (nesting : Nesting) (start : Nat) (element : TypeExpr) : Parse TypeExpr := do
  let _ ← take
  let _ ← take
  arraySuffixes nesting start (.array (← spanFrom start) element)

def postfixType (nesting : Nesting) : Parse TypeExpr := do
  let start ← currentStart
  let type ← primaryType nesting
  arraySuffixes nesting start type

def markTurn (mark : Punctuator) (item : Parse α) : Parse (Turn α) := do
  if ← accept mark then .more <$> item else return .stop

/-- Members with `mark` between them, and perhaps before the first. A single member is not
wrapped. -/
def listType (mark : Punctuator) (build : Span → List TypeExpr → TypeExpr)
    (member : Parse TypeExpr) : Parse TypeExpr := do
  let start ← currentStart
  let _ ← accept mark
  let first ← member
  if ← atMark mark then
    let others ← repeated (markTurn mark member)
    return build (← spanFrom start) (first :: others)
  else
    return first

def intersectionType (nesting : Nesting) : Parse TypeExpr :=
  listType .ampersand .intersection (postfixType nesting)

def unionType (nesting : Nesting) : Parse TypeExpr :=
  listType .bar .union (intersectionType nesting)

end Parse

end TypedScript
