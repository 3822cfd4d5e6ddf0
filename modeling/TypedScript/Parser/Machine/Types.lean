import TypedScript.Parser.Machine.Basic
import TypedScript.Parser.Types

/-!
Parameters, types and their members, read by a parser with a state.
-/

namespace TypedScript.Machine

open Parse

/-! Parameters. -/

def declaredType? (calls : Calls) : Machine (Option Stored.TypeExpr) :=
  afterMark .colon calls.nestedType

def typeParameter (calls : Calls) : Machine Stored.TypeParameter := do
  let start ← currentStart
  let name ← identifier
  let constraint ← afterWord "extends" calls.nestedType
  let fallback ← afterMark .equals calls.nestedType
  return ⟨← finish (.node .typeParameter) start, name, constraint, fallback⟩

def typeParameterTurn (calls : Calls) : Machine (Turn Stored.TypeParameter) := do
  let parameter ← typeParameter calls
  if ← accept .comma then
    if ← atMark .greaterThan then return .last parameter else return .more parameter
  else
    return .last parameter

def typeParameters (calls : Calls) : Machine (List Stored.TypeParameter) := do
  if ← accept .lessThan then
    let parameters ← repeated (typeParameterTurn calls)
    let _ ← expect .greaterThan
    return parameters
  else
    return []

def initializer? (calls : Calls) (allowed : Bool) : Machine (Option Stored.Expression) :=
  if allowed then afterMark .equals calls.nestedExpression else pure none

def parameter (calls : Calls) (allowInitializer : Bool) : Machine Stored.Parameter := do
  let start ← currentStart
  let isRest ← accept .dotDotDot
  let name ← identifier
  let optional ← accept .question
  let declaredType ← declaredType? calls
  let initializer ← initializer? calls allowInitializer
  return ⟨← finish (.node .parameter) start, isRest, name, optional, declaredType, initializer⟩

def parameters (calls : Calls) (allowInitializers : Bool) : Machine (List Stored.Parameter) := do
  let _ ← expect .openParen
  let parameters ← commaList .closeParen (parameter calls allowInitializers)
  let _ ← expect .closeParen
  return parameters

/-! Type arguments and references. -/

def requiredType (calls : Calls) : Machine Stored.TypeExpr := do
  requireTypeStart
  calls.nestedType

def typeArguments (calls : Calls) : Machine (List Stored.TypeExpr) := do
  let _ ← expect .lessThan
  let arguments ← repeated (requiredType calls >>= commaTurn)
  let _ ← expect .greaterThan
  return arguments

def typeArguments? (calls : Calls) : Machine (Option (List Stored.TypeExpr)) := do
  if ← atMark .lessThan then some <$> typeArguments calls else return none

/-- The type arguments of an expression, tried if a `<` comes next. They are kept if what follows is
a call or cannot go on a comparison. -/
def typeArgumentsInExpression? (calls : Calls) : Machine (Option (List Stored.TypeExpr)) := do
  if ← atMark .lessThan then
    speculate do
      let arguments ← typeArguments calls
      let token ← current
      if token.isMark .equals && token.start == (← get).cursor.lastStop then
        return none
      else if token.isMark .openParen || token.kind.followsTypeArguments token.afterLineBreak then
        return some arguments
      else
        return none
  else
    return none

/-- What a name holds: what its first token gave it, until a part is added. -/
def nameData (start : Nat) (first : Token) (parts : List String) : Machine NodeData :=
  if parts.isEmpty then pure (identifierFromToken first).data
  else finish (.token .identifier) start

def typeReference (calls : Calls) : Machine Stored.TypeExpr := do
  let start ← currentStart
  if (← current).kind = .identifier then
    let first ← take
    let parts ← repeated (ofParse namePart)
    let data ← nameData start first parts
    let name : Stored.Identifier := ⟨data, String.intercalate "." (first.text :: parts)⟩
    let arguments ← typeArguments? calls
    return .named (← finish (.node .typeReference) start) name arguments
  else
    typeExpected

def literalType : Machine Stored.TypeExpr := do
  let token ← take
  match literalFromToken? token with
  | some literal => return .literal (← finish (.node .literalType) token.start) literal
  | none => typeExpected

def nameType (calls : Calls) : Machine Stored.TypeExpr := do
  let token ← current
  if (literalFromToken? token).isSome then literalType
  else
    match Primitive.ofSpelling? token.text with
    | none => typeReference calls
    | some primitive =>
        if (← kindAhead 1) = .punctuator .dot then typeReference calls
        else
          let _ ← take
          return .primitive (← finish (.node .keywordType) token.start) primitive

/-! Functions, parentheses and tuples. -/

def functionType (calls : Calls) : Machine Stored.TypeExpr := do
  let start ← currentStart
  let typeParameters ← typeParameters calls
  let parameters ← parameters calls false
  let _ ← expect .arrow
  let result ← calls.nestedType
  return .function (← finish (.node .functionType) start) typeParameters parameters result

def parenthesizedType (calls : Calls) : Machine Stored.TypeExpr := do
  let start ← currentStart
  let _ ← expect .openParen
  let inner ← calls.nestedType
  let _ ← expect .closeParen
  return .parenthesized (← finish (.node .parenthesizedType) start) inner

def tupleType (calls : Calls) : Machine Stored.TypeExpr := do
  let start ← currentStart
  let _ ← expect .openBracket
  let elements ← commaList .closeBracket (requiredType calls)
  let _ ← expect .closeBracket
  return .tuple (← finish (.node .tupleType) start) elements

/-! Members. -/

def propertySignature (calls : Calls) (start : Nat) (name : Stored.Identifier) (optional : Bool) :
    Machine Stored.TypeMember := do
  let declaredType ← declaredType? calls
  return .property (← finish (.node .propertySignature) start) name optional declaredType

def methodSignature (calls : Calls) (start : Nat) (name : Stored.Identifier) (optional : Bool) :
    Machine Stored.TypeMember := do
  let typeParameters ← typeParameters calls
  let parameters ← parameters calls false
  let result ← declaredType? calls
  return .method (← finish (.node .methodSignature) start) name optional typeParameters parameters
    result

def typeMember (calls : Calls) : Machine Stored.TypeMember := do
  let start ← currentStart
  let name ← identifierName
  let optional ← accept .question
  match (← current).kind with
  | .punctuator .openParen | .punctuator .lessThan => methodSignature calls start name optional
  | _ => propertySignature calls start name optional

def memberTurn (calls : Calls) : Machine (Turn Stored.TypeMember) := do
  match (← current).kind with
  | .punctuator .closeBrace => return .stop
  | .endOfFile => unexpected (.token (.punctuator .closeBrace))
  | _ =>
      let member ← typeMember calls
      memberSeparator
      return .more member

def typeMembers (calls : Calls) : Machine (List Stored.TypeMember) := do
  let _ ← expect .openBrace
  let members ← repeated (memberTurn calls)
  let _ ← expect .closeBrace
  return members

def objectType (calls : Calls) : Machine Stored.TypeExpr := do
  let start ← currentStart
  let members ← typeMembers calls
  return .object (← finish (.node .typeLiteral) start) members

/-! All types. -/

def primaryType (calls : Calls) : Machine Stored.TypeExpr := do
  match (← current).kind with
  | .identifier => nameType calls
  | .stringLiteral | .numericLiteral => literalType
  | .punctuator .openParen =>
      if ← atFunctionType then functionType calls else parenthesizedType calls
  | .punctuator .lessThan => functionType calls
  | .punctuator .openBrace => objectType calls
  | .punctuator .openBracket => tupleType calls
  | _ => typeExpected

def arraySuffixes (calls : Calls) (start : Nat) (element : Stored.TypeExpr) :
    Machine Stored.TypeExpr := do
  let token ← current
  if token.isMark .openBracket && !token.afterLineBreak then
    if (← kindAhead 1) = .punctuator .closeBracket then
      deepen calls.limit .type
      calls.arraySuffix start element
    else
      return element
  else
    return element

def arraySuffix (calls : Calls) (start : Nat) (element : Stored.TypeExpr) :
    Machine Stored.TypeExpr := do
  let _ ← take
  let _ ← take
  arraySuffixes calls start (.array (← finish (.node .arrayType) start) element)

def postfixType (calls : Calls) : Machine Stored.TypeExpr := do
  let start ← currentStart
  let type ← primaryType calls
  chained (arraySuffixes calls start type)

def markTurn (mark : Punctuator) (item : Machine α) : Machine (Turn α) := do
  if ← accept mark then .more <$> item else return .stop

/-- The members of a union or an intersection as one node, by the mark between them. -/
def finishListType (mark : Punctuator) (start : Nat) (types : List Stored.TypeExpr) :
    Machine Stored.TypeExpr := do
  if mark = .bar then return .union (← finish (.node .unionType) start) types
  else return .intersection (← finish (.node .intersectionType) start) types

/-- Members with `mark` between them, and perhaps before the first. A single member is not
wrapped. -/
def listType (mark : Punctuator) (member : Machine Stored.TypeExpr) :
    Machine Stored.TypeExpr := do
  let start ← currentStart
  let _ ← accept mark
  let first ← member
  if ← atMark mark then
    let others ← repeated (markTurn mark member)
    finishListType mark start (first :: others)
  else
    return first

def intersectionType (calls : Calls) : Machine Stored.TypeExpr :=
  listType .ampersand (postfixType calls)

def unionType (calls : Calls) : Machine Stored.TypeExpr :=
  listType .bar (intersectionType calls)

end TypedScript.Machine
