import TypedScript.Parser.Expressions
import TypedScript.Parser.Machine.Types

/-!
Expressions, read by a parser with a state, and the levels of nesting put together.
-/

namespace TypedScript.Machine

open Parse

def arguments (calls : Calls) : Machine (List Stored.Expression) := do
  let _ ← expect .openParen
  let arguments ← commaList .closeParen calls.nestedExpression
  let _ ← expect .closeParen
  return arguments

def arguments? (calls : Calls) : Machine (Option (List Stored.Expression)) := do
  if ← atMark .openParen then some <$> arguments calls else return none

/-! Objects, arrays and what stands for itself. -/

def literalKey : Machine Stored.PropertyKey := do
  match literalFromToken? (← take) with
  | some literal => return .literal literal
  | none => identifierExpected

def propertyKey : Machine Stored.PropertyKey := do
  match (← current).kind with
  | .identifier | .keyword _ => .identifier <$> identifierName
  | .stringLiteral | .numericLiteral => literalKey
  | _ => identifierExpected

def objectProperty (calls : Calls) : Machine Stored.ObjectProperty := do
  let token ← current
  let key ← propertyKey
  if ← accept .colon then
    let value ← calls.nestedExpression
    return .assignment (← finish (.node .propertyAssignment) token.start) key value
  else
    match key with
    | .identifier name =>
        if token.kind = .identifier then
          return .shorthand (← finish (.node .shorthandPropertyAssignment) token.start) name
        else
          unexpected (.token (.punctuator .colon))
    | .literal _ => unexpected (.token (.punctuator .colon))

def objectLiteral (calls : Calls) : Machine Stored.Expression := do
  let start ← currentStart
  let _ ← expect .openBrace
  let properties ← commaList .closeBrace (objectProperty calls)
  let _ ← expect .closeBrace
  return .object (← finish (.node .objectLiteralExpression) start) properties

def arrayLiteral (calls : Calls) : Machine Stored.Expression := do
  let start ← currentStart
  let _ ← expect .openBracket
  let elements ← commaList .closeBracket calls.nestedExpression
  let _ ← expect .closeBracket
  return .array (← finish (.node .arrayLiteralExpression) start) elements

def parenthesizedExpression (calls : Calls) : Machine Stored.Expression := do
  let start ← currentStart
  let _ ← expect .openParen
  let inner ← calls.nestedExpression
  let _ ← expect .closeParen
  return .parenthesized (← finish (.node .parenthesizedExpression) start) inner

def literalOrName : Machine Stored.Expression := do
  let token ← take
  match literalFromToken? token with
  | some literal => return .literal literal
  | none => return .identifier (identifierFromToken token)

def primaryExpression (calls : Calls) : Machine Stored.Expression := do
  match (← current).kind with
  | .identifier | .numericLiteral | .stringLiteral => literalOrName
  | .punctuator .openParen => parenthesizedExpression calls
  | .punctuator .openBrace => objectLiteral calls
  | .punctuator .openBracket => arrayLiteral calls
  | _ => unexpected .expression

/-! Accesses and calls, each of which takes a level. -/

def suffixes (calls : Calls) (start : Nat) (allowCalls : Bool) (base : Stored.Expression) :
    Machine Stored.Expression := do
  match (← current).kind with
  | .punctuator .dot | .punctuator .questionDot | .punctuator .openBracket =>
      deepen calls.limit .expression
      calls.suffix start allowCalls base
  | .punctuator .openParen =>
      if allowCalls then
        deepen calls.limit .expression
        calls.suffix start allowCalls base
      else
        return base
  | .punctuator .lessThan =>
      if allowCalls then
        match ← typeArgumentsInExpression? calls with
        | some typeArguments =>
            deepen calls.limit .expression
            calls.typedSuffix start allowCalls base typeArguments
        | none => return base
      else
        return base
  | _ => return base

def suffix (calls : Calls) (start : Nat) (allowCalls : Bool) (base : Stored.Expression) :
    Machine Stored.Expression := do
  match (← current).kind with
  | .punctuator .openBracket =>
      let _ ← take
      let index ← calls.nestedExpression
      let _ ← expect .closeBracket
      suffixes calls start allowCalls
        (.element (← finish (.node .elementAccessExpression) start) base index)
  | .punctuator .openParen =>
      let arguments ← arguments calls
      suffixes calls start allowCalls
        (.call (← finish (.node .callExpression) start) base none arguments)
  | _ =>
      let optional := (← take).isMark .questionDot
      let name ← identifierName
      suffixes calls start allowCalls
        (.property (← finish (.node .propertyAccessExpression) start) base name optional)

def typedSuffix (calls : Calls) (start : Nat) (allowCalls : Bool) (base : Stored.Expression)
    (typeArguments : List Stored.TypeExpr) : Machine Stored.Expression := do
  if ← atMark .openParen then
    let arguments ← arguments calls
    suffixes calls start allowCalls
      (.call (← finish (.node .callExpression) start) base (some typeArguments) arguments)
  else
    suffixes calls start allowCalls
      (.instantiation (← finish (.node .instantiationExpression) start) base typeArguments)

/-- All that follows an expression, whose levels are given back in the end. -/
def memberSuffix (calls : Calls) (start : Nat) (allowCalls : Bool) (base : Stored.Expression) :
    Machine Stored.Expression :=
  chained (suffixes calls start allowCalls base)

def newBase (calls : Calls) : Machine Stored.Expression := do
  if (← current).kind = .keyword .newWord then nested calls.limit .expression calls.newExpression
  else primaryExpression calls

def newExpression (calls : Calls) : Machine Stored.Expression := do
  let start ← currentStart
  let _ ← expectKeyword .newWord
  let baseStart ← currentStart
  let base ← newBase calls
  let callee ← memberSuffix calls baseStart false base
  let typeArguments ← typeArgumentsInExpression? calls
  let arguments ← arguments? calls
  return .new (← finish (.node .newExpression) start) callee typeArguments arguments

def leftHandBase (calls : Calls) : Machine Stored.Expression := do
  if (← current).kind = .keyword .newWord then newExpression calls
  else primaryExpression calls

def leftHandSide (calls : Calls) : Machine Stored.Expression := do
  let start ← currentStart
  let base ← leftHandBase calls
  memberSuffix calls start true base

/-! Operators. -/

def unary (calls : Calls) : Machine Stored.Expression := do
  let token ← current
  match token.kind with
  | .punctuator mark =>
      if mark.isUnary then
        let _ ← take
        let operand ← nested calls.limit .expression calls.unary
        return .unary (← finish (.node .prefixUnaryExpression) token.start) mark operand
      else
        leftHandSide calls
  | _ => leftHandSide calls

def operators (calls : Calls) (start minimum : Nat) (left : Stored.Expression) :
    Machine Stored.Expression := do
  match ← binaryOperator? with
  | none => return left
  | some operator =>
      if operator.precedence ≤ minimum then return left
      else
        deepen calls.limit .expression
        calls.operator start minimum left operator.mark operator.width operator.precedence

def binary (calls : Calls) (minimum : Nat) : Machine Stored.Expression := do
  let start ← currentStart
  let left ← unary calls
  chained (operators calls start minimum left)

def operator (calls : Calls) (start minimum : Nat) (left : Stored.Expression) (mark : Punctuator)
    (width precedence : Nat) : Machine Stored.Expression := do
  skip width
  let right ← binary calls precedence
  operators calls start minimum
    (.binary (← finish (.node .binaryExpression) start) left mark right)

def conditional (calls : Calls) : Machine Stored.Expression := do
  let start ← currentStart
  let condition ← binary calls 0
  if ← accept .question then
    let whenTrue ← calls.nestedExpression
    let _ ← expect .colon
    let whenFalse ← calls.nestedExpression
    return .conditional (← finish (.node .conditionalExpression) start) condition whenTrue whenFalse
  else
    return condition

/-! Arrow functions. -/

def arrowBody (calls : Calls) : Machine Stored.ArrowBody := do
  if ← atMark .openBrace then .block <$> functionBody else .expression <$> calls.nestedExpression

def simpleArrow (calls : Calls) : Machine Stored.Expression := do
  let token ← take
  let parameter : Stored.Parameter :=
    ⟨⟨.node .parameter, token.span⟩, false, identifierFromToken token, false, none, none⟩
  let _ ← expect .arrow
  let body ← arrowBody calls
  return .arrow (← finish (.node .arrowFunction) token.start) [parameter] none body

def parenthesizedArrow (calls : Calls) : Machine Stored.Expression := do
  let start ← currentStart
  let parameters ← parameters calls true
  let result ← declaredType? calls
  let _ ← expect .arrow
  let body ← arrowBody calls
  return .arrow (← finish (.node .arrowFunction) start) parameters result body

/-- An arrow function, if one comes next. Where that is not clear it is tried. -/
def arrow? (calls : Calls) : Machine (Option Stored.Expression) := do
  match (← current).kind with
  | .identifier =>
      if (← kindAhead 1) = .punctuator .arrow then some <$> simpleArrow calls
      else return none
  | .punctuator .openParen =>
      match arrowLookahead (← get).cursor.ahead with
      | .arrow => some <$> parenthesizedArrow calls
      | .ambiguous => speculate (some <$> parenthesizedArrow calls)
      | .notArrow => return none
  | _ => return none

/-! All expressions. -/

def assignment (calls : Calls) : Machine Stored.Expression := do
  match ← arrow? calls with
  | some arrow => return arrow
  | none =>
      let start ← currentStart
      let left ← conditional calls
      match (← current).kind with
      | .punctuator mark =>
          if mark.isAssignment then
            let _ ← take
            let right ← calls.nestedExpression
            return .binary (← finish (.node .binaryExpression) start) left mark right
          else
            return left
      | _ => return left

/-! The levels. -/

namespace Calls

def ofCalls (calls : Calls) : Calls where
  limit := calls.limit
  type := Machine.unionType calls
  arraySuffix := Machine.arraySuffix calls
  assignment := Machine.assignment calls
  unary := Machine.unary calls
  newExpression := Machine.newExpression calls
  operator := Machine.operator calls
  suffix := Machine.suffix calls
  typedSuffix := Machine.typedSuffix calls

/-- The productions with `room` levels of calls below them, and `bottom` below those. Nothing calls
what lies at the bottom if there is as much room as there are levels to take. -/
def ofRoom (bottom : Calls) : Nat → Calls
  | 0 => bottom
  | room + 1 => (ofRoom bottom room).ofCalls

def bottom (limit : Nat) : Calls where
  limit := limit
  type := typeExpected
  arraySuffix _ _ := typeExpected
  assignment := unexpected .expression
  unary := unexpected .expression
  newExpression := unexpected .expression
  operator _ _ _ _ _ _ := unexpected .expression
  suffix _ _ _ := unexpected .expression
  typedSuffix _ _ _ _ := unexpected .expression

def outermost (limit : Nat) : Calls :=
  ofRoom (bottom limit) limit

end Calls

end TypedScript.Machine
