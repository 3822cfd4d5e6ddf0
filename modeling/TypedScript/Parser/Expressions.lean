import TypedScript.Parser.Types

/-!
Expressions. In the order of how loosely they bind: arrow functions and assignments, conditionals,
binary operators by precedence, prefix operators, and accesses and calls.
-/

namespace TypedScript

namespace Parse

def arguments (nesting : Nesting) : Parse (List Expression) := do
  let _ ← expect .openParen
  let arguments ← commaList .closeParen nesting.expression
  let _ ← expect .closeParen
  return arguments

def arguments? (nesting : Nesting) : Parse (Option (List Expression)) := do
  if ← atMark .openParen then some <$> arguments nesting else return none

/-! Objects and arrays. -/

def literalKey : Parse PropertyKey := do
  match literalOf? (← take) with
  | some literal => return .literal literal
  | none => identifierExpected

def propertyKey : Parse PropertyKey := do
  match (← current).kind with
  | .identifier | .keyword _ => .identifier <$> identifierName
  | .stringLiteral | .numericLiteral => literalKey
  | _ => identifierExpected

def objectProperty (nesting : Nesting) : Parse ObjectProperty := do
  let token ← current
  let key ← propertyKey
  if ← accept .colon then
    let value ← nesting.expression
    return .assignment (← spanFrom token.start) key value
  else
    match key with
    | .identifier name =>
        if token.kind = .identifier then return .shorthand (← spanFrom token.start) name
        else unexpected (.token (.punctuator .colon))
    | .literal _ => unexpected (.token (.punctuator .colon))

def objectLiteral (nesting : Nesting) : Parse Expression := do
  let start ← currentStart
  let _ ← expect .openBrace
  let properties ← commaList .closeBrace (objectProperty nesting)
  let _ ← expect .closeBrace
  return .object (← spanFrom start) properties

def arrayLiteral (nesting : Nesting) : Parse Expression := do
  let start ← currentStart
  let _ ← expect .openBracket
  let elements ← commaList .closeBracket nesting.expression
  let _ ← expect .closeBracket
  return .array (← spanFrom start) elements

def parenthesizedExpression (nesting : Nesting) : Parse Expression := do
  let start ← currentStart
  let _ ← expect .openParen
  let inner ← nesting.expression
  let _ ← expect .closeParen
  return .parenthesized (← spanFrom start) inner

def literalOrName : Parse Expression := do
  let token ← take
  match literalOf? token with
  | some literal => return .literal literal
  | none => return .identifier (identifierOf token)

def primaryExpression (nesting : Nesting) : Parse Expression := do
  match (← current).kind with
  | .identifier | .numericLiteral | .stringLiteral => literalOrName
  | .punctuator .openParen => parenthesizedExpression nesting
  | .punctuator .openBrace => objectLiteral nesting
  | .punctuator .openBracket => arrayLiteral nesting
  | _ => unexpected .expression

/-! Accesses and calls are applied from left to right. Each of them makes the expression one level
deeper. -/

def suffixes (nesting : Nesting) (start : Nat) (allowCalls : Bool) (base : Expression) :
    Parse Expression := do
  match (← current).kind with
  | .punctuator .dot | .punctuator .questionDot | .punctuator .openBracket =>
      (← nesting.enter .expression).suffix start allowCalls base
  | .punctuator .openParen =>
      if allowCalls then (← nesting.enter .expression).suffix start allowCalls base
      else return base
  | .punctuator .lessThan =>
      if allowCalls then
        match ← typeArgumentsInExpression? nesting with
        | some typeArguments =>
            (← nesting.enter .expression).typedSuffix start allowCalls base typeArguments
        | none => return base
      else
        return base
  | _ => return base

def suffix (nesting : Nesting) (start : Nat) (allowCalls : Bool) (base : Expression) :
    Parse Expression := do
  match (← current).kind with
  | .punctuator .openBracket =>
      let _ ← take
      let index ← nesting.expression
      let _ ← expect .closeBracket
      suffixes nesting start allowCalls (.element (← spanFrom start) base index)
  | .punctuator .openParen =>
      let arguments ← arguments nesting
      suffixes nesting start allowCalls (.call (← spanFrom start) base none arguments)
  | _ =>
      let optional := (← take).isMark .questionDot
      let name ← identifierName
      suffixes nesting start allowCalls (.property (← spanFrom start) base name optional)

def typedSuffix (nesting : Nesting) (start : Nat) (allowCalls : Bool) (base : Expression)
    (typeArguments : List TypeExpr) : Parse Expression := do
  if ← atMark .openParen then
    let arguments ← arguments nesting
    suffixes nesting start allowCalls
      (.call (← spanFrom start) base (some typeArguments) arguments)
  else
    suffixes nesting start allowCalls (.instantiation (← spanFrom start) base typeArguments)

def newBase (nesting : Nesting) : Parse Expression := do
  if (← current).kind = .keyword .newWord then (← nesting.enter .expression).newExpression
  else primaryExpression nesting

def newExpression (nesting : Nesting) : Parse Expression := do
  let start ← currentStart
  let _ ← expectKeyword .newWord
  let baseStart ← currentStart
  let base ← newBase nesting
  let callee ← suffixes nesting baseStart false base
  let typeArguments ← typeArgumentsInExpression? nesting
  let arguments ← arguments? nesting
  return .new (← spanFrom start) callee typeArguments arguments

def leftHandBase (nesting : Nesting) : Parse Expression := do
  if (← current).kind = .keyword .newWord then newExpression nesting
  else primaryExpression nesting

def leftHandSide (nesting : Nesting) : Parse Expression := do
  let start ← currentStart
  let base ← leftHandBase nesting
  suffixes nesting start true base

/-! Operators. -/

def unary (nesting : Nesting) : Parse Expression := do
  let token ← current
  match token.kind with
  | .punctuator mark =>
      if mark.isUnary then
        let _ ← take
        let operand ← (← nesting.enter .expression).unary
        return .unary (← spanFrom token.start) mark operand
      else
        leftHandSide nesting
  | _ => leftHandSide nesting

/-- A binary operator: the number of tokens that spell it, and how tightly it binds. -/
structure BinaryOperator where
  mark : Punctuator
  width : Nat
  precedence : Nat

/-- The binary operator that comes next. A closing angle bracket that touches an equals sign is one
operator with it. -/
def binaryOperator? : Parse (Option BinaryOperator) := do
  let token ← current
  let plain := token.kind.punctuator?.bind fun mark =>
    mark.precedence?.map fun precedence => BinaryOperator.mk mark 1 precedence
  if token.isMark .greaterThan then
    let second ← peek 1
    if second.isMark .equals && second.start == token.stop then
      return Punctuator.greaterThanEquals.precedence?.map (⟨.greaterThanEquals, 2, ·⟩)
    else
      return plain
  else
    return plain

/-- Operators that bind tighter than `minimum`, with their right operands. Operators that bind
equally tight are applied from left to right, each one level deeper than the one before. -/
def operators (nesting : Nesting) (start minimum : Nat) (left : Expression) :
    Parse Expression := do
  match ← binaryOperator? with
  | none => return left
  | some operator =>
      if operator.precedence ≤ minimum then return left
      else
        (← nesting.enter .expression).operator start minimum left operator.mark operator.width
          operator.precedence

/-- Operands with operators between them that bind tighter than `minimum`. -/
def binary (nesting : Nesting) (minimum : Nat) : Parse Expression := do
  let start ← currentStart
  let left ← unary nesting
  operators nesting start minimum left

def operator (nesting : Nesting) (start minimum : Nat) (left : Expression) (mark : Punctuator)
    (width precedence : Nat) : Parse Expression := do
  modify (·.skip width)
  let right ← binary nesting precedence
  operators nesting start minimum (.binary (← spanFrom start) left mark right)

def conditional (nesting : Nesting) : Parse Expression := do
  let start ← currentStart
  let condition ← binary nesting 0
  if ← accept .question then
    let whenTrue ← nesting.expression
    let _ ← expect .colon
    let whenFalse ← nesting.expression
    return .conditional (← spanFrom start) condition whenTrue whenFalse
  else
    return condition

/-! Arrow functions. -/

def afterParens? (depth : Nat) : List Token → Option (List Token)
  | [] => none
  | token :: rest =>
      if token.isMark .openParen then afterParens? (depth + 1) rest
      else if token.isMark .closeParen then
        if depth ≤ 1 then some rest else afterParens? (depth - 1) rest
      else
        afterParens? depth rest

/-- What the token after a pair of parentheses says about them. -/
inductive ArrowLookahead where
  /-- They hold the parameters of an arrow function. -/
  | arrow
  /-- A colon follows: before the result type of an arrow function, or in a conditional. -/
  | ambiguous
  | notArrow
deriving DecidableEq, Repr

/-- Looks for the end of the parentheses that come next, as far as the tokens go. -/
def arrowLookahead (ahead : List Token) : ArrowLookahead :=
  match (afterParens? 0 ahead).bind List.head? with
  | none => .notArrow
  | some token =>
      if token.isMark .arrow then .arrow
      else if token.isMark .colon then .ambiguous
      else .notArrow

def arrowBody (nesting : Nesting) : Parse ArrowBody := do
  if ← atMark .openBrace then .block <$> functionBody else .expression <$> nesting.expression

def simpleArrow (nesting : Nesting) : Parse Expression := do
  let token ← take
  let parameter : Parameter := ⟨token.span, false, identifierOf token, false, none, none⟩
  let _ ← expect .arrow
  let body ← arrowBody nesting
  return .arrow (← spanFrom token.start) [parameter] none body

def parenthesizedArrow (nesting : Nesting) : Parse Expression := do
  let start ← currentStart
  let parameters ← parameters nesting true
  let result ← declaredType? nesting
  let _ ← expect .arrow
  let body ← arrowBody nesting
  return .arrow (← spanFrom start) parameters result body

/-- An arrow function, if one comes next. Where that is not clear it is tried. -/
def arrow? (nesting : Nesting) : Parse (Option Expression) := do
  match (← current).kind with
  | .identifier =>
      if (← kindAhead 1) = .punctuator .arrow then some <$> simpleArrow nesting
      else return none
  | .punctuator .openParen =>
      match arrowLookahead (← get).ahead with
      | .arrow => some <$> parenthesizedArrow nesting
      | .ambiguous => speculate nesting.rules.isFinal (some <$> parenthesizedArrow nesting)
      | .notArrow => return none
  | _ => return none

/-! All expressions. -/

/-- An arrow function, or a conditional that may be assigned to. Assignments are applied from right
to left. -/
def assignment (nesting : Nesting) : Parse Expression := do
  match ← arrow? nesting with
  | some arrow => return arrow
  | none =>
      let start ← currentStart
      let left ← conditional nesting
      match (← current).kind with
      | .punctuator mark =>
          if mark.isAssignment then
            let _ ← take
            let right ← nesting.expression
            return .binary (← spanFrom start) left mark right
          else
            return left
      | _ => return left

end Parse

/-! The levels. -/

namespace Level

def ofNesting (nesting : Nesting) : Level where
  type := Parse.unionType nesting
  arraySuffix := Parse.arraySuffix nesting
  assignment := Parse.assignment nesting
  unary := Parse.unary nesting
  newExpression := Parse.newExpression nesting
  operator := Parse.operator nesting
  suffix := Parse.suffix nesting
  typedSuffix := Parse.typedSuffix nesting

end Level

namespace Nesting

def ofRoom (rules : Rules) : Nat → Nesting
  | 0 => ⟨rules, none⟩
  | room + 1 => ⟨rules, some (Level.ofNesting (ofRoom rules room))⟩

def outermost (rules : Rules) : Nesting :=
  ofRoom rules rules.limit

end Nesting

end TypedScript
