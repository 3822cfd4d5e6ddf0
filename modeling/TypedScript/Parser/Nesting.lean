import TypedScript.Parser.Basic

/-!
How deep types and expressions may nest. Grammar rules refer to each other in circles, but every
circle goes one level deeper, and there are only so many levels. So the rules at one depth are
ordinary definitions over the rules one level deeper, and all levels together are built by
recursion on the number of levels that are left.
-/

namespace TypedScript

/-- The rules that are entered by going one level deeper. Some of them go on with something that
has been read already: a type or an expression, and where it began. -/
structure Level where
  type : Parse TypeExpr
  arraySuffix : (start : Nat) → (element : TypeExpr) → Parse TypeExpr
  assignment : Parse Expression
  unary : Parse Expression
  newExpression : Parse Expression
  /-- An operator of `width` tokens with its right operand, and further operators that bind tighter
  than `minimum`. -/
  operator : (start minimum : Nat) → (left : Expression) → (operator : Punctuator) →
    (width precedence : Nat) → Parse Expression
  /-- An access or a call after an expression, and further ones. -/
  suffix : (start : Nat) → (allowCalls : Bool) → (base : Expression) → Parse Expression
  /-- What follows type arguments after an expression, and further accesses and calls. -/
  typedSuffix : (start : Nat) → (allowCalls : Bool) → (base : Expression) →
    (typeArguments : List TypeExpr) → Parse Expression

/-- What the grammar leaves open: how many levels there are, and which errors stand even if they
arise in a trial. -/
structure Rules where
  limit : Nat
  isFinal : SyntaxError → Bool

namespace Rules

def ofLimit (limit : Nat) : Rules :=
  ⟨limit, SyntaxError.isFinal⟩

end Rules

/-- A depth: the rules one level deeper, if that is not too deep. -/
structure Nesting where
  rules : Rules
  inner : Option Level

namespace Nesting

/-- Goes one level deeper, or fails at the next token; `expected` is what was to be read there. -/
def enter (nesting : Nesting) (expected : Expected) : Parse Level :=
  match nesting.inner with
  | some level => pure level
  | none => Parse.failAt (.nestingLimitExceeded nesting.rules.limit) expected

def type (nesting : Nesting) : Parse TypeExpr := do
  (← nesting.enter .type).type

def expression (nesting : Nesting) : Parse Expression := do
  (← nesting.enter .expression).assignment

end Nesting

end TypedScript
