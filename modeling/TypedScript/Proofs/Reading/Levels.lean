import TypedScript.Parser.Nesting
import TypedScript.Proofs.Reading.Tokens

/-!
What the rules of a level read. Rules that go on with something that has been read already form
their node from where that began.
-/

namespace TypedScript

/-- A type that `[]` may follow has been read from `origin` up to here. -/
abbrev TypeSince (origin now : Cursor) (type : TypeExpr) : Prop :=
  Formed origin now (type.Spelled .intersectionMember) (.type type)

abbrev ExpressionSince (origin now : Cursor) (expression : Expression) : Prop :=
  Formed origin now expression.Spelled (.expression expression)

def ArgumentsSince (origin now : Cursor) (arguments : Option (List TypeExpr)) : Prop :=
  ∃ lexemes, Arguments (TypeExpr.Spelled .type) arguments lexemes ∧
    Piece origin now lexemes ((arguments.getD []).map .type)

namespace Cursor

def AtBrackets (cursor : Cursor) : Prop :=
  ∃ first second, cursor.peek 0 = .ok first ∧ first.isMark .openBracket = true ∧
    cursor.peek 1 = .ok second ∧ second.kind = .punctuator .closeBracket

def AtSuffix (cursor : Cursor) : Prop :=
  ∃ token mark, cursor.peek 0 = .ok token ∧ token.kind = .punctuator mark ∧
    mark ∈ [Punctuator.dot, .questionDot, .openBracket, .openParen]

/-- A binary operator comes next, and `width` tokens spell it. -/
def AtOperator (cursor : Cursor) (operator : Punctuator) (width : Nat) : Prop :=
  Piece cursor (cursor.skip width) operator.operatorLexemes []

end Cursor

structure Level.Reading (level : Level) : Prop where
  type : Reads level.type (TypeExpr.Spelled .type) fun type => [.type type]
  arraySuffix {origin before after : Cursor} {start : Nat} {element value : TypeExpr} :
    origin.StartsAt start → TypeSince origin before element → before.AtBrackets →
    level.arraySuffix start element before = .ok value after → TypeSince origin after value
  assignment : Forms level.assignment Expression.Spelled .expression
  unary : Forms level.unary Expression.Spelled .expression
  newExpression : Forms level.newExpression Expression.Spelled .expression
  operator {origin before after : Cursor} {start minimum width precedence : Nat}
      {left value : Expression} {operator : Punctuator} :
    origin.StartsAt start → ExpressionSince origin before left →
    before.AtOperator operator width →
    level.operator start minimum left operator width precedence before = .ok value after →
    ExpressionSince origin after value
  suffix {origin before after : Cursor} {start : Nat} {allowCalls : Bool}
      {base value : Expression} :
    origin.StartsAt start → ExpressionSince origin before base → before.AtSuffix →
    level.suffix start allowCalls base before = .ok value after → ExpressionSince origin after value
  typedSuffix {origin between before after : Cursor} {start : Nat} {allowCalls : Bool}
      {base value : Expression} {typeArguments : List TypeExpr} :
    origin.StartsAt start → ExpressionSince origin between base →
    ArgumentsSince between before (some typeArguments) →
    level.typedSuffix start allowCalls base typeArguments before = .ok value after →
    ExpressionSince origin after value

namespace Nesting

def Reading (nesting : Nesting) : Prop :=
  ∀ level, nesting.inner = some level → level.Reading

theorem enter_eq_ok {nesting : Nesting} {expected : Expected} {level : Level}
    {before after : Cursor} :
    nesting.enter expected before = .ok level after ↔
      nesting.inner = some level ∧ before = after := by
  cases inner : nesting.inner with
  | some deeper =>
      rw [enter, inner]
      exact Parse.pure_eq_ok.trans (and_congr_left fun _ => Option.some_inj.symm)
  | none =>
      rw [enter, inner]
      exact iff_of_false Parse.failAt_ne_ok (by simp)

theorem Reading.type {nesting : Nesting} (reading : nesting.Reading) :
    Reads nesting.type (TypeExpr.Spelled .type) fun type => [.type type] := by
  intro before value after parsed
  simp only [Nesting.type, Parse.bind_eq_ok, enter_eq_ok] at parsed
  rcases parsed with ⟨level, _, ⟨found, rfl⟩, parsed⟩
  exact (reading level found).type parsed

theorem Reading.expression {nesting : Nesting} (reading : nesting.Reading) :
    Forms nesting.expression Expression.Spelled .expression := by
  intro before value after parsed
  simp only [Nesting.expression, Parse.bind_eq_ok, enter_eq_ok] at parsed
  rcases parsed with ⟨level, _, ⟨found, rfl⟩, parsed⟩
  exact (reading level found).assignment parsed

end Nesting

end TypedScript
