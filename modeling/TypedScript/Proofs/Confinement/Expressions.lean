import TypedScript.Parser.Expressions
import TypedScript.Proofs.Confinement.Types

/-!
How far the rules for expressions look, and so all rules at every depth.
-/

namespace TypedScript

/-! Operators are neither braces nor semicolons. -/

theorem Punctuator.isPlain_of_precedence? {mark : Punctuator} {precedence : Nat}
    (binds : mark.precedence? = some precedence) :
    (TokenKind.punctuator mark).isPlain = true := by
  cases mark <;> first | rfl | cases binds

theorem Punctuator.isPlain_of_isUnary {mark : Punctuator} (isUnary : mark.isUnary = true) :
    (TokenKind.punctuator mark).isPlain = true := by
  cases mark <;> first | rfl | cases isUnary

theorem Punctuator.isPlain_of_isAssignment {mark : Punctuator}
    (isAssignment : mark.isAssignment = true) : (TokenKind.punctuator mark).isPlain = true := by
  cases mark <;> first | rfl | cases isAssignment

namespace Confined

open Parse

variable {nesting : Nesting} {depth : Nat} {later : Stage} {α : Type}

/-! Arguments, objects and arrays. -/

theorem arguments (confined : nesting.Confined) :
    Confined (.within depth) (.within depth) (arguments nesting) :=
  (expect rfl).bind fun _ => (commaList .closeParen confined.expression).bind fun _ =>
    (expect rfl).bind fun _ => pure _

theorem arguments? (confined : nesting.Confined) :
    Confined (.within depth) (.within depth) (arguments? nesting) := by
  refine (atMark .openParen).bind fun found => ?_
  split
  · exact (arguments confined).map
  · exact pure _

theorem propertyKey : Confined (.within depth) (.within depth) propertyKey := by
  have literal {before : Cursor} (plain : PlainAhead 1 before) :
      ConfinedAt before (.within depth) (.within depth) literalKey := by
    apply ConfinedAt.take_bind plain
    intro token after _
    split
    · exact pure _ after
    · exact identifierExpected after
  intro before
  apply ConfinedAt.current_bind
  intro token found
  split
  · exact identifierName.map before
  · exact identifierName.map before
  · next isString => exact literal (.one found (isString ▸ rfl))
  · next isNumber => exact literal (.one found (isNumber ▸ rfl))
  · exact identifierExpected before

theorem objectProperty (confined : nesting.Confined) :
    Confined (.within depth) (.within depth) (objectProperty nesting) := by
  refine current.bind fun token => propertyKey.bind fun key => (accept rfl).bind fun found => ?_
  split
  · exact confined.expression.bind fun _ => (spanFrom token.start).bind fun _ => pure _
  · split
    · split
      · exact (spanFrom token.start).bind fun _ => pure _
      · exact unexpected
    · exact unexpected

theorem objectLiteral (confined : nesting.Confined) :
    Confined (.within depth) (.within depth) (objectLiteral nesting) :=
  currentStart.bind fun start => openBrace.bind fun _ =>
    (commaList .closeBrace (objectProperty confined)).bind fun _ => closeBrace.bind fun _ =>
    (spanFrom start).bind fun _ => pure _

theorem arrayLiteral (confined : nesting.Confined) :
    Confined (.within depth) (.within depth) (arrayLiteral nesting) :=
  currentStart.bind fun start => (expect rfl).bind fun _ =>
    (commaList .closeBracket confined.expression).bind fun _ => (expect rfl).bind fun _ =>
    (spanFrom start).bind fun _ => pure _

theorem parenthesizedExpression (confined : nesting.Confined) :
    Confined (.within depth) (.within depth) (parenthesizedExpression nesting) :=
  currentStart.bind fun start => (expect rfl).bind fun _ => confined.expression.bind fun _ =>
    (expect rfl).bind fun _ => (spanFrom start).bind fun _ => pure _

theorem primaryExpression (confined : nesting.Confined) :
    Confined (.within depth) (.within depth) (primaryExpression nesting) := by
  have literalOrName {before : Cursor} (plain : PlainAhead 1 before) :
      ConfinedAt before (.within depth) (.within depth) literalOrName := by
    apply ConfinedAt.take_bind plain
    intro token after _
    split <;> exact pure _ after
  intro before
  apply ConfinedAt.current_bind
  intro token found
  split
  · next isName => exact literalOrName (.one found (isName ▸ rfl))
  · next isNumber => exact literalOrName (.one found (isNumber ▸ rfl))
  · next isString => exact literalOrName (.one found (isString ▸ rfl))
  · exact parenthesizedExpression confined before
  · exact objectLiteral confined before
  · exact arrayLiteral confined before
  · exact unexpected before

/-! Accesses and calls. -/

theorem suffixes (confined : nesting.Confined) (start : Nat) (allowCalls : Bool)
    (base : Expression) :
    Confined (.within depth) (.within depth) (suffixes nesting start allowCalls base) := by
  intro before
  apply ConfinedAt.current_bind
  intro token found
  have deeper (isPlain : token.kind.isPlain = true) :
      ConfinedAt before (.within depth) (.within depth)
        (nesting.enter .expression >>= (·.suffix start allowCalls base)) := by
    apply confined.enter
    intro level levelConfined
    exact levelConfined.suffix (.one found isPlain)
  split
  · next isDot => exact deeper (isDot ▸ rfl)
  · next isDot => exact deeper (isDot ▸ rfl)
  · next isOpen => exact deeper (isOpen ▸ rfl)
  · next isOpen =>
      split
      · exact deeper (isOpen ▸ rfl)
      · exact pure _ before
  · split
    · apply (typeArgumentsInExpression? confined before).bind
      intro typeArguments after _
      split
      · apply confined.enter
        intro level levelConfined
        exact levelConfined.typedSuffix after
      · exact pure _ after
    · exact pure _ before
  · exact pure _ before

theorem suffix (confined : nesting.Confined) {start : Nat} {allowCalls : Bool} {base : Expression}
    {before : Cursor} (plain : PlainAhead 1 before) :
    ConfinedAt before (.within depth) (.within depth) (suffix nesting start allowCalls base) := by
  apply ConfinedAt.current_bind
  intro token found
  split
  · apply ConfinedAt.take_bind plain
    intro _ after _
    exact confined.expression.bind (fun _ => (expect rfl).bind fun _ =>
      (spanFrom start).bind fun _ => suffixes confined start allowCalls _) after
  · exact (arguments confined).bind (fun _ => (spanFrom start).bind fun _ =>
      suffixes confined start allowCalls _) before
  · apply ConfinedAt.take_bind plain
    intro _ after _
    exact identifierName.bind (fun _ => (spanFrom start).bind fun _ =>
      suffixes confined start allowCalls _) after

theorem typedSuffix (confined : nesting.Confined) (start : Nat) (allowCalls : Bool)
    (base : Expression) (typeArguments : List TypeExpr) :
    Confined (.within depth) (.within depth)
      (typedSuffix nesting start allowCalls base typeArguments) := by
  refine (atMark .openParen).bind fun found => ?_
  split
  · exact (arguments confined).bind fun _ => (spanFrom start).bind fun _ =>
      suffixes confined start allowCalls _
  · exact (spanFrom start).bind fun _ => suffixes confined start allowCalls _

theorem newExpression (confined : nesting.Confined) :
    Confined (.within depth) (.within depth) (newExpression nesting) := by
  have newBase : Confined (.within depth) (.within depth) (newBase nesting) := by
    refine current.bind fun token => ?_
    split
    · exact fun before => confined.enter fun _ level => level.newExpression before
    · exact primaryExpression confined
  exact currentStart.bind fun start => (expectKeyword .newWord).bind fun _ =>
    currentStart.bind fun baseStart => newBase.bind fun base =>
    (suffixes confined baseStart false base).bind fun _ =>
    (typeArgumentsInExpression? confined).bind fun _ => (arguments? confined).bind fun _ =>
    (spanFrom start).bind fun _ => pure _

theorem leftHandSide (confined : nesting.Confined) :
    Confined (.within depth) (.within depth) (leftHandSide nesting) := by
  have leftHandBase : Confined (.within depth) (.within depth) (leftHandBase nesting) := by
    refine current.bind fun token => ?_
    split
    · exact newExpression confined
    · exact primaryExpression confined
  exact currentStart.bind fun start => leftHandBase.bind fun base =>
    suffixes confined start true base

/-! Operators. -/

theorem unary (confined : nesting.Confined) :
    Confined (.within depth) (.within depth) (unary nesting) := by
  intro before
  apply ConfinedAt.current_bind
  intro token found
  split
  · next mark isMark =>
      split
      · next isUnary =>
          apply ConfinedAt.take_bind (.one found (isMark ▸ mark.isPlain_of_isUnary isUnary))
          intro _ after _
          apply confined.enter
          intro level levelConfined
          exact levelConfined.unary.bind (fun _ => (spanFrom token.start).bind fun _ => pure _)
            after
      · exact leftHandSide confined before
  · exact leftHandSide confined before

theorem binaryOperator?_bind {before : Cursor} {next : Option BinaryOperator → Parse α}
    (second : ∀ found : Option BinaryOperator,
      (∀ operator ∈ found, PlainAhead operator.width before) →
      ConfinedAt before (.within depth) later (next found)) :
    ConfinedAt before (.within depth) later (binaryOperator? >>= next) := by
  rw [binaryOperator?, bind_assoc]
  apply ConfinedAt.current_bind
  intro token found
  have single : ∀ operator ∈ token.kind.punctuator?.bind fun mark =>
      mark.precedence?.map fun precedence => BinaryOperator.mk mark 1 precedence,
      PlainAhead operator.width before := by
    intro operator member
    rcases Option.bind_eq_some_iff.mp member with ⟨mark, isMark, binds⟩
    rcases Option.map_eq_some_iff.mp binds with ⟨precedence, level, rfl⟩
    refine .one found ?_
    cases kind : token.kind with
    | punctuator other =>
        rw [kind] at isMark
        cases isMark
        exact mark.isPlain_of_precedence? level
    | _ => rfl
  dsimp only
  split
  · next isAngle =>
      have one := PlainAhead.one found (Token.isMark_iff.mp isAngle ▸ rfl)
      rw [bind_assoc]
      apply ConfinedAt.peek_bind one
      intro other otherFound
      split
      · next joined =>
          rw [pure_bind]
          apply second
          intro operator member
          rcases Option.map_eq_some_iff.mp member with ⟨precedence, _, rfl⟩
          have isEquals := Token.isMark_iff.mp (Bool.and_eq_true_iff.mp joined).1
          exact one.succ otherFound (isEquals ▸ rfl)
      · rw [pure_bind]
        exact second _ single
  · rw [pure_bind]
    exact second _ single

theorem operators (confined : nesting.Confined) (start minimum : Nat) (left : Expression) :
    Confined (.within depth) (.within depth) (operators nesting start minimum left) := by
  intro before
  apply binaryOperator?_bind
  intro found plain
  split
  · exact pure _ before
  · next operator =>
      split
      · exact pure _ before
      · apply confined.enter
        intro level levelConfined
        exact levelConfined.operator (plain operator rfl)

theorem binary (confined : nesting.Confined) (minimum : Nat) :
    Confined (.within depth) (.within depth) (binary nesting minimum) :=
  currentStart.bind fun start => (unary confined).bind fun left =>
    operators confined start minimum left

theorem operator (confined : nesting.Confined) {start minimum width precedence : Nat}
    {left : Expression} {mark : Punctuator} {before : Cursor} (plain : PlainAhead width before) :
    ConfinedAt before (.within depth) (.within depth)
      (operator nesting start minimum left mark width precedence) :=
  .skip_bind plain ((binary confined precedence).bind fun _ => (spanFrom start).bind fun _ =>
    operators confined start minimum _)

theorem conditional (confined : nesting.Confined) :
    Confined (.within depth) (.within depth) (conditional nesting) := by
  refine currentStart.bind fun start => (binary confined 0).bind fun condition =>
    (accept rfl).bind fun found => ?_
  split
  · exact confined.expression.bind fun _ => (expect rfl).bind fun _ =>
      confined.expression.bind fun _ => (spanFrom start).bind fun _ => pure _
  · exact pure _

/-! Arrow functions. -/

theorem arrowBody (confined : nesting.Confined) :
    Confined (.within depth) (.within depth) (arrowBody nesting) := by
  refine (atMark .openBrace).bind fun found => ?_
  split
  · exact functionBody.map
  · exact confined.expression.map

theorem parenthesizedArrow (confined : nesting.Confined) :
    Confined (.within depth) (.within depth) (parenthesizedArrow nesting) :=
  currentStart.bind fun start => (parameters confined true).bind fun _ =>
    (declaredType? confined).bind fun _ => (expect rfl).bind fun _ =>
    (arrowBody confined).bind fun _ => (spanFrom start).bind fun _ => pure _

theorem arrow? (confined : nesting.Confined) :
    Confined (.within depth) (.within depth) (arrow? nesting) := by
  intro before
  apply ConfinedAt.current_bind
  intro token found
  split
  · next isName =>
      have plain := PlainAhead.one found (isName ▸ rfl)
      apply ConfinedAt.kindAhead_bind plain
      intro second _
      split
      · rw [map_eq_pure_bind]
        have simpleArrow : ConfinedAt before (.within depth) (.within depth)
            (simpleArrow nesting) := by
          apply ConfinedAt.take_bind plain
          intro token after _
          exact (expect rfl).bind (fun _ => (arrowBody confined).bind fun _ =>
            (spanFrom token.start).bind fun _ => pure _) after
        apply simpleArrow.bind
        intro _ after _
        exact pure _ after
      · exact pure _ before
  · apply ConfinedAt.get_bind
    split
    · exact (parenthesizedArrow confined).map before
    · exact speculate (parenthesizedArrow confined).map before
    · exact pure _ before
  · exact pure _ before

/-! All expressions. -/

theorem assignment (confined : nesting.Confined) :
    Confined (.within depth) (.within depth) (assignment nesting) := by
  refine (arrow? confined).bind fun found => ?_
  split
  · exact pure _
  · refine currentStart.bind fun start => (conditional confined).bind fun left before => ?_
    apply ConfinedAt.current_bind
    intro token tokenFound
    split
    · next mark isMark =>
        split
        · next isAssignment =>
            apply ConfinedAt.take_bind
              (.one tokenFound (isMark ▸ mark.isPlain_of_isAssignment isAssignment))
            intro _ after _
            exact confined.expression.bind (fun _ => (spanFrom start).bind fun _ => pure _) after
        · exact pure _ before
    · exact pure _ before

end Confined

/-! The levels. -/

theorem Level.ofNesting_confined {nesting : Nesting} (confined : nesting.Confined) :
    (ofNesting nesting).Confined where
  type := .unionType confined
  arraySuffix := TypedScript.Confined.arraySuffix confined
  assignment := .assignment confined
  unary := .unary confined
  newExpression := .newExpression confined
  operator := TypedScript.Confined.operator confined
  suffix := TypedScript.Confined.suffix confined
  typedSuffix := .typedSuffix confined _ _ _ _

theorem Nesting.ofRoom_confined (rules : Rules) (room : Nat) : (ofRoom rules room).Confined := by
  induction room with
  | zero => exact ⟨fun none => by cases none⟩
  | succ room induction =>
      refine ⟨fun inner => ?_⟩
      cases inner
      exact Level.ofNesting_confined induction

end TypedScript
