import TypedScript.Proofs.Machine.Types

/-!
The productions for expressions, beside the rules of the grammar, and all levels put together.
-/

namespace TypedScript.Machine

open Parse

variable {depth : Nat} {calls : Calls} {nesting : Nesting}

theorem arguments_follows (agree : calls.Agree depth nesting) :
    Follows depth (List.map Expression.stored) (arguments calls) (Parse.arguments nesting) := by
  refine .of_lift _ fun _ => ?_
  apply (commaList_follows _ agree.expression).bind
  intro list
  exact .of_lift _ fun _ => .pure rfl

theorem arguments?_follows (agree : calls.Agree depth nesting) :
    Follows depth (Option.map (List.map Expression.stored)) (arguments? calls)
      (Parse.arguments? nesting) :=
  .of_lift _ fun _ => .ite ((arguments_follows agree).map fun _ => rfl) (.pure rfl)

/-! Objects, arrays and what stands for itself. -/

theorem literalKey_follows : Follows depth PropertyKey.stored literalKey Parse.literalKey := by
  refine .of_lift _ fun token => ?_
  rw [literalFromToken?_eq]
  cases literalOf? token with
  | none => exact identifierExpected_follows
  | some literal => exact .pure rfl

theorem propertyKey_follows : Follows depth PropertyKey.stored propertyKey Parse.propertyKey := by
  refine .of_lift _ fun token => ?_
  cases token.kind with
  | identifier | keyword => exact identifierName_follows.map fun _ => rfl
  | stringLiteral | numericLiteral => exact literalKey_follows
  | _ => exact identifierExpected_follows

theorem objectProperty_follows (agree : calls.Agree depth nesting) :
    Follows depth ObjectProperty.stored (objectProperty calls) (Parse.objectProperty nesting) := by
  refine .of_lift _ fun token => ?_
  apply propertyKey_follows.bind
  intro key
  refine .of_lift _ fun colon => .ite ?_ ?_
  · apply agree.expression.bind
    intro value
    apply (finish_follows _ token.start).bind
    intro span
    exact .pure rfl
  · cases key with
    | literal => exact unexpected_follows _
    | identifier name =>
        refine .ite ?_ (unexpected_follows _)
        apply (finish_follows _ token.start).bind
        intro span
        exact .pure rfl

theorem objectLiteral_follows (agree : calls.Agree depth nesting) :
    Follows depth Expression.stored (objectLiteral calls) (Parse.objectLiteral nesting) := by
  refine .of_lift _ fun start => .of_lift _ fun _ => ?_
  apply (commaList_follows _ (objectProperty_follows agree)).bind
  intro properties
  refine .of_lift _ fun _ => ?_
  apply (finish_follows _ start).bind
  intro span
  exact .pure (by simp)

theorem arrayLiteral_follows (agree : calls.Agree depth nesting) :
    Follows depth Expression.stored (arrayLiteral calls) (Parse.arrayLiteral nesting) := by
  refine .of_lift _ fun start => .of_lift _ fun _ => ?_
  apply (commaList_follows _ agree.expression).bind
  intro elements
  refine .of_lift _ fun _ => ?_
  apply (finish_follows _ start).bind
  intro span
  exact .pure (by simp)

theorem parenthesizedExpression_follows (agree : calls.Agree depth nesting) :
    Follows depth Expression.stored (parenthesizedExpression calls)
      (Parse.parenthesizedExpression nesting) := by
  refine .of_lift _ fun start => .of_lift _ fun _ => ?_
  apply agree.expression.bind
  intro inner
  refine .of_lift _ fun _ => ?_
  apply (finish_follows _ start).bind
  intro span
  exact .pure rfl

theorem literalOrName_follows :
    Follows depth Expression.stored literalOrName Parse.literalOrName := by
  refine .of_lift _ fun token => ?_
  rw [literalFromToken?_eq]
  cases literalOf? token <;> exact .pure rfl

theorem primaryExpression_follows (agree : calls.Agree depth nesting) :
    Follows depth Expression.stored (primaryExpression calls)
      (Parse.primaryExpression nesting) := by
  refine .of_lift _ fun token => ?_
  cases token.kind with
  | identifier | numericLiteral | stringLiteral => exact literalOrName_follows
  | punctuator mark =>
      cases mark with
      | openParen => exact parenthesizedExpression_follows agree
      | openBrace => exact objectLiteral_follows agree
      | openBracket => exact arrayLiteral_follows agree
      | _ => exact unexpected_follows _
  | _ => exact unexpected_follows _

/-! Accesses and calls. -/

theorem suffixes_leads (agree : calls.Agree depth nesting) (start : Nat) (allowCalls : Bool)
    (base : Expression) :
    Leads depth Expression.stored (suffixes calls start allowCalls base.stored)
      (Parse.suffixes nesting start allowCalls base) := by
  have stays : Leads depth Expression.stored (pure base.stored) (pure base) :=
    (Follows.pure rfl).leads
  have goesOn : Leads depth Expression.stored
      (deepen calls.limit .expression >>= fun _ => calls.suffix start allowCalls base.stored)
      (nesting.enter .expression >>= (·.suffix start allowCalls base)) :=
    agree.deepen fun _ follow => follow.suffix start allowCalls base
  refine .of_lift _ fun token => ?_
  cases token.kind with
  | punctuator mark =>
      cases mark with
      | dot | questionDot | openBracket => exact goesOn
      | openParen => exact .ite goesOn stays
      | lessThan =>
          refine .ite ((typeArgumentsInExpression?_follows agree).bindLeads ?_) stays
          intro typeArguments
          cases typeArguments with
          | none => exact stays
          | some typeArguments =>
              exact agree.deepen fun _ follow =>
                follow.typedSuffix start allowCalls base typeArguments
      | _ => exact stays
  | _ => exact stays

theorem suffix_leads (agree : calls.Agree depth nesting) (start : Nat) (allowCalls : Bool)
    (base : Expression) :
    Leads depth Expression.stored (suffix calls start allowCalls base.stored)
      (Parse.suffix nesting start allowCalls base) := by
  have property : Leads depth Expression.stored
      (do
        let optional := (← take).isMark .questionDot
        let name ← identifierName
        suffixes calls start allowCalls (.property
          (← finish (.node .propertyAccessExpression) start) base.stored name optional))
      (do
        let optional := (← take).isMark .questionDot
        let name ← Parse.identifierName
        Parse.suffixes nesting start allowCalls
          (.property (← spanFrom start) base name optional)) := by
    refine .of_lift _ fun mark => ?_
    apply identifierName_follows.bindLeads
    intro name
    apply (finish_follows _ start).bindLeads
    intro span
    exact suffixes_leads agree start allowCalls
      (.property span base name (mark.isMark .questionDot))
  refine .of_lift _ fun token => ?_
  cases token.kind with
  | punctuator mark =>
      cases mark with
      | openBracket =>
          refine .of_lift _ fun _ => ?_
          apply agree.expression.bindLeads
          intro index
          refine .of_lift _ fun _ => ?_
          apply (finish_follows _ start).bindLeads
          intro span
          exact suffixes_leads agree start allowCalls (.element span base index)
      | openParen =>
          apply (arguments_follows agree).bindLeads
          intro arguments
          apply (finish_follows _ start).bindLeads
          intro span
          have further := suffixes_leads agree start allowCalls (.call span base none arguments)
          simpa using further
      | _ => exact property
  | _ => exact property

theorem typedSuffix_leads (agree : calls.Agree depth nesting) (start : Nat) (allowCalls : Bool)
    (base : Expression) (typeArguments : List TypeExpr) :
    Leads depth Expression.stored
      (typedSuffix calls start allowCalls base.stored (typeArguments.map TypeExpr.stored))
      (Parse.typedSuffix nesting start allowCalls base typeArguments) := by
  refine .of_lift _ fun opens => .ite ?_ ?_
  · apply (arguments_follows agree).bindLeads
    intro arguments
    apply (finish_follows _ start).bindLeads
    intro span
    have further :=
      suffixes_leads agree start allowCalls (.call span base (some typeArguments) arguments)
    simpa using further
  · apply (finish_follows _ start).bindLeads
    intro span
    have further :=
      suffixes_leads agree start allowCalls (.instantiation span base typeArguments)
    simpa using further

theorem memberSuffix_follows (agree : calls.Agree depth nesting) (start : Nat)
    (allowCalls : Bool) (base : Expression) :
    Follows depth Expression.stored (memberSuffix calls start allowCalls base.stored)
      (Parse.suffixes nesting start allowCalls base) :=
  (suffixes_leads agree start allowCalls base).chained

theorem newBase_follows (agree : calls.Agree depth nesting) :
    Follows depth Expression.stored (newBase calls) (Parse.newBase nesting) := by
  refine .of_lift _ fun token => .ite ?_ (primaryExpression_follows agree)
  exact agree.nested fun _ follow => follow.newExpression

theorem newExpression_follows (agree : calls.Agree depth nesting) :
    Follows depth Expression.stored (newExpression calls) (Parse.newExpression nesting) := by
  refine .of_lift _ fun start => .of_lift _ fun _ => .of_lift _ fun baseStart => ?_
  apply (newBase_follows agree).bind
  intro base
  apply (memberSuffix_follows agree baseStart false base).bind
  intro callee
  apply (typeArgumentsInExpression?_follows agree).bind
  intro typeArguments
  apply (arguments?_follows agree).bind
  intro arguments
  apply (finish_follows _ start).bind
  intro span
  exact .pure (by simp)

theorem leftHandBase_follows (agree : calls.Agree depth nesting) :
    Follows depth Expression.stored (leftHandBase calls) (Parse.leftHandBase nesting) :=
  .of_lift _ fun _ => .ite (newExpression_follows agree) (primaryExpression_follows agree)

theorem leftHandSide_follows (agree : calls.Agree depth nesting) :
    Follows depth Expression.stored (leftHandSide calls) (Parse.leftHandSide nesting) := by
  refine .of_lift _ fun start => ?_
  apply (leftHandBase_follows agree).bind
  intro base
  exact memberSuffix_follows agree start true base

/-! Operators. -/

theorem unary_follows (agree : calls.Agree depth nesting) :
    Follows depth Expression.stored (unary calls) (Parse.unary nesting) := by
  refine .of_lift _ fun token => ?_
  cases token.kind with
  | punctuator mark =>
      refine .ite (.of_lift _ fun _ => ?_) (leftHandSide_follows agree)
      have operand : Follows depth Expression.stored (nested calls.limit .expression calls.unary)
          (nesting.enter .expression >>= Level.unary) :=
        agree.nested fun _ follow => follow.unary
      have whole : Follows depth Expression.stored
          (do
            let operand ← nested calls.limit .expression calls.unary
            return .unary (← finish (.node .prefixUnaryExpression) token.start) mark operand)
          (do
            let operand ← nesting.enter .expression >>= Level.unary
            return .unary (← spanFrom token.start) mark operand) := by
        apply operand.bind
        intro operand
        apply (finish_follows _ token.start).bind
        intro span
        exact .pure rfl
      simpa only [bind_assoc] using whole
  | _ => exact leftHandSide_follows agree

theorem operators_leads (agree : calls.Agree depth nesting) (start minimum : Nat)
    (left : Expression) :
    Leads depth Expression.stored (operators calls start minimum left.stored)
      (Parse.operators nesting start minimum left) := by
  have stays : Leads depth Expression.stored (pure left.stored) (pure left) :=
    (Follows.pure rfl).leads
  refine .of_lift _ fun found => ?_
  cases found with
  | none => exact stays
  | some operator =>
      refine .ite stays ?_
      exact agree.deepen fun _ follow =>
        follow.operator start minimum left operator.mark operator.width operator.precedence

theorem binary_follows (agree : calls.Agree depth nesting) (minimum : Nat) :
    Follows depth Expression.stored (binary calls minimum) (Parse.binary nesting minimum) := by
  refine .of_lift _ fun start => ?_
  apply (unary_follows agree).bind
  intro left
  exact (operators_leads agree start minimum left).chained

theorem operator_leads (agree : calls.Agree depth nesting) (start minimum : Nat)
    (left : Expression) (mark : Punctuator) (width precedence : Nat) :
    Leads depth Expression.stored (operator calls start minimum left.stored mark width precedence)
      (Parse.operator nesting start minimum left mark width precedence) := by
  refine .of_lift _ fun _ => ?_
  apply (binary_follows agree precedence).bindLeads
  intro right
  apply (finish_follows _ start).bindLeads
  intro span
  exact operators_leads agree start minimum (.binary span left mark right)

theorem conditional_follows (agree : calls.Agree depth nesting) :
    Follows depth Expression.stored (conditional calls) (Parse.conditional nesting) := by
  refine .of_lift _ fun start => ?_
  apply (binary_follows agree 0).bind
  intro condition
  refine .of_lift _ fun question => .ite ?_ (.pure rfl)
  apply agree.expression.bind
  intro whenTrue
  refine .of_lift _ fun _ => ?_
  apply agree.expression.bind
  intro whenFalse
  apply (finish_follows _ start).bind
  intro span
  exact .pure rfl

/-! Arrow functions. -/

theorem arrowBody_follows (agree : calls.Agree depth nesting) :
    Follows depth ArrowBody.stored (arrowBody calls) (Parse.arrowBody nesting) := by
  refine .of_lift _ fun opens => .ite ?_ ?_
  · exact functionBody_follows.map fun _ => rfl
  · exact agree.expression.map fun _ => rfl

theorem simpleArrow_follows (agree : calls.Agree depth nesting) :
    Follows depth Expression.stored (simpleArrow calls) (Parse.simpleArrow nesting) := by
  refine .of_lift _ fun token => .of_lift _ fun _ => ?_
  apply (arrowBody_follows agree).bind
  intro body
  apply (finish_follows _ token.start).bind
  intro span
  exact .pure (by simp [identifierFromToken, identifierOf, Identifier.stored])

theorem parenthesizedArrow_follows (agree : calls.Agree depth nesting) :
    Follows depth Expression.stored (parenthesizedArrow calls)
      (Parse.parenthesizedArrow nesting) := by
  refine .of_lift _ fun start => ?_
  apply (parameters_follows agree true).bind
  intro parameters
  apply (declaredType?_follows agree).bind
  intro result
  refine .of_lift _ fun _ => ?_
  apply (arrowBody_follows agree).bind
  intro body
  apply (finish_follows _ start).bind
  intro span
  exact .pure (by simp)

theorem arrow?_follows (agree : calls.Agree depth nesting) :
    Follows depth (Option.map Expression.stored) (arrow? calls) (Parse.arrow? nesting) := by
  have final : nesting.rules.isFinal = SyntaxError.isFinal := congrArg Rules.isFinal agree.rules
  have parenthesized : Follows depth (Option.map Expression.stored)
      (some <$> parenthesizedArrow calls) (some <$> Parse.parenthesizedArrow nesting) :=
    (parenthesizedArrow_follows agree).map fun _ => rfl
  unfold Parse.arrow?
  rw [final]
  refine .of_lift _ fun token => ?_
  cases token.kind with
  | identifier =>
      refine .of_lift _ fun next => .ite ?_ (.pure rfl)
      exact (simpleArrow_follows agree).map fun _ => rfl
  | punctuator mark =>
      cases mark with
      | openParen =>
          refine .of_get fun cursor => ?_
          dsimp only
          cases arrowLookahead cursor.ahead with
          | arrow => exact parenthesized
          | ambiguous => exact speculate_follows parenthesized
          | notArrow => exact .pure rfl
      | _ => exact .pure rfl
  | _ => exact .pure rfl

/-! All expressions. -/

theorem assignment_follows (agree : calls.Agree depth nesting) :
    Follows depth Expression.stored (assignment calls) (Parse.assignment nesting) := by
  apply (arrow?_follows agree).bind
  intro arrow
  cases arrow with
  | some arrow => exact .pure rfl
  | none =>
      refine .of_lift _ fun start => ?_
      apply (conditional_follows agree).bind
      intro left
      refine .of_lift _ fun token => ?_
      cases token.kind with
      | punctuator mark =>
          refine .ite (.of_lift _ fun _ => ?_) (.pure rfl)
          apply agree.expression.bind
          intro right
          apply (finish_follows _ start).bind
          intro span
          exact .pure rfl
      | _ => exact .pure rfl

/-! The levels. -/

namespace Calls

theorem Agree.ofCalls (agree : calls.Agree depth nesting) :
    calls.ofCalls.Follow depth (.ofNesting nesting) where
  type := unionType_follows agree
  arraySuffix := arraySuffix_leads agree
  assignment := assignment_follows agree
  unary := unary_follows agree
  newExpression := newExpression_follows agree
  operator := operator_leads agree
  suffix := suffix_leads agree
  typedSuffix := typedSuffix_leads agree

@[simp] theorem ofRoom_limit (bottom : Calls) (room : Nat) :
    (ofRoom bottom room).limit = bottom.limit := by
  induction room with
  | zero => rfl
  | succ room induction => exact induction

/-- Where a depth and the room below it make up the limit, it does not matter what lies at the
bottom: the level is refused before anything there is called. -/
theorem ofRoom_agree (bottom : Calls) {room : Nat} (whole : depth + room = bottom.limit) :
    (ofRoom bottom room).Agree depth (.ofRoom (.ofLimit bottom.limit) room) := by
  induction room generalizing depth with
  | zero =>
      refine ⟨rfl, fun _ => Nat.le_of_eq whole.symm, ?_⟩
      intro level inner
      cases inner
  | succ room induction =>
      have below : (ofRoom bottom room).Agree (depth + 1) (.ofRoom (.ofLimit bottom.limit) room) :=
        induction (by omega)
      refine ⟨?_, ?_, ?_⟩
      · rw [ofRoom_limit]
        rfl
      · intro inner
        cases inner
      · intro level inner
        cases inner
        rw [ofRoom_limit]
        exact ⟨by omega, below.ofCalls⟩

theorem outermost_agree (limit : Nat) :
    (outermost limit).Agree 0 (.outermost (.ofLimit limit)) :=
  ofRoom_agree (bottom limit) (Nat.zero_add limit)

end Calls

end TypedScript.Machine
