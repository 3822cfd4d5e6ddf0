import TypedScript.Proofs.Rerun.Types
import TypedScript.Proofs.TwoRuns.Expressions

/-!
The rules for expressions in both runs, and the levels that they make up.
-/

namespace TypedScript

namespace Rerun

open Parse

variable {rerun : Rerun} {outer otherOuter : Nesting} {expected : List Punctuator}
  {left right : Cursor} {token : Token}

theorem arguments_begins (nestings : rerun.Nestings outer otherOuter) :
    rerun.Begins (arguments outer) (arguments otherOuter) :=
  bracketed_begins rfl (fun _ => commaList_alike _ nestings.expression.alike) fun _ _ => .pure _

theorem arguments?_alike (nestings : rerun.Nestings outer otherOuter) :
    rerun.Alike (arguments? outer) (arguments? otherOuter) := by
  intro expected
  apply (atMark_alike (by decide) expected).bind
  intro found
  exact .branch (((arguments_begins nestings).alike expected).map _) (.pure _)

/-! Objects and arrays. -/

theorem propertyKey_begins : rerun.Begins propertyKey propertyKey := by
  apply Begins.current
  · intro last closer isEnd isCloser
    rw [isEnd, isCloser]
    exact identifierExpected_over
  · intro expected left right token related seen otherSeen
    have names : rerun.AlikeFrom expected left right (PropertyKey.identifier <$> identifierName)
        (PropertyKey.identifier <$> identifierName) :=
      (identifierName_begins.alike expected).map _ related
    have literal (plain : token.kind.isBracket = false) :
        rerun.AlikeFrom expected left right literalKey literalKey := by
      have later := related.next seen otherSeen plain
      rw [AlikeFrom, literalKey, take_bind seen, take_bind otherSeen]
      cases literalOf? token with
      | some constant => exact .ok rfl later
      | none => exact identifierExpected_alike expected later
    change rerun.AlikeFrom expected left right _ _
    split
    · exact names
    · exact names
    · next kind => exact literal (by rw [kind]; rfl)
    · next kind => exact literal (by rw [kind]; rfl)
    · exact identifierExpected_alike expected related

theorem objectProperty_begins (nestings : rerun.Nestings outer otherOuter) :
    rerun.Begins (objectProperty outer) (objectProperty otherOuter) := by
  apply Begins.current
  · intro last closer _ _
    exact propertyKey_begins.ended.bind _ _
  · intro expected left right token related _ _
    refine AlikeAt.bind (propertyKey_begins.alike expected) (fun key => ?_) related
    apply (accept_alike rfl expected).bind
    intro found
    apply AlikeAt.branch
    · apply (nestings.expression.alike expected).bind
      intro value
      exact (spanFrom_alike token.start expected).bind fun span => .pure _
    · cases key with
      | identifier name =>
          apply AlikeAt.branch
          · exact (spanFrom_alike token.start expected).bind fun span => .pure _
          · exact unexpected_alike _ expected
      | literal => exact unexpected_alike _ expected

theorem objectLiteral_begins (nestings : rerun.Nestings outer otherOuter) :
    rerun.Begins (objectLiteral outer) (objectLiteral otherOuter) := by
  refine .start (fun _ _ => (expect_over (by decide)).bind _ _) fun start => ?_
  apply (bracketed_begins rfl
    (fun _ => commaList_alike _ (objectProperty_begins nestings).alike) ?_).alike
  intro properties expected
  exact (spanFrom_alike start expected).bind fun span => .pure _

theorem arrayLiteral_begins (nestings : rerun.Nestings outer otherOuter) :
    rerun.Begins (arrayLiteral outer) (arrayLiteral otherOuter) := by
  refine .start (fun _ _ => (expect_over (by decide)).bind _ _) fun start => ?_
  apply (bracketed_begins rfl (fun _ => commaList_alike _ nestings.expression.alike) ?_).alike
  intro elements expected
  exact (spanFrom_alike start expected).bind fun span => .pure _

theorem parenthesizedExpression_begins (nestings : rerun.Nestings outer otherOuter) :
    rerun.Begins (parenthesizedExpression outer) (parenthesizedExpression otherOuter) := by
  refine .start (fun _ _ => (expect_over (by decide)).bind _ _) fun start => ?_
  apply (bracketed_begins rfl (fun expected => nestings.expression.alike (_ :: expected)) ?_).alike
  intro inner expected
  exact (spanFrom_alike start expected).bind fun span => .pure _

theorem literalOrName_outcome (related : rerun.Related expected left right)
    (seen : left.peek 0 = .ok token) (otherSeen : right.peek 0 = .ok token)
    (plain : token.kind.isBracket = false) :
    rerun.AlikeFrom expected left right literalOrName literalOrName := by
  have later := related.next seen otherSeen plain
  rw [AlikeFrom, literalOrName, take_bind seen, take_bind otherSeen]
  cases literalOf? token with
  | some literal => exact .ok rfl later
  | none => exact .ok rfl later

theorem primaryExpression_begins (nestings : rerun.Nestings outer otherOuter) :
    rerun.Begins (primaryExpression outer) (primaryExpression otherOuter) := by
  apply Begins.current
  · intro last closer isEnd isCloser
    rw [isEnd, isCloser]
    exact unexpected_over _ _
  · intro expected left right token related seen otherSeen
    change rerun.AlikeFrom expected left right _ _
    split
    · next kind => exact literalOrName_outcome related seen otherSeen (by rw [kind]; rfl)
    · next kind => exact literalOrName_outcome related seen otherSeen (by rw [kind]; rfl)
    · next kind => exact literalOrName_outcome related seen otherSeen (by rw [kind]; rfl)
    · exact (parenthesizedExpression_begins nestings).alike expected related
    · exact (objectLiteral_begins nestings).alike expected related
    · exact (arrayLiteral_begins nestings).alike expected related
    · exact unexpected_alike _ expected related

/-! Accesses and calls. -/

section Suffixes

variable (start : Nat) (allowCalls : Bool) (base : Expression)

theorem suffixes_alike (nestings : rerun.Nestings outer otherOuter) :
    rerun.Alike (suffixes outer start allowCalls base)
      (suffixes otherOuter start allowCalls base) := by
  intro expected left right related
  apply current_outcome related
  · intro token seen otherSeen
    have deeper (isSuffix : token.kind ∈ [.punctuator .dot, .punctuator .questionDot,
        .punctuator .openBracket, .punctuator .openParen]) :
        rerun.AlikeFrom expected left right
          (outer.enter .expression >>= fun level => level.suffix start allowCalls base)
          (otherOuter.enter .expression >>= fun level => level.suffix start allowCalls base) := by
      apply nestings.enter_outcome
      intro level other levels
      exact levels.suffix start allowCalls base related ⟨token, seen, otherSeen, isSuffix⟩
    have none : rerun.AlikeFrom expected left right (pure base) (pure base) := .ok rfl related
    change rerun.AlikeFrom expected left right _ _
    split
    · next kind => exact deeper (by simp [kind])
    · next kind => exact deeper (by simp [kind])
    · next kind => exact deeper (by simp [kind])
    · next kind =>
        split
        · exact deeper (by simp [kind])
        · exact none
    · split
      · apply (typeArgumentsInExpression?_alike nestings expected related).bind
        rintro found _ _ _ rfl later
        cases found with
        | none => exact .ok rfl later
        | some types =>
            apply nestings.enter_outcome
            intro level other levels
            exact levels.typedSuffix start allowCalls base types expected later
      · exact none
    · exact none
  · intro _ last closer isEnd isCloser
    rw [isEnd, isCloser]
    exact .ok rfl related

theorem suffix_outcome (nestings : rerun.Nestings outer otherOuter)
    (related : rerun.Related expected left right) (atSuffix : AtSuffix left right) :
    rerun.Outcome (rerun.Related expected) Eq (suffix outer start allowCalls base left)
      (suffix otherOuter start allowCalls base right) := by
  rcases atSuffix with ⟨token, seen, otherSeen, isSuffix⟩
  apply current_inside (seen.trans otherSeen.symm)
  intro again sameSeen _
  cases seen.symm.trans sameSeen
  change rerun.AlikeFrom expected left right _ _
  split
  · next kind =>
      rw [AlikeFrom, take_bind seen, take_bind otherSeen]
      have opened : rerun.Related (.closeBracket :: expected) left.next right.next :=
        related.next_open seen otherSeen (by rw [kind]; rfl)
      apply (nestings.expression.alike _ opened).bind
      rintro index _ _ _ rfl reached
      apply (expect_close rfl related.fits reached).bind
      intro _ _ _ _ _ closed
      exact ((spanFrom_alike start expected).bind fun span =>
        suffixes_alike start allowCalls _ nestings expected) closed
  · apply ((arguments_begins nestings).alike expected related).bind
    rintro arguments _ _ _ rfl later
    exact ((spanFrom_alike start expected).bind fun span =>
      suffixes_alike start allowCalls _ nestings expected) later
  · next noBracket noParen =>
      have plain : token.kind.isBracket = false := by
        simp only [List.mem_cons, List.not_mem_nil, or_false] at isSuffix
        rcases isSuffix with kind | kind | kind | kind
        · rw [kind]; rfl
        · rw [kind]; rfl
        · exact absurd kind noBracket
        · exact absurd kind noParen
      rw [AlikeFrom, take_bind seen, take_bind otherSeen]
      apply (identifierName_begins.alike expected (related.next seen otherSeen plain)).bind
      rintro name _ _ _ rfl later
      exact ((spanFrom_alike start expected).bind fun span =>
        suffixes_alike start allowCalls _ nestings expected) later

theorem typedSuffix_alike (nestings : rerun.Nestings outer otherOuter) (types : List TypeExpr) :
    rerun.Alike (typedSuffix outer start allowCalls base types)
      (typedSuffix otherOuter start allowCalls base types) := by
  intro expected
  apply (atMark_alike (by decide) expected).bind
  intro found
  apply AlikeAt.branch
  · apply ((arguments_begins nestings).alike expected).bind
    intro arguments
    exact (spanFrom_alike start expected).bind fun span =>
      suffixes_alike start allowCalls _ nestings expected
  · exact (spanFrom_alike start expected).bind fun span =>
      suffixes_alike start allowCalls _ nestings expected

end Suffixes

theorem newExpression_begins (nestings : rerun.Nestings outer otherOuter) :
    rerun.Begins (newExpression outer) (newExpression otherOuter) := by
  have newBases : rerun.Begins (newBase outer) (newBase otherOuter) := by
    have deeper : rerun.Begins (outer.enter .expression >>= fun level => level.newExpression)
        (otherOuter.enter .expression >>= fun level => level.newExpression) :=
      nestings.enter_begins _ fun _ _ levels => levels.newExpression
    apply Begins.current
    · intro last closer isEnd isCloser
      rw [if_neg (by simp [isEnd]), if_neg (by simp [isCloser])]
      exact (primaryExpression_begins nestings).ended
    · intro expected left right token related _ _
      exact AlikeAt.branch (deeper.alike expected)
        ((primaryExpression_begins nestings).alike expected) related
  refine .start (fun _ _ => (expectKeyword_begins _).ended.bind _ _) fun start expected => ?_
  apply ((expectKeyword_begins _).alike expected).bind
  intro _
  have rest : rerun.Begins
      (do
        let baseStart ← currentStart
        let base ← newBase outer
        let callee ← suffixes outer baseStart false base
        let typeArguments ← typeArgumentsInExpression? outer
        let arguments ← arguments? outer
        return Expression.new (← spanFrom start) callee typeArguments arguments)
      (do
        let baseStart ← currentStart
        let base ← newBase otherOuter
        let callee ← suffixes otherOuter baseStart false base
        let typeArguments ← typeArgumentsInExpression? otherOuter
        let arguments ← arguments? otherOuter
        return Expression.new (← spanFrom start) callee typeArguments arguments) := by
    refine .start (fun _ _ => newBases.ended.bind _ _) fun baseStart expected => ?_
    apply (newBases.alike expected).bind
    intro base
    apply (suffixes_alike baseStart false base nestings expected).bind
    intro callee
    apply (typeArgumentsInExpression?_alike nestings expected).bind
    intro types
    apply (arguments?_alike nestings expected).bind
    intro arguments
    exact (spanFrom_alike start expected).bind fun span => .pure _
  exact rest.alike expected

theorem leftHandSide_begins (nestings : rerun.Nestings outer otherOuter) :
    rerun.Begins (leftHandSide outer) (leftHandSide otherOuter) := by
  have leftHandBases : rerun.Begins (leftHandBase outer) (leftHandBase otherOuter) := by
    apply Begins.current
    · intro last closer isEnd isCloser
      rw [if_neg (by simp [isEnd]), if_neg (by simp [isCloser])]
      exact (primaryExpression_begins nestings).ended
    · intro expected left right token related _ _
      exact AlikeAt.branch ((newExpression_begins nestings).alike expected)
        ((primaryExpression_begins nestings).alike expected) related
  refine .start (fun _ _ => leftHandBases.ended.bind _ _) fun start expected => ?_
  apply (leftHandBases.alike expected).bind
  intro base
  exact suffixes_alike start true base nestings expected

/-! Operators. -/

theorem unary_begins (nestings : rerun.Nestings outer otherOuter) :
    rerun.Begins (unary outer) (unary otherOuter) := by
  apply Begins.current
  · intro last closer isEnd isCloser
    rw [isEnd, isCloser]
    exact (leftHandSide_begins nestings).ended
  · intro expected left right token related seen otherSeen
    change rerun.AlikeFrom expected left right _ _
    split
    · next mark kind =>
        split
        · next isUnary =>
            have plain : token.kind.isBracket = false := by
              rw [kind]
              cases mark <;> first | rfl | cases isUnary
            rw [AlikeFrom, take_bind seen, take_bind otherSeen]
            have operand : rerun.AlikeAt expected
                (do
                  let operand ← (← outer.enter .expression).unary
                  return Expression.unary (← spanFrom token.start) mark operand)
                (do
                  let operand ← (← otherOuter.enter .expression).unary
                  return Expression.unary (← spanFrom token.start) mark operand) := by
              apply nestings.enter
              intro level other levels
              apply (levels.unary.alike expected).bind
              intro operand
              exact (spanFrom_alike token.start expected).bind fun span => .pure _
            exact operand (related.next seen otherSeen plain)
        · exact (leftHandSide_begins nestings).alike expected related
    · exact (leftHandSide_begins nestings).alike expected related

theorem binaryOperator?_outcome (related : rerun.Related expected left right) :
    rerun.Outcome (fun after otherAfter => after = left ∧ otherAfter = right)
      (fun found other => found = other ∧ ∀ operator ∈ found,
        rerun.Related expected (left.skip operator.width) (right.skip operator.width))
      (binaryOperator? left) (binaryOperator? right) := by
  apply current_outcome related
  · intro token seen otherSeen
    have single : ∀ operator ∈ (token.kind.punctuator?.bind fun mark => mark.precedence?.map fun
        precedence => BinaryOperator.mk mark 1 precedence),
        rerun.Related expected (left.skip operator.width) (right.skip operator.width) := by
      intro operator member
      rcases Option.bind_eq_some_iff.mp member with ⟨mark, marked, member⟩
      rcases Option.map_eq_some_iff.mp member with ⟨precedence, binds, rfl⟩
      refine related.next seen otherSeen ?_
      rw [TokenKind.punctuator?_eq_some_iff.mp marked]
      cases mark <;> first | rfl | cases binds
    split
    · next isAngle =>
        have passed := related.next seen otherSeen (by rw [Token.isMark_iff.mp isAngle]; rfl)
        apply peek_outcome 1 passed
        · rintro second (secondSeen : left.next.peek 0 = _)
            (otherSecondSeen : right.next.peek 0 = _)
          split
          · next joined =>
              simp only [Bool.and_eq_true] at joined
              refine .ok ⟨rfl, fun operator member => ?_⟩ ⟨rfl, rfl⟩
              rcases Option.map_eq_some_iff.mp member with ⟨_, _, rfl⟩
              exact passed.next secondSeen otherSecondSeen
                (by rw [Token.isMark_iff.mp joined.1]; rfl)
          · exact .ok ⟨rfl, single⟩ ⟨rfl, rfl⟩
        · intro last closer isEnd isCloser
          rw [isMark_end isEnd, isMark_closer isCloser (by decide)]
          exact .ok ⟨rfl, single⟩ ⟨rfl, rfl⟩
    · exact .ok ⟨rfl, single⟩ ⟨rfl, rfl⟩
  · intro _ last closer isEnd isCloser
    simp only [isMark_end isEnd, isMark_closer isCloser (by decide : Punctuator.greaterThan ≠ _),
      isEnd, isCloser]
    exact .ok ⟨rfl, nofun⟩ ⟨rfl, rfl⟩

section Operators

variable (start minimum : Nat) (operand : Expression)

theorem operators_alike (nestings : rerun.Nestings outer otherOuter) :
    rerun.Alike (operators outer start minimum operand)
      (operators otherOuter start minimum operand) := by
  intro expected left right related
  apply (binaryOperator?_outcome related).bind
  rintro found _ _ _ ⟨rfl, passes⟩ ⟨rfl, rfl⟩
  cases found with
  | none => exact .ok rfl related
  | some operator =>
      dsimp only
      split
      · exact .ok rfl related
      · apply nestings.enter_outcome
        intro level other levels
        exact levels.operator start minimum operand _ _ (passes operator rfl)

theorem binary_begins (nestings : rerun.Nestings outer otherOuter) :
    rerun.Begins (binary outer minimum) (binary otherOuter minimum) := by
  refine .start (fun _ _ => (unary_begins nestings).ended.bind _ _) fun start expected => ?_
  apply ((unary_begins nestings).alike expected).bind
  intro operand
  exact operators_alike start minimum operand nestings expected

theorem operator_outcome (nestings : rerun.Nestings outer otherOuter) (mark : Punctuator)
    (precedence : Nat) {width : Nat}
    (related : rerun.Related expected (left.skip width) (right.skip width)) :
    rerun.Outcome (rerun.Related expected) Eq
      (operator outer start minimum operand mark width precedence left)
      (operator otherOuter start minimum operand mark width precedence right) := by
  have rest : rerun.AlikeAt expected
      (do
        let right ← binary outer precedence
        operators outer start minimum (.binary (← spanFrom start) operand mark right))
      (do
        let right ← binary otherOuter precedence
        operators otherOuter start minimum (.binary (← spanFrom start) operand mark right)) := by
    apply ((binary_begins precedence nestings).alike expected).bind
    intro right
    exact (spanFrom_alike start expected).bind fun span =>
      operators_alike start minimum _ nestings expected
  exact rest related

end Operators

theorem conditional_begins (nestings : rerun.Nestings outer otherOuter) :
    rerun.Begins (conditional outer) (conditional otherOuter) := by
  refine .start (fun _ _ => (binary_begins 0 nestings).ended.bind _ _) fun start expected => ?_
  apply ((binary_begins 0 nestings).alike expected).bind
  intro condition
  apply (accept_alike rfl expected).bind
  intro found
  apply AlikeAt.branch
  · apply (nestings.expression.alike expected).bind
    intro whenTrue
    apply ((expect_begins rfl).alike expected).bind
    intro _
    apply (nestings.expression.alike expected).bind
    intro whenFalse
    exact (spanFrom_alike start expected).bind fun span => .pure _
  · exact .pure _

/-! Arrow functions. -/

/-- Both runs take parentheses for the parameters of an arrow function, or neither does. -/
theorem arrowLookahead_eq (related : rerun.Related expected left right)
    (seen : left.peek 0 = .ok token) (otherSeen : right.peek 0 = .ok token)
    (opens : token.kind = .punctuator .openParen) :
    arrowLookahead left.ahead = arrowLookahead right.ahead := by
  rcases related.places with ⟨_, rfl⟩ | within
  · rfl
  rcases Cursor.ahead_of_peek seen (by simp [opens]) with ⟨rest, ahead⟩
  have balance := within.balance
  rw [ahead, balances_open (by rw [opens]; rfl)] at balance
  rcases exists_afterParens [] balance with ⟨after, _, remains, found⟩
  have afterFirst (more : List Token) :
      afterParens? 0 (token :: rest ++ more) = some (after ++ more) := by
    rw [List.cons_append, afterParens?_cons, if_pos (Token.isMark_iff.mpr opens)]
    exact found more
  rw [within.ahead, ahead, arrowLookahead, arrowLookahead, afterFirst]
  have leftFirst := afterFirst []
  rw [List.append_nil, List.append_nil] at leftFirst
  rw [leftFirst]
  cases after with
  | cons next after => rfl
  | nil =>
      -- Outside of all brackets a closing parenthesis comes next.
      cases tail : rerun.tail with
      | nil => rfl
      | cons closer later =>
          have isCloser := related.fits (balances_nil.mp remains) closer (by simp [tail])
          simp [isMark_closer isCloser]

theorem arrowBody_begins (nestings : rerun.Nestings outer otherOuter) :
    rerun.Begins (arrowBody outer) (arrowBody otherOuter) := by
  refine ⟨fun expected => ?_, ?_⟩
  · apply (atMark_alike (by decide) expected).bind
    intro found
    exact .branch ((functionBody_begins.alike expected).map _)
      ((nestings.expression.alike expected).map _)
  · rw [arrowBody, arrowBody, atMark, bind_assoc, bind_assoc]
    apply FailsOver.current
    intro last closer isEnd isCloser
    rw [pure_bind, pure_bind, isMark_end isEnd, isMark_closer isCloser (by decide)]
    exact nestings.expression.ended.map _ _

theorem simpleArrow_outcome (nestings : rerun.Nestings outer otherOuter)
    (related : rerun.Related expected left right) (seen : left.peek 0 = .ok token)
    (otherSeen : right.peek 0 = .ok token) (plain : token.kind.isBracket = false) :
    rerun.Outcome (rerun.Related expected) Eq (simpleArrow outer left)
      (simpleArrow otherOuter right) := by
  rw [simpleArrow, simpleArrow, take_bind seen, take_bind otherSeen]
  apply ((expect_begins rfl).alike expected (related.next seen otherSeen plain)).bind
  intro _ _ _ _ _ later
  apply ((arrowBody_begins nestings).alike expected later).bind
  rintro body _ _ _ rfl last
  exact ((spanFrom_alike token.start expected).bind fun span => .pure _) last

theorem parenthesizedArrow_begins (nestings : rerun.Nestings outer otherOuter) :
    rerun.Begins (parenthesizedArrow outer) (parenthesizedArrow otherOuter) := by
  refine .start (fun _ _ => (parameters_begins nestings true).ended.bind _ _)
    fun start expected => ?_
  apply ((parameters_begins nestings true).alike expected).bind
  intro parameters
  apply (declaredType?_alike nestings expected).bind
  intro result
  apply ((expect_begins rfl).alike expected).bind
  intro _
  apply ((arrowBody_begins nestings).alike expected).bind
  intro body
  exact (spanFrom_alike start expected).bind fun span => .pure _

theorem arrow?_alike (nestings : rerun.Nestings outer otherOuter) :
    rerun.Alike (arrow? outer) (arrow? otherOuter) := by
  intro expected left right related
  have absent : rerun.AlikeFrom expected left right (pure (none : Option Expression))
      (pure none) := .ok rfl related
  have parenthesized : rerun.AlikeAt expected (some <$> parenthesizedArrow outer)
      (some <$> parenthesizedArrow otherOuter) :=
    ((parenthesizedArrow_begins nestings).alike expected).map _
  apply current_outcome related
  · intro token seen otherSeen
    change rerun.AlikeFrom expected left right _ _
    split
    · next kind =>
        have plain : token.kind.isBracket = false := by rw [kind]; rfl
        apply kindAhead_outcome 1 (related.next seen otherSeen plain)
        · intro next _ _
          split
          · rw [map_eq_pure_bind, map_eq_pure_bind]
            apply (simpleArrow_outcome nestings related seen otherSeen plain).bind
            rintro function _ _ _ rfl later
            exact .ok rfl later
          · exact absent
        · exact absent
    · next kind =>
        have looks := arrowLookahead_eq related seen otherSeen kind
        apply get_bind
        rw [looks]
        cases arrowLookahead right.ahead with
        | arrow => exact parenthesized related
        | ambiguous =>
            rw [nestings.otherRules]
            exact speculate_alike nestings.lenient (fun related => parenthesized related) related
        | notArrow => exact absent
    · exact absent
  · intro _ last closer isEnd isCloser
    rw [isEnd, isCloser]
    -- The parenthesis closes, so neither run tries an arrow function.
    exact absent

theorem FailsOver.arrow? {α : Type} {next otherNext : Option Expression → Parse α}
    (fails : rerun.FailsOver (next none) (otherNext none)) :
    rerun.FailsOver (arrow? outer >>= next) (arrow? otherOuter >>= otherNext) := by
  simp only [Parse.arrow?, bind_assoc]
  apply FailsOver.current
  intro last closer isEnd isCloser
  rw [isEnd, isCloser]
  simp only [pure_bind]
  exact fails

/-! All expressions. -/

theorem assignment_begins (nestings : rerun.Nestings outer otherOuter) :
    rerun.Begins (assignment outer) (assignment otherOuter) := by
  have conditionals := conditional_begins nestings
  refine ⟨fun expected => ?_, .arrow? (.currentStart fun _ _ => conditionals.ended.bind _ _)⟩
  apply (arrow?_alike nestings expected).bind
  rintro (_ | arrow)
  · refine (Begins.start (fun _ _ => conditionals.ended.bind _ _) fun start expected => ?_).alike _
    apply (conditionals.alike expected).bind
    intro operand left right related
    have unchanged : rerun.AlikeFrom expected left right (pure operand) (pure operand) :=
      .ok rfl related
    apply current_outcome related
    · intro token seen otherSeen
      change rerun.AlikeFrom expected left right _ _
      split
      · next mark kind =>
          split
          · next assigns =>
              have plain : token.kind.isBracket = false := by
                rw [kind]
                cases mark <;> first | rfl | cases assigns
              rw [AlikeFrom, take_bind seen, take_bind otherSeen]
              exact ((nestings.expression.alike expected).bind fun value =>
                (spanFrom_alike start expected).bind fun span => .pure _)
                (related.next seen otherSeen plain)
          · exact unchanged
      · exact unchanged
    · intro _ last closer isEnd isCloser
      rw [isEnd, isCloser]
      exact unchanged
  · exact .pure _

/-! The levels. -/

theorem Nestings.levels (nestings : rerun.Nestings outer otherOuter) :
    rerun.Levels (Level.ofNesting outer) (Level.ofNesting otherOuter) where
  type := unionType_begins nestings
  arraySuffix start element := arraySuffix_outcome nestings start element
  assignment := assignment_begins nestings
  unary := unary_begins nestings
  newExpression := newExpression_begins nestings
  operator start minimum operand mark _ precedence :=
    operator_outcome start minimum operand nestings mark precedence
  suffix start allowCalls base := suffix_outcome start allowCalls base nestings
  typedSuffix start allowCalls base := typedSuffix_alike start allowCalls base nestings

theorem nestings_ofRoom {rules : Rules}
    (lenient : ∀ error, rules.isFinal error = true → error.isFinal = true) (room extra : Nat) :
    rerun.Nestings (.ofRoom rules (room + extra)) (.ofRoom (.ofLimit rerun.limit) room) := by
  induction room with
  | zero =>
      refine ⟨?_, rfl, nofun⟩
      rwa [TwoRuns.ofRoom_rules]
  | succ room induction =>
      rw [Nat.succ_add]
      refine ⟨lenient, rfl, ?_⟩
      rintro other ⟨⟩
      exact ⟨_, rfl, induction.levels⟩

end Rerun

end TypedScript
