import TypedScript.Proofs.TwoRuns.Types

/-!
The rules for expressions, side by side, and the levels that they make up.
-/

namespace TypedScript

namespace TwoRuns

open Parse

variable {runs : TwoRuns} {outer otherOuter : Nesting}

theorem arguments_alike (nestings : runs.Nestings outer otherOuter) :
    runs.Alike (runs.Same (each Expression.relocate)) (arguments outer) (arguments otherOuter) := by
  apply (expect_alike _).bind
  intro _ _ _
  apply (commaList_alike _ nestings.expression).bind
  intro list otherList same
  apply (expect_alike _).bind
  intro _ _ _
  exact .pure same

theorem arguments?_alike (nestings : runs.Nestings outer otherOuter) :
    runs.Alike (runs.Same (perhaps (each Expression.relocate))) (arguments? outer)
      (arguments? otherOuter) := by
  apply (atMark_alike _).bindEq
  intro found
  apply Alike.branch
  · exact (arguments_alike nestings).present
  · exact .pure rfl

/-! Objects and arrays. -/

theorem literalKey_alike :
    runs.Alike (runs.Same PropertyKey.relocate) literalKey literalKey := by
  apply take_alike.bind
  intro token other alike
  rcases (literalOf?_same alike).perhaps_cases with ⟨absent, otherAbsent⟩ |
    ⟨literal, otherLiteral, present, otherPresent, same⟩
  · rw [absent, otherAbsent]
    exact identifierExpected_alike
  · rw [present, otherPresent]
    apply Alike.pure
    simp only [Same, PropertyKey.relocate, same]

theorem propertyKey_alike :
    runs.Alike (runs.Same PropertyKey.relocate) propertyKey propertyKey := by
  have names : runs.Alike (runs.Same PropertyKey.relocate) (.identifier <$> identifierName)
      (.identifier <$> identifierName) := by
    apply identifierName_alike.map
    intro name otherName same
    simp only [Same, PropertyKey.relocate, same]
  apply current_alike.bind
  intro token other alike
  rw [alike.kind]
  split
  · exact names
  · exact names
  · exact literalKey_alike
  · exact literalKey_alike
  · exact identifierExpected_alike

theorem objectProperty_alike (nestings : runs.Nestings outer otherOuter) :
    runs.Alike (runs.Same ObjectProperty.relocate) (objectProperty outer)
      (objectProperty otherOuter) := by
  apply current_alike.bind
  intro token other alike
  apply propertyKey_alike.bind
  intro key otherKey keys
  apply (accept_alike _).bindEq
  intro found
  apply Alike.branch
  · apply nestings.expression.bind
    intro value otherValue values
    apply (spanFrom_alike alike.start).bind
    intro span otherSpan spans
    apply Alike.pure
    simp only [Same, ObjectProperty.relocate, spans, keys, values]
  · cases key with
    | identifier name =>
        cases otherKey with
        | identifier otherName =>
            have names := PropertyKey.identifier.inj keys
            apply Alike.ite (by rw [alike.kind])
            · apply (spanFrom_alike alike.start).bind
              intro span otherSpan spans
              apply Alike.pure
              simp only [Same, ObjectProperty.relocate, spans, names]
            · exact unexpected_alike _
        | literal => cases keys
    | literal =>
        cases otherKey with
        | identifier => cases keys
        | literal => exact unexpected_alike _

theorem objectLiteral_alike (nestings : runs.Nestings outer otherOuter) :
    runs.Alike (runs.Same Expression.relocate) (objectLiteral outer)
      (objectLiteral otherOuter) := by
  apply currentStart_alike.bind
  intro start otherStart starts
  apply (expect_alike _).bind
  intro _ _ _
  apply (commaList_alike _ (objectProperty_alike nestings)).bind
  intro properties otherProperties same
  apply (expect_alike _).bind
  intro _ _ _
  apply (spanFrom_alike starts).bind
  intro span otherSpan spans
  apply Alike.pure
  simp only [Same, Expression.relocate, relocateProperties_eq, spans, same]

theorem arrayLiteral_alike (nestings : runs.Nestings outer otherOuter) :
    runs.Alike (runs.Same Expression.relocate) (arrayLiteral outer) (arrayLiteral otherOuter) := by
  apply currentStart_alike.bind
  intro start otherStart starts
  apply (expect_alike _).bind
  intro _ _ _
  apply (commaList_alike _ nestings.expression).bind
  intro elements otherElements same
  apply (expect_alike _).bind
  intro _ _ _
  apply (spanFrom_alike starts).bind
  intro span otherSpan spans
  apply Alike.pure
  simp only [Same, Expression.relocate, relocateExpressions_eq, spans, same]

theorem parenthesizedExpression_alike (nestings : runs.Nestings outer otherOuter) :
    runs.Alike (runs.Same Expression.relocate) (parenthesizedExpression outer)
      (parenthesizedExpression otherOuter) := by
  apply currentStart_alike.bind
  intro start otherStart starts
  apply (expect_alike _).bind
  intro _ _ _
  apply nestings.expression.bind
  intro inner otherInner same
  apply (expect_alike _).bind
  intro _ _ _
  apply (spanFrom_alike starts).bind
  intro span otherSpan spans
  apply Alike.pure
  simp only [Same, Expression.relocate, spans, same]

theorem literalOrName_alike :
    runs.Alike (runs.Same Expression.relocate) literalOrName literalOrName := by
  apply take_alike.bind
  intro token other alike
  rcases (literalOf?_same alike).perhaps_cases with ⟨absent, otherAbsent⟩ |
    ⟨literal, otherLiteral, present, otherPresent, same⟩
  · rw [absent, otherAbsent]
    apply Alike.pure
    simp only [Same, Expression.relocate, identifierOf_same alike]
  · rw [present, otherPresent]
    apply Alike.pure
    simp only [Same, Expression.relocate, same]

theorem primaryExpression_alike (nestings : runs.Nestings outer otherOuter) :
    runs.Alike (runs.Same Expression.relocate) (primaryExpression outer)
      (primaryExpression otherOuter) := by
  apply current_alike.bind
  intro token other alike
  rw [alike.kind]
  split
  · exact literalOrName_alike
  · exact literalOrName_alike
  · exact literalOrName_alike
  · exact parenthesizedExpression_alike nestings
  · exact objectLiteral_alike nestings
  · exact arrayLiteral_alike nestings
  · exact unexpected_alike _

/-! Accesses and calls. -/

section Suffixes

variable {start otherStart : Nat} {base otherBase : Expression}

theorem suffixes_alike (nestings : runs.Nestings outer otherOuter)
    (starts : runs.Offsets start otherStart) (allowCalls : Bool)
    (bases : runs.Same Expression.relocate base otherBase) :
    runs.Alike (runs.Same Expression.relocate) (suffixes outer start allowCalls base)
      (suffixes otherOuter otherStart allowCalls otherBase) := by
  have deeper : runs.Alike (runs.Same Expression.relocate)
      (outer.enter .expression >>= fun level => level.suffix start allowCalls base)
      (otherOuter.enter .expression >>= fun level =>
        level.suffix otherStart allowCalls otherBase) := by
    apply nestings.enter
    · intro level looksFirst
      exact looksFirst.suffix _ _ _
    · intro level otherLevel levels
      exact levels.suffix allowCalls starts bases
  apply current_alike.bind
  intro token other alike
  rw [alike.kind]
  split
  · exact deeper
  · exact deeper
  · exact deeper
  · exact .branch deeper (.pure bases)
  · apply Alike.branch
    · apply (typeArgumentsInExpression?_alike nestings).bind
      intro arguments otherArguments same
      rcases same.perhaps_cases with ⟨rfl, rfl⟩ | ⟨types, otherTypes, rfl, rfl, sameTypes⟩
      · exact .pure bases
      · apply nestings.enter
        · intro level looksFirst
          exact looksFirst.typedSuffix _ _ _ _
        · intro level otherLevel levels
          exact levels.typedSuffix allowCalls starts bases sameTypes
    · exact .pure bases
  · exact .pure bases

theorem suffix_alike (nestings : runs.Nestings outer otherOuter)
    (starts : runs.Offsets start otherStart) (allowCalls : Bool)
    (bases : runs.Same Expression.relocate base otherBase) :
    runs.Alike (runs.Same Expression.relocate) (suffix outer start allowCalls base)
      (suffix otherOuter otherStart allowCalls otherBase) := by
  apply current_alike.bind
  intro token other alike
  rw [alike.kind]
  split
  · apply take_alike.bind
    intro _ _ _
    apply nestings.expression.bind
    intro index otherIndex indices
    apply (expect_alike _).bind
    intro _ _ _
    apply (spanFrom_alike starts).bind
    intro span otherSpan spans
    apply suffixes_alike nestings starts
    simp only [Same, Expression.relocate, spans, bases, indices]
  · apply (arguments_alike nestings).bind
    intro arguments otherArguments same
    apply (spanFrom_alike starts).bind
    intro span otherSpan spans
    apply suffixes_alike nestings starts
    simp only [Same, Expression.relocate, relocateTypes?_eq, relocateExpressions_eq, spans, bases,
      same, Option.map_none]
  · apply take_alike.bind
    intro taken otherTaken same
    apply identifierName_alike.bind
    intro name otherName names
    apply (spanFrom_alike starts).bind
    intro span otherSpan spans
    apply suffixes_alike nestings starts
    simp only [Same, Expression.relocate, spans, bases, names, same.isMark]

theorem typedSuffix_alike (nestings : runs.Nestings outer otherOuter)
    (starts : runs.Offsets start otherStart) (allowCalls : Bool)
    (bases : runs.Same Expression.relocate base otherBase) {types otherTypes : List TypeExpr}
    (sameTypes : runs.Same (each TypeExpr.relocate) types otherTypes) :
    runs.Alike (runs.Same Expression.relocate) (typedSuffix outer start allowCalls base types)
      (typedSuffix otherOuter otherStart allowCalls otherBase otherTypes) := by
  apply (atMark_alike _).bindEq
  intro found
  apply Alike.branch
  · apply (arguments_alike nestings).bind
    intro arguments otherArguments same
    apply (spanFrom_alike starts).bind
    intro span otherSpan spans
    apply suffixes_alike nestings starts
    simp only [Same, Expression.relocate, relocateTypes?_eq, relocateExpressions_eq, spans, bases,
      same, Option.map_some, sameTypes]
  · apply (spanFrom_alike starts).bind
    intro span otherSpan spans
    apply suffixes_alike nestings starts
    simp only [Same, Expression.relocate, relocateTypes_eq, spans, bases, sameTypes]

end Suffixes

theorem newExpression_alike (nestings : runs.Nestings outer otherOuter) :
    runs.Alike (runs.Same Expression.relocate) (newExpression outer)
      (newExpression otherOuter) := by
  have newBases : runs.Alike (runs.Same Expression.relocate) (newBase outer)
      (newBase otherOuter) := by
    apply current_alike.bind
    intro token other alike
    apply Alike.ite (by rw [alike.kind])
    · apply nestings.enter
      · intro level looksFirst
        exact looksFirst.newExpression
      · intro level otherLevel levels
        exact levels.newExpression
    · exact primaryExpression_alike nestings
  apply currentStart_alike.bind
  intro start otherStart starts
  apply (expectKeyword_alike _).bind
  intro _ _ _
  apply currentStart_alike.bind
  intro baseStart otherBaseStart baseStarts
  apply newBases.bind
  intro base otherBase bases
  apply (suffixes_alike nestings baseStarts false bases).bind
  intro callee otherCallee callees
  apply (typeArgumentsInExpression?_alike nestings).bind
  intro types otherTypes sameTypes
  apply (arguments?_alike nestings).bind
  intro arguments otherArguments same
  apply (spanFrom_alike starts).bind
  intro span otherSpan spans
  apply Alike.pure
  simp only [Same, Expression.relocate, relocateTypes?_eq, relocateExpressions?_eq, spans, callees,
    sameTypes, same]

theorem leftHandSide_alike (nestings : runs.Nestings outer otherOuter) :
    runs.Alike (runs.Same Expression.relocate) (leftHandSide outer) (leftHandSide otherOuter) := by
  have leftHandBases : runs.Alike (runs.Same Expression.relocate) (leftHandBase outer)
      (leftHandBase otherOuter) := by
    apply current_alike.bind
    intro token other alike
    exact .ite (by rw [alike.kind]) (newExpression_alike nestings)
      (primaryExpression_alike nestings)
  apply currentStart_alike.bind
  intro start otherStart starts
  apply leftHandBases.bind
  intro base otherBase bases
  exact suffixes_alike nestings starts true bases

/-! Operators. -/

theorem unary_alike (nestings : runs.Nestings outer otherOuter) :
    runs.Alike (runs.Same Expression.relocate) (unary outer) (unary otherOuter) := by
  apply current_alike.bind
  intro token other alike
  rw [alike.kind]
  split
  · apply Alike.branch
    · apply take_alike.bind
      intro _ _ _
      apply nestings.enter
      · intro level looksFirst
        exact looksFirst.unary.bind _
      · intro level otherLevel levels
        apply levels.unary.bind
        intro operand otherOperand operands
        apply (spanFrom_alike alike.start).bind
        intro span otherSpan spans
        apply Alike.pure
        simp only [Same, Expression.relocate, spans, operands]
    · exact leftHandSide_alike nestings
  · exact leftHandSide_alike nestings

theorem lt_length_of_peek {cursor : Cursor} {index : Nat} {token : Token} {mark : Punctuator}
    (found : cursor.peek index = .ok token) (kind : token.kind = .punctuator mark) :
    index < cursor.ahead.length :=
  (List.getElem?_eq_some_iff.mp (Cursor.getElem?_of_peek found (by simp [kind]))).1

theorem binaryOperator?_stays {left right : Cursor} (related : runs.Related left right) :
    runs.Outcome (fun after otherAfter => after = left ∧ otherAfter = right)
      (fun operator other => operator = other ∧ ∀ next ∈ operator, next.width ≤ left.ahead.length)
      (binaryOperator? left) (binaryOperator? right) := by
  apply (peek_stays related 0).bind
  rintro token other left right ⟨found, otherFound⟩ ⟨rfl, rfl⟩
  have alike := related.alike_of_peek found otherFound
  rw [alike.kind]
  have single : ∀ next ∈ (other.kind.punctuator?.bind fun mark => mark.precedence?.map fun
      precedence => BinaryOperator.mk mark 1 precedence), next.width ≤ left.ahead.length := by
    intro next member
    rcases Option.bind_eq_some_iff.mp member with ⟨mark, marked, member⟩
    rcases Option.map_eq_some_iff.mp member with ⟨_, _, rfl⟩
    rw [← alike.kind, TokenKind.punctuator?_eq_some_iff] at marked
    exact lt_length_of_peek found marked
  by_cases isAngle : token.isMark .greaterThan = true
  · rw [if_pos isAngle, if_pos (alike.isMark _ ▸ isAngle)]
    apply (peek_stays related 1).bind
    rintro second otherSecond left right ⟨seen, otherSeen⟩ ⟨rfl, rfl⟩
    have touches : second.isMark .equals && second.start == token.stop ↔
        otherSecond.isMark .equals && otherSecond.start == other.stop := by
      rw [← (related.alike_of_peek seen otherSeen).isMark]
      cases isEquals : second.isMark .equals with
      | false => rfl
      | true => simpa using related.touching found seen otherFound otherSeen isAngle isEquals
    simp only [← touches]
    split
    · next joined =>
        have equals : second.kind = .punctuator .equals := by
          simp only [Bool.and_eq_true, Token.isMark, beq_iff_eq] at joined
          exact joined.1
        refine .ok ⟨rfl, fun next member => ?_⟩ ⟨rfl, rfl⟩
        rcases Option.map_eq_some_iff.mp member with ⟨_, _, rfl⟩
        exact lt_length_of_peek seen equals
    · exact .ok ⟨rfl, single⟩ ⟨rfl, rfl⟩
  · rw [if_neg isAngle, if_neg (alike.isMark _ ▸ isAngle)]
    exact .ok ⟨rfl, single⟩ ⟨rfl, rfl⟩

section Operators

variable {start otherStart : Nat} {operand otherOperand : Expression}

theorem operators_alike (nestings : runs.Nestings outer otherOuter)
    (starts : runs.Offsets start otherStart) (minimum : Nat)
    (operands : runs.Same Expression.relocate operand otherOperand) :
    runs.Alike (runs.Same Expression.relocate) (operators outer start minimum operand)
      (operators otherOuter otherStart minimum otherOperand) := by
  intro left right related
  apply (binaryOperator?_stays related).bind
  rintro next _ _ _ ⟨rfl, within⟩ ⟨rfl, rfl⟩
  cases next with
  | none => exact .ok operands related
  | some operator =>
      dsimp only
      split
      · exact .ok operands related
      · apply nestings.enter_outcome _ related
        · intro level looksFirst
          exact looksFirst.operator _ _ _ _ _ _
        · intro level otherLevel levels
          exact levels.operator _ _ _ starts operands related (within operator rfl)

theorem binary_alike (nestings : runs.Nestings outer otherOuter) (minimum : Nat) :
    runs.Alike (runs.Same Expression.relocate) (binary outer minimum)
      (binary otherOuter minimum) := by
  apply currentStart_alike.bind
  intro start otherStart starts
  apply (unary_alike nestings).bind
  intro operand otherOperand operands
  exact operators_alike nestings starts minimum operands

theorem operator_alike (nestings : runs.Nestings outer otherOuter)
    (starts : runs.Offsets start otherStart) (minimum : Nat)
    (operands : runs.Same Expression.relocate operand otherOperand) (mark : Punctuator)
    (precedence : Nat) {left right : Cursor} (related : runs.Related left right) {width : Nat}
    (within : width ≤ left.ahead.length) :
    runs.Outcome runs.Related (runs.Same Expression.relocate)
      (operator outer start minimum operand mark width precedence left)
      (operator otherOuter otherStart minimum otherOperand mark width precedence right) := by
  have rest : runs.Alike (runs.Same Expression.relocate)
      (binary outer precedence >>= fun right => spanFrom start >>= fun span =>
        operators outer start minimum (.binary span operand mark right))
      (binary otherOuter precedence >>= fun right => spanFrom otherStart >>= fun span =>
        operators otherOuter otherStart minimum (.binary span otherOperand mark right)) := by
    apply (binary_alike nestings precedence).bind
    intro right otherRight rights
    apply (spanFrom_alike starts).bind
    intro span otherSpan spans
    apply operators_alike nestings starts
    simp only [Same, Expression.relocate, spans, operands, rights]
  apply (skip_outcome related within).bind
  intro _ _ _ _ _ later
  exact rest later

end Operators

theorem conditional_alike (nestings : runs.Nestings outer otherOuter) :
    runs.Alike (runs.Same Expression.relocate) (conditional outer) (conditional otherOuter) := by
  apply currentStart_alike.bind
  intro start otherStart starts
  apply (binary_alike nestings 0).bind
  intro condition otherCondition conditions
  apply (accept_alike _).bindEq
  intro found
  apply Alike.branch
  · apply nestings.expression.bind
    intro whenTrue otherWhenTrue sameTrue
    apply (expect_alike _).bind
    intro _ _ _
    apply nestings.expression.bind
    intro whenFalse otherWhenFalse sameFalse
    apply (spanFrom_alike starts).bind
    intro span otherSpan spans
    apply Alike.pure
    simp only [Same, Expression.relocate, spans, conditions, sameTrue, sameFalse]
  · exact .pure conditions

/-! Arrow functions. -/

theorem arrowLookahead_eq {left right : List Token}
    (alike : List.Forall₂ (Token.Alike runs.Offsets) left right) :
    arrowLookahead left = arrowLookahead right := by
  have parens (depth : Nat) : Option.Rel (List.Forall₂ (Token.Alike runs.Offsets))
      (afterParens? depth left) (afterParens? depth right) := by
    induction alike generalizing depth with
    | nil => exact .none
    | cons tokens rest induction =>
        unfold afterParens?
        rw [tokens.isMark, tokens.isMark]
        split
        · exact induction _
        · split
          · split
            · exact .some rest
            · exact induction _
          · exact induction _
  unfold arrowLookahead
  have after := parens 0
  revert after
  generalize afterParens? 0 left = first
  generalize afterParens? 0 right = second
  intro after
  cases after with
  | none => rfl
  | some rest =>
      cases rest with
      | nil => rfl
      | cons tokens =>
          simp only [Option.bind_some, List.head?_cons, tokens.isMark]

/-- Both runs take parentheses for the parameters of an arrow function, or neither does. -/
theorem Related.arrowLookahead_eq {left right : Cursor} (related : runs.Related left right)
    {token : Token} (seen : left.peek 0 = .ok token) (opens : token.kind = .punctuator .openParen) :
    arrowLookahead left.ahead = arrowLookahead right.ahead := by
  rcases related.goOn.split with ⟨common, rest, split, alike, rfl | ⟨cut, _⟩⟩
  · rw [split, List.append_nil]
    exact TwoRuns.arrowLookahead_eq alike
  · have found := Cursor.getElem?_of_peek seen (by simp [opens])
    rcases related with ⟨index, _, rfl, rfl⟩
    simp only [beginning, otherBeginning, Cursor.skip_ahead, List.drop_drop, List.getElem?_drop,
      Cursor.ofLexed] at found ⊢
    exact runs.lookahead cut found (by simp [Token.isMark, opens])

theorem arrowBody_alike (nestings : runs.Nestings outer otherOuter) :
    runs.Alike (runs.Same ArrowBody.relocate) (arrowBody outer) (arrowBody otherOuter) := by
  apply (atMark_alike _).bindEq
  intro found
  apply Alike.branch
  · apply functionBody_alike.map
    intro body otherBody same
    simp only [Same, ArrowBody.relocate, same]
  · apply nestings.expression.map
    intro value otherValue same
    simp only [Same, ArrowBody.relocate, same]

theorem simpleArrow_alike (nestings : runs.Nestings outer otherOuter) :
    runs.Alike (runs.Same Expression.relocate) (simpleArrow outer) (simpleArrow otherOuter) := by
  apply take_alike.bind
  intro token other alike
  apply (expect_alike _).bind
  intro _ _ _
  apply (arrowBody_alike nestings).bind
  intro body otherBody bodies
  apply (spanFrom_alike alike.start).bind
  intro span otherSpan spans
  apply Alike.pure
  simp only [Same, Expression.relocate, Parameter.relocate, relocateParameters_eq, List.map_cons,
    List.map_nil, relocateType?_eq, relocateExpression?_eq, Option.map_none, spans, bodies,
    Same.span alike, identifierOf_same alike]

theorem parenthesizedArrow_alike (nestings : runs.Nestings outer otherOuter) :
    runs.Alike (runs.Same Expression.relocate) (parenthesizedArrow outer)
      (parenthesizedArrow otherOuter) := by
  apply currentStart_alike.bind
  intro start otherStart starts
  apply (parameters_alike nestings true).bind
  intro parameters otherParameters sameParameters
  apply (declaredType?_alike nestings).bind
  intro result otherResult results
  apply (expect_alike _).bind
  intro _ _ _
  apply (arrowBody_alike nestings).bind
  intro body otherBody bodies
  apply (spanFrom_alike starts).bind
  intro span otherSpan spans
  apply Alike.pure
  simp only [Same, Expression.relocate, relocateParameters_eq, relocateType?_eq, spans,
    sameParameters, results, bodies]

theorem arrow?_alike (nestings : runs.Nestings outer otherOuter) :
    runs.Alike (runs.Same (perhaps Expression.relocate)) (arrow? outer) (arrow? otherOuter) := by
  have parenthesized : runs.Alike (runs.Same (perhaps Expression.relocate))
      (some <$> parenthesizedArrow outer) (some <$> parenthesizedArrow otherOuter) := by
    exact (parenthesizedArrow_alike nestings).present
  have simple : runs.Alike (runs.Same (perhaps Expression.relocate))
      (kindAhead 1 >>= fun kind =>
        if kind = .punctuator .arrow then some <$> simpleArrow outer else pure none)
      (kindAhead 1 >>= fun kind =>
        if kind = .punctuator .arrow then some <$> simpleArrow otherOuter else pure none) := by
    apply (kindAhead_alike _).bindEq
    intro kind
    apply Alike.branch
    · exact (simpleArrow_alike nestings).present
    · exact .pure rfl
  intro left right related
  apply current_outcome related
  intro token other seen alike
  rw [← alike.kind]
  cases kind : token.kind with
  | identifier => exact simple related
  | punctuator mark =>
      cases mark with
      | openParen =>
          apply get_outcome
          rw [related.arrowLookahead_eq seen kind]
          cases arrowLookahead right.ahead with
          | arrow => exact parenthesized related
          | ambiguous =>
              rw [nestings.rules, nestings.otherRules]
              exact speculate_alike parenthesized related
          | notArrow => exact .ok rfl related
      | _ => exact .ok rfl related
  | _ => exact .ok rfl related

/-! All expressions. -/

theorem assignment_alike (nestings : runs.Nestings outer otherOuter) :
    runs.Alike (runs.Same Expression.relocate) (assignment outer) (assignment otherOuter) := by
  apply (arrow?_alike nestings).bind
  intro arrow otherArrow arrows
  rcases arrows.perhaps_cases with ⟨rfl, rfl⟩ | ⟨function, otherFunction, rfl, rfl, same⟩
  · apply currentStart_alike.bind
    intro start otherStart starts
    apply (conditional_alike nestings).bind
    intro target otherTarget targets
    apply current_alike.bind
    intro token other alike
    rw [alike.kind]
    split
    · apply Alike.branch
      · apply take_alike.bind
        intro _ _ _
        apply nestings.expression.bind
        intro value otherValue values
        apply (spanFrom_alike starts).bind
        intro span otherSpan spans
        apply Alike.pure
        simp only [Same, Expression.relocate, spans, targets, values]
      · exact .pure targets
    · exact .pure targets
  · exact .pure same

/-! The levels. -/

theorem Nestings.levels (nestings : runs.Nestings outer otherOuter) :
    runs.Levels (Level.ofNesting outer) (Level.ofNesting otherOuter) where
  type := unionType_alike nestings
  arraySuffix := arraySuffix_alike nestings
  assignment := assignment_alike nestings
  unary := unary_alike nestings
  newExpression := newExpression_alike nestings
  operator minimum mark _ precedence starts operands related within :=
    operator_alike nestings starts minimum operands mark precedence related within
  suffix allowCalls starts bases := suffix_alike nestings starts allowCalls bases
  typedSuffix allowCalls starts bases types :=
    typedSuffix_alike nestings starts allowCalls bases types

theorem ofRoom_rules (rules : Rules) (room : Nat) : (Nesting.ofRoom rules room).rules = rules := by
  cases room with
  | zero => rfl
  | succ room => rfl

theorem nestings_ofRoom (room : Nat) :
    runs.Nestings (.ofRoom (.ofLimit runs.limit) room)
      (.ofRoom (.ofLimit (runs.limit + runs.extra)) (room + runs.extra)) := by
  induction room with
  | zero =>
      refine ⟨rfl, ofRoom_rules _ _, ?_⟩
      rw [Nat.zero_add]
      -- Only the run with the larger limit may have a level left.
      generalize Rules.ofLimit (runs.limit + runs.extra) = otherRules
      rcases Nat.eq_zero_or_pos runs.extra with none | wider
      · rw [none]
        exact .none none
      · rcases Nat.exists_eq_succ_of_ne_zero (Nat.ne_of_gt wider) with ⟨more, extra⟩
        rw [extra]
        exact .refused wider (Level.ofNesting_looksFirst _)
  | succ room induction =>
      refine ⟨rfl, ofRoom_rules _ _, ?_⟩
      rw [Nat.succ_add]
      exact .deeper induction.levels

theorem nestings_outermost :
    runs.Nestings (.outermost (.ofLimit runs.limit))
      (.outermost (.ofLimit (runs.limit + runs.extra))) :=
  nestings_ofRoom runs.limit

end TwoRuns

end TypedScript
