import TypedScript.Parser.Expressions
import TypedScript.Proofs.Reading.Expressions
import TypedScript.Proofs.Shape.Types

/-!
The shape of expressions. Operators are read with a minimum: none that binds looser is taken, so
what is read as a right operand binds tighter than the operator before it, and what comes next
after it binds no tighter. That is what the next operator finds on its left.
-/

namespace TypedScript

open Node

attribute [local grind =] Node.children Expression.children

attribute [local grind .] shaped_identifier shaped_literal shaped_functionBody

namespace Parse

variable {nesting : Nesting} {before after : Cursor}

/-! Arguments, objects and arrays. -/

theorem arguments_shaped (shaping : nesting.Shaping) :
    Yields (arguments nesting) fun arguments => ∀ value ∈ arguments, Shaped .expression value := by
  apply Yields.andThen
  intro opening
  apply (Yields.commaList .closeParen shaping.expression).bind
  intro arguments shaped
  apply Yields.andThen
  intro closing
  exact .pure shaped

theorem arguments?_shaped (shaping : nesting.Shaping) :
    Yields (arguments? nesting) fun found =>
      ∀ arguments ∈ found, ∀ value ∈ arguments, Shaped .expression value := by
  apply Yields.andThen
  intro found
  split
  · exact (arguments_shaped shaping).present
  · exact .absent

theorem shaped_propertyKey (key : PropertyKey) : Shaped .propertyKey key := by
  refine shaped_plain rfl fun child member => ?_
  cases key <;> grind

theorem objectProperty_shaped (shaping : nesting.Shaping) :
    Yields (objectProperty nesting) (Shaped .objectProperty) := by
  apply Yields.andThen
  intro token
  apply Yields.andThen
  intro key
  apply Yields.andThen
  intro hasValue
  split
  · apply shaping.expression.bind
    intro value shaped
    apply Yields.andThen
    intro span
    apply Yields.pure
    refine shaped_plain rfl fun child member => ?_
    grind [shaped_propertyKey]
  · split
    · split
      · apply Yields.andThen
        intro span
        apply Yields.pure
        refine shaped_plain rfl fun child member => ?_
        grind
      · exact .unexpected
    · exact .unexpected

theorem objectLiteral_shaped (shaping : nesting.Shaping) :
    Yields (objectLiteral nesting) (ShapedAs Expression.isConstructor) := by
  apply Yields.andThen
  intro start
  apply Yields.andThen
  intro opening
  apply (Yields.commaList .closeBrace (objectProperty_shaped shaping)).bind
  intro properties shaped
  apply Yields.andThen
  intro closing
  apply Yields.andThen
  intro span
  refine .pure ⟨shaped_untyped rfl trivial fun child member => ?_, rfl⟩
  grind

theorem arrayLiteral_shaped (shaping : nesting.Shaping) :
    Yields (arrayLiteral nesting) (ShapedAs Expression.isConstructor) := by
  apply Yields.andThen
  intro start
  apply Yields.andThen
  intro opening
  apply (Yields.commaList .closeBracket shaping.expression).bind
  intro elements shaped
  apply Yields.andThen
  intro closing
  apply Yields.andThen
  intro span
  refine .pure ⟨shaped_untyped rfl trivial fun child member => ?_, rfl⟩
  grind

theorem parenthesizedExpression_shaped (shaping : nesting.Shaping) :
    Yields (parenthesizedExpression nesting) (ShapedAs Expression.isConstructor) := by
  apply Yields.andThen
  intro start
  apply Yields.andThen
  intro opening
  apply shaping.expression.bind
  intro inner shaped
  apply Yields.andThen
  intro closing
  apply Yields.andThen
  intro span
  refine .pure ⟨shaped_untyped rfl trivial fun child member => ?_, rfl⟩
  grind

theorem literalOrName_shaped : Yields literalOrName (ShapedAs Expression.isConstructor) := by
  apply Yields.andThen
  intro token
  split
  · refine .pure ⟨shaped_untyped rfl trivial fun child member => ?_, rfl⟩
    grind
  · refine .pure ⟨shaped_untyped rfl trivial fun child member => ?_, rfl⟩
    grind

theorem primaryExpression_shaped (shaping : nesting.Shaping) :
    Yields (primaryExpression nesting) (ShapedAs Expression.isConstructor) := by
  apply Yields.andThen
  intro token
  split
  · exact literalOrName_shaped
  · exact literalOrName_shaped
  · exact literalOrName_shaped
  · exact parenthesizedExpression_shaped shaping
  · exact objectLiteral_shaped shaping
  · exact arrayLiteral_shaped shaping
  · exact .unexpected

/-! Accesses and calls. -/

section Suffixes

variable {start : Nat} {allowCalls : Bool} {base value : Expression}

theorem suffixes_shaped (shaping : nesting.Shaping)
    (baseShaped : ShapedAs (Expression.isHead allowCalls) base) :
    Yields (suffixes nesting start allowCalls base) (ShapedAs (Expression.isHead allowCalls)) := by
  refine ⟨fun {before after value} parsed => ?_⟩
  simp only [suffixes, bind_eq_ok, current_eq_ok] at parsed
  rcases parsed with ⟨token, _, ⟨peeked, rfl⟩, parsed⟩
  have goesOn (noCall : allowCalls = true ∨ ¬ before.AtMark .openParen)
      (parsed : (nesting.enter .expression >>= fun level => level.suffix start allowCalls base)
        before = .ok value after) : ShapedAs (Expression.isHead allowCalls) value := by
    simp only [bind_eq_ok, Nesting.enter_eq_ok] at parsed
    rcases parsed with ⟨level, _, ⟨inner, rfl⟩, parsed⟩
    exact (shaping.inner inner).suffix baseShaped noCall parsed
  have noParen (kind : token.kind ≠ .punctuator .openParen) : ¬ before.AtMark .openParen := by
    rintro ⟨other, found, isMark⟩
    cases peeked.symm.trans found
    exact kind (Token.isMark_iff.mp isMark)
  rcases exists_branch parsed with ⟨branch, chosen, parsed⟩
  split at chosen <;> subst chosen
  · next kind => exact goesOn (.inr (noParen (by simp [kind]))) parsed
  · next kind => exact goesOn (.inr (noParen (by simp [kind]))) parsed
  · next kind => exact goesOn (.inr (noParen (by simp [kind]))) parsed
  · split at parsed
    · next allowed => exact goesOn (.inl allowed) parsed
    · rcases pure_eq_ok.mp parsed with ⟨rfl, rfl⟩
      exact baseShaped
  · split at parsed
    · next allowed =>
        subst allowed
        rcases bind_eq_ok.mp parsed with ⟨found, _, argumentsParsed, parsed⟩
        have arguments := (typeArgumentsInExpression?_shaped shaping).of_ok argumentsParsed
        cases found with
        | some typeArguments =>
            simp only [bind_eq_ok, Nesting.enter_eq_ok] at parsed
            rcases parsed with ⟨level, _, ⟨inner, rfl⟩, parsed⟩
            exact ((shaping.inner inner).typedSuffix baseShaped
              (arguments typeArguments rfl)).of_ok parsed
        | none =>
            rcases pure_eq_ok.mp parsed with ⟨rfl, rfl⟩
            exact baseShaped
    · rcases pure_eq_ok.mp parsed with ⟨rfl, rfl⟩
      exact baseShaped
  · rcases pure_eq_ok.mp parsed with ⟨rfl, rfl⟩
    exact baseShaped

theorem shaped_call {span : Span} {typeArguments : Option (List TypeExpr)}
    {arguments : List Expression} (baseShaped : ShapedAs Expression.isBase base)
    (typesShaped : ∀ list ∈ typeArguments, ShapedArguments list)
    (argumentsShaped : ∀ value ∈ arguments, Shaped .expression value) :
    ShapedAs Expression.isBase (.call span base typeArguments arguments) := by
  rcases shapedArguments_getD typesShaped with ⟨notEmpty, typesShaped⟩
  refine ⟨shaped_expression notEmpty baseShaped.ofClass fun child member => ?_, rfl⟩
  have shaped := baseShaped.shaped
  grind

theorem suffix_shaped (shaping : nesting.Shaping)
    (baseShaped : ShapedAs (Expression.isHead allowCalls) base)
    (noCall : allowCalls = true ∨ ¬ before.AtMark .openParen)
    (parsed : suffix nesting start allowCalls base before = .ok value after) :
    ShapedAs (Expression.isHead allowCalls) value := by
  have isBase : base.isBase = true := Expression.isBase_of_isHead baseShaped.ofClass
  have shaped : Shaped .expression base := baseShaped.shaped
  simp only [suffix, bind_eq_ok, current_eq_ok] at parsed
  rcases parsed with ⟨token, _, ⟨peeked, rfl⟩, parsed⟩
  rcases exists_branch parsed with ⟨branch, chosen, parsed⟩
  split at chosen <;> subst chosen
  · refine Yields.of_ok ?_ parsed
    apply Yields.andThen
    intro opening
    apply shaping.expression.bind
    intro index indexShaped
    apply Yields.andThen
    intro closing
    apply Yields.andThen
    intro span
    refine suffixes_shaped shaping ⟨?_, Expression.isHead_of_isConstructor rfl⟩
    refine shaped_untyped rfl isBase fun child member => ?_
    grind
  · next kind =>
      have allowed : allowCalls = true :=
        noCall.resolve_right (not_not_intro ⟨token, peeked, Token.isMark_iff.mpr kind⟩)
      subst allowed
      refine Yields.of_ok ?_ parsed
      apply (arguments_shaped shaping).bind
      intro arguments argumentsShaped
      apply Yields.andThen
      intro span
      exact suffixes_shaped shaping (shaped_call baseShaped (by rintro _ ⟨⟩) argumentsShaped)
  · refine Yields.of_ok ?_ parsed
    apply Yields.andThen
    intro mark
    apply Yields.andThen
    intro name
    apply Yields.andThen
    intro span
    refine suffixes_shaped shaping ⟨?_, Expression.isHead_of_isConstructor rfl⟩
    refine shaped_untyped rfl isBase fun child member => ?_
    grind

theorem typedSuffix_shaped (shaping : nesting.Shaping) {typeArguments : List TypeExpr}
    (baseShaped : ShapedAs Expression.isBase base) (typesShaped : ShapedArguments typeArguments) :
    Yields (typedSuffix nesting start true base typeArguments) (ShapedAs Expression.isBase) := by
  apply Yields.andThen
  intro isCall
  split
  · apply (arguments_shaped shaping).bind
    intro arguments argumentsShaped
    apply Yields.andThen
    intro span
    exact suffixes_shaped shaping
      (shaped_call baseShaped (by simpa using typesShaped) argumentsShaped)
  · apply Yields.andThen
    intro span
    have notEmpty : some typeArguments ≠ some [] := by simpa using typesShaped.notEmpty
    have shaped := baseShaped.shaped
    have argumentsShaped := typesShaped.shaped
    refine suffixes_shaped shaping
      ⟨shaped_expression notEmpty baseShaped.ofClass fun child member => ?_, rfl⟩
    grind

end Suffixes

theorem newExpression_shaped (shaping : nesting.Shaping) :
    Yields (newExpression nesting) (ShapedAs Expression.isConstructor) := by
  have base : Yields (newBase nesting) (ShapedAs Expression.isConstructor) := by
    apply Yields.andThen
    intro token
    split
    · exact shaping.enter fun _ level => level.newExpression
    · exact primaryExpression_shaped shaping
  apply Yields.andThen
  intro start
  apply Yields.andThen
  intro word
  apply Yields.andThen
  intro baseStart
  apply base.bind
  intro value valueShaped
  -- No call may follow here, so what `new` stands before is no call.
  have accesses : Yields (suffixes nesting baseStart false value)
      (ShapedAs Expression.isConstructor) := suffixes_shaped shaping valueShaped
  apply accesses.bind
  intro callee calleeShaped
  apply (typeArgumentsInExpression?_shaped shaping).bind
  intro typeArguments typesShaped
  apply (arguments?_shaped shaping).bind
  intro arguments argumentsShaped
  apply Yields.andThen
  intro span
  rcases shapedArguments_getD typesShaped with ⟨notEmpty, typesShaped⟩
  have argumentsShaped := forall_mem_getD argumentsShaped
  have shaped := calleeShaped.shaped
  refine .pure ⟨shaped_expression notEmpty calleeShaped.ofClass fun child member => ?_, rfl⟩
  grind

theorem leftHandSide_shaped (shaping : nesting.Shaping) :
    Yields (leftHandSide nesting) (ShapedAs Expression.isBase) := by
  have base : Yields (leftHandBase nesting) (ShapedAs Expression.isConstructor) := by
    apply Yields.andThen
    intro token
    split
    · exact newExpression_shaped shaping
    · exact primaryExpression_shaped shaping
  apply Yields.andThen
  intro start
  apply base.bind
  intro value shaped
  exact suffixes_shaped shaping (shaped.imp Expression.isBase_of_isConstructor)

/-! Operators. -/

theorem unary_shaped (shaping : nesting.Shaping) :
    Yields (unary nesting) (ShapedAs Expression.isUnaryOperand) := by
  have leftHand : Yields (leftHandSide nesting) (ShapedAs Expression.isUnaryOperand) :=
    (leftHandSide_shaped shaping).imp fun _ shaped => shaped.imp Expression.isUnaryOperand_of_isBase
  apply Yields.andThen
  intro token
  split
  · split
    · apply Yields.andThen
      intro taken
      refine shaping.enter fun _ level => ?_
      apply level.unary.bind
      rintro operand ⟨shaped, isUnaryOperand⟩
      apply Yields.andThen
      intro span
      refine .pure ⟨shaped_untyped rfl isUnaryOperand fun child member => ?_, rfl⟩
      grind
    · exact leftHand
  · exact leftHand

/-- The operator that comes next binds as tightly as its mark says, and looking at it takes
nothing. -/
theorem precedence_of_binaryOperator? {operator : BinaryOperator}
    (parsed : binaryOperator? before = .ok (some operator) after) :
    operator.mark.precedence? = some operator.precedence := by
  simp only [binaryOperator?, bind_eq_ok, current_eq_ok] at parsed
  rcases parsed with ⟨token, _, ⟨_, rfl⟩, parsed⟩
  have plain (found : token.kind.punctuator?.bind (fun mark =>
      mark.precedence?.map fun precedence => BinaryOperator.mk mark 1 precedence) = some operator) :
      operator.mark.precedence? = some operator.precedence := by
    rcases Option.bind_eq_some_iff.mp found with ⟨mark, _, found⟩
    rcases Option.map_eq_some_iff.mp found with ⟨precedence, isPrecedence, rfl⟩
    exact isPrecedence
  split at parsed
  · simp only [bind_eq_ok, peek_eq_ok] at parsed
    rcases parsed with ⟨second, _, ⟨_, rfl⟩, parsed⟩
    split at parsed
    · have joined := (pure_eq_ok.mp parsed).1
      rcases Option.map_eq_some_iff.mp joined with ⟨precedence, isPrecedence, rfl⟩
      exact isPrecedence
    · exact plain (pure_eq_ok.mp parsed).1
  · exact plain (pure_eq_ok.mp parsed).1

theorem isAssignment_of_precedence? {mark : Punctuator} {precedence : Nat}
    (binds : mark.precedence? = some precedence) : mark.isAssignment = false := by
  cases mark <;> first | rfl | cases binds

section Operators

variable {start minimum : Nat} {left value : Expression}

theorem operators_leaves (shaping : nesting.Shaping)
    (leftShaped : ShapedAs Expression.isOperand left) (binds : left.BindsFrom (minimum + 1))
    (next : ∀ operator place, binaryOperator? before = .ok (some operator) place →
      left.BindsFrom operator.precedence)
    (parsed : operators nesting start minimum left before = .ok value after) :
    value.EndsBinary minimum after := by
  rcases bind_eq_ok.mp parsed with ⟨found, between, operatorParsed, parsed⟩
  rcases (binaryOperator?_eq_ok operatorParsed).1 with rfl
  cases found with
  | none =>
      rcases pure_eq_ok.mp parsed with ⟨rfl, rfl⟩
      refine ⟨leftShaped, binds, fun operator place again => ?_⟩
      cases operatorParsed.symm.trans again
  | some operator =>
      simp only at parsed
      split at parsed
      · next looser =>
          rcases pure_eq_ok.mp parsed with ⟨rfl, rfl⟩
          refine ⟨leftShaped, binds, fun other place again => ?_⟩
          cases operatorParsed.symm.trans again
          exact looser
      · next tighter =>
          refine (shaping.enterLeaving fun _ level => ?_).of_ok parsed
          exact level.operator leftShaped (precedence_of_binaryOperator? operatorParsed)
            (next operator before operatorParsed) (Nat.lt_of_not_le tighter)

theorem binary_leaves (shaping : nesting.Shaping) (minimum : Nat) :
    Leaves (binary nesting minimum) (Expression.EndsBinary minimum) := by
  apply Leaves.andThen
  intro start
  refine ⟨fun parsed => ?_⟩
  rcases bind_eq_ok.mp parsed with ⟨left, between, leftParsed, parsed⟩
  have leftShaped := (unary_shaped shaping).of_ok leftParsed
  have binds := Expression.bindsFrom_of_isUnaryOperand leftShaped.ofClass
  exact operators_leaves shaping (leftShaped.imp Expression.isOperand_of_isUnaryOperand)
    (binds _) (fun operator _ _ => binds operator.precedence) parsed

theorem operator_leaves (shaping : nesting.Shaping) {width precedence : Nat} {mark : Punctuator}
    (leftShaped : ShapedAs Expression.isOperand left)
    (isPrecedence : mark.precedence? = some precedence) (leftBinds : left.BindsFrom precedence)
    (tighter : minimum < precedence) :
    Leaves (operator nesting start minimum left mark width precedence)
      (Expression.EndsBinary minimum) := by
  refine ⟨fun parsed => ?_⟩
  simp only [operator, bind_eq_ok, modify_eq_ok, spanFrom_eq_ok] at parsed
  rcases parsed with ⟨_, _, rfl, right, between, rightParsed, span, _, ⟨_, rfl⟩, parsed⟩
  have rightEnds := (binary_leaves shaping precedence).of_ok rightParsed
  have leftWhole := leftShaped.shaped
  have rightWhole := rightEnds.shaped
  have isPlain := isAssignment_of_precedence? isPrecedence
  have grouped : (Expression.binary span left mark right).Grouped := by
    rw [Expression.Grouped, if_neg (by simp [isPlain])]
    exact ⟨leftShaped.ofClass, rightEnds.ofClass, precedence, isPrecedence, leftBinds,
      rightEnds.binds⟩
  have whole : ShapedAs Expression.isOperand (.binary span left mark right) := by
    refine ⟨shaped_untyped rfl grouped fun child member => ?_, ?_⟩
    · grind
    · simp [Expression.isOperand, isPlain]
  have binds : (Expression.binary span left mark right).BindsFrom (minimum + 1) :=
    ⟨precedence, isPrecedence, tighter⟩
  refine operators_leaves shaping whole binds ?_ parsed
  intro next place found
  exact ⟨precedence, isPrecedence, rightEnds.noMore next place found⟩

end Operators

theorem conditional_shaped (shaping : nesting.Shaping) :
    Yields (conditional nesting) (ShapedAs Expression.isTarget) := by
  have operands : Yields (binary nesting 0) (ShapedAs Expression.isOperand) :=
    (binary_leaves shaping 0).yields fun _ _ ends => ends.toShapedAs
  apply Yields.andThen
  intro start
  apply operands.bind
  rintro condition ⟨shaped, isOperand⟩
  apply Yields.andThen
  intro isConditional
  split
  · apply shaping.expression.bind
    intro whenTrue trueShaped
    apply Yields.andThen
    intro colon
    apply shaping.expression.bind
    intro whenFalse falseShaped
    apply Yields.andThen
    intro span
    refine .pure ⟨shaped_untyped rfl isOperand fun child member => ?_, rfl⟩
    grind
  · exact .pure ⟨shaped, Expression.isTarget_of_isOperand isOperand⟩

/-! Arrow functions. -/

theorem arrowBody_shaped (shaping : nesting.Shaping) :
    Yields (arrowBody nesting) fun body =>
      ∀ value, body = .expression value → Shaped .expression value := by
  apply Yields.andThen
  intro isBlock
  split
  · refine Yields.map .any fun body _ value isExpression => ?_
    cases isExpression
  · refine shaping.expression.map fun value shaped other isExpression => ?_
    cases isExpression
    exact shaped

theorem shaped_arrow {span : Span} {parameters : List Parameter} {result : Option TypeExpr}
    {body : ArrowBody} (parametersShaped : ∀ parameter ∈ parameters, Shaped .parameter parameter)
    (resultShaped : ∀ type ∈ result, Shaped .type type)
    (bodyShaped : ∀ value, body = .expression value → Shaped .expression value) :
    Shaped .expression (.arrow span parameters result body) := by
  refine shaped_untyped rfl trivial fun child member => ?_
  cases body <;> grind

theorem simpleArrow_shaped (shaping : nesting.Shaping) :
    Yields (simpleArrow nesting) (Shaped .expression) := by
  have plain (token : Token) : Shaped .parameter
      ⟨token.span, false, identifierOf token, false, none, none⟩ := by
    apply shaped_plain rfl
    simp [children, Parameter.children]
  apply Yields.andThen
  intro token
  apply Yields.andThen
  intro arrow
  apply (arrowBody_shaped shaping).bind
  intro body bodyShaped
  apply Yields.andThen
  intro span
  exact .pure (shaped_arrow (by simpa using plain token) (by simp) bodyShaped)

theorem parenthesizedArrow_shaped (shaping : nesting.Shaping) :
    Yields (parenthesizedArrow nesting) (Shaped .expression) := by
  apply Yields.andThen
  intro start
  apply (parameters_shaped shaping true).bind
  intro parameters parametersShaped
  apply (declaredType?_shaped shaping).bind
  intro result resultShaped
  apply Yields.andThen
  intro arrow
  apply (arrowBody_shaped shaping).bind
  intro body bodyShaped
  apply Yields.andThen
  intro span
  exact .pure (shaped_arrow parametersShaped resultShaped bodyShaped)

theorem arrow?_shaped (shaping : nesting.Shaping) :
    Yields (arrow? nesting) fun found => ∀ value ∈ found, Shaped .expression value := by
  apply Yields.andThen
  intro token
  split
  · apply Yields.andThen
    intro kind
    split
    · exact (simpleArrow_shaped shaping).present
    · exact .absent
  · apply Yields.andThen
    intro cursor
    split
    · exact (parenthesizedArrow_shaped shaping).present
    · exact .speculate (parenthesizedArrow_shaped shaping).present
    · exact .absent
  · exact .absent

/-! All expressions. -/

theorem assignment_shaped (shaping : nesting.Shaping) :
    Yields (assignment nesting) (Shaped .expression) := by
  apply (arrow?_shaped shaping).bind
  intro found arrowShaped
  split
  · next arrow => exact .pure (arrowShaped arrow rfl)
  · apply Yields.andThen
    intro start
    apply (conditional_shaped shaping).bind
    rintro left ⟨leftShaped, isTarget⟩
    apply Yields.andThen
    intro token
    split
    · next mark _ =>
        split
        · next isAssignment =>
            apply Yields.andThen
            intro taken
            apply shaping.expression.bind
            intro right rightShaped
            apply Yields.andThen
            intro span
            have grouped : (Expression.binary span left mark right).Grouped := by
              rw [Expression.Grouped, if_pos isAssignment]
              exact isTarget
            apply Yields.pure
            refine shaped_untyped rfl grouped fun child member => ?_
            grind
        · exact .pure leftShaped
    · exact .pure leftShaped

end Parse

/-! The levels. -/

theorem Level.ofNesting_shaping {nesting : Nesting} (shaping : nesting.Shaping) :
    (ofNesting nesting).Shaping where
  type := Parse.unionType_leaves shaping
  arraySuffix := Parse.arraySuffix_leaves shaping
  assignment := Parse.assignment_shaped shaping
  unary := Parse.unary_shaped shaping
  newExpression := Parse.newExpression_shaped shaping
  operator := Parse.operator_leaves shaping
  suffix := Parse.suffix_shaped shaping
  typedSuffix := Parse.typedSuffix_shaped shaping

theorem Nesting.ofRoom_shaping (rules : Rules) (room : Nat) : (ofRoom rules room).Shaping := by
  induction room with
  | zero =>
      refine ⟨fun {level} found => ?_, Nesting.ofRoom_reading rules 0⟩
      cases found
  | succ room induction =>
      refine ⟨fun {level} found => ?_, Nesting.ofRoom_reading rules (room + 1)⟩
      cases found
      exact Level.ofNesting_shaping induction

end TypedScript
