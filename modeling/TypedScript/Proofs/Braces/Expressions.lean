import TypedScript.Proofs.Braces.Basic
import TypedScript.Proofs.Skipping

/-!
The bodies in expressions match their braces: each of them is the body of an arrow function, and was
read at some place of the text. That the arrow function may have been a trial makes no difference.
-/

namespace TypedScript

open Node

structure Level.YieldsBraced (lexed : Lexed) (level : Level) : Prop where
  assignment : YieldsIn lexed level.assignment (Braced lexed .expression)
  unary : YieldsIn lexed level.unary (Braced lexed .expression)
  newExpression : YieldsIn lexed level.newExpression (Braced lexed .expression)
  operator {start minimum width precedence : Nat} {left : Expression} {mark : Punctuator} :
    Braced lexed .expression left →
    YieldsIn lexed (level.operator start minimum left mark width precedence)
      (Braced lexed .expression)
  suffix {start : Nat} {allowCalls : Bool} {base : Expression} : Braced lexed .expression base →
    YieldsIn lexed (level.suffix start allowCalls base) (Braced lexed .expression)
  typedSuffix {start : Nat} {allowCalls : Bool} {base : Expression} {types : List TypeExpr} :
    Braced lexed .expression base → (∀ type ∈ types, Braced lexed .type type) →
    YieldsIn lexed (level.typedSuffix start allowCalls base types) (Braced lexed .expression)

structure Nesting.YieldsBraced (lexed : Lexed) (nesting : Nesting) : Prop where
  inner {level : Level} : nesting.inner = some level → level.YieldsBraced lexed
  reading : nesting.Reading
  types : nesting.YieldsTypes

namespace Nesting.YieldsBraced

variable {lexed : Lexed} {nesting : Nesting} {α : Type}

theorem enter (braced : nesting.YieldsBraced lexed) {expected : Expected} {next : Level → Parse α}
    {holds : α → Prop}
    (deeper : ∀ level, level.YieldsBraced lexed → YieldsIn lexed (next level) holds) :
    YieldsIn lexed (nesting.enter expected >>= next) holds := by
  refine ⟨fun on parsed => ?_⟩
  simp only [Parse.bind_eq_ok, enter_eq_ok] at parsed
  rcases parsed with ⟨level, _, ⟨inner, rfl⟩, parsed⟩
  exact (deeper level (braced.inner inner)).of_ok on parsed

theorem expression (braced : nesting.YieldsBraced lexed) :
    YieldsIn lexed nesting.expression (Braced lexed .expression) :=
  braced.enter fun _ level => level.assignment

theorem type (braced : nesting.YieldsBraced lexed) :
    YieldsIn lexed nesting.type (Braced lexed .type) :=
  have : Parse.Skips nesting.type := .of_reads braced.reading.type
  .of_yields (braced.types.type.imp fun _ typing => typing.braced rfl)

end Nesting.YieldsBraced

attribute [local grind =] Node.children Expression.children Parameter.children

attribute [local grind .] braced_identifier braced_literal

namespace Parse

variable {lexed : Lexed} {nesting : Nesting}

/-! Arguments, objects and arrays. -/

theorem arguments_braced (braced : nesting.YieldsBraced lexed) :
    YieldsIn lexed (arguments nesting) fun arguments =>
      ∀ value ∈ arguments, Braced lexed .expression value := by
  apply YieldsIn.andThen
  intro opening
  apply (YieldsIn.commaList .closeParen braced.expression).bind
  intro arguments argumentsBraced
  apply YieldsIn.andThen
  intro closing
  exact .pure argumentsBraced

theorem arguments?_braced (braced : nesting.YieldsBraced lexed) :
    YieldsIn lexed (arguments? nesting) fun found =>
      ∀ arguments ∈ found, ∀ value ∈ arguments, Braced lexed .expression value := by
  apply YieldsIn.andThen
  intro found
  split
  · exact (arguments_braced braced).present
  · exact .absent

theorem braced_propertyKey (key : PropertyKey) : Braced lexed .propertyKey key := by
  refine everywhere_iff.mpr ⟨trivial, fun child member => ?_⟩
  cases key <;> grind

theorem objectProperty_braced (braced : nesting.YieldsBraced lexed) :
    YieldsIn lexed (objectProperty nesting) (Braced lexed .objectProperty) := by
  apply YieldsIn.andThen
  intro token
  apply YieldsIn.andThen
  intro key
  apply YieldsIn.andThen
  intro hasValue
  split
  · apply braced.expression.bind
    intro value valueBraced
    apply YieldsIn.andThen
    intro span
    refine .pure (everywhere_iff.mpr ⟨trivial, fun child member => ?_⟩)
    grind [braced_propertyKey]
  · split
    · split
      · apply YieldsIn.andThen
        intro span
        refine .pure (everywhere_iff.mpr ⟨trivial, fun child member => ?_⟩)
        grind
      · exact .unexpected
    · exact .unexpected

theorem objectLiteral_braced (braced : nesting.YieldsBraced lexed) :
    YieldsIn lexed (objectLiteral nesting) (Braced lexed .expression) := by
  apply YieldsIn.andThen
  intro start
  apply YieldsIn.andThen
  intro opening
  apply (YieldsIn.commaList .closeBrace (objectProperty_braced braced)).bind
  intro properties propertiesBraced
  apply YieldsIn.andThen
  intro closing
  apply YieldsIn.andThen
  intro span
  refine .pure (everywhere_iff.mpr ⟨trivial, fun child member => ?_⟩)
  grind

theorem arrayLiteral_braced (braced : nesting.YieldsBraced lexed) :
    YieldsIn lexed (arrayLiteral nesting) (Braced lexed .expression) := by
  apply YieldsIn.andThen
  intro start
  apply YieldsIn.andThen
  intro opening
  apply (YieldsIn.commaList .closeBracket braced.expression).bind
  intro elements elementsBraced
  apply YieldsIn.andThen
  intro closing
  apply YieldsIn.andThen
  intro span
  refine .pure (everywhere_iff.mpr ⟨trivial, fun child member => ?_⟩)
  grind

theorem parenthesizedExpression_braced (braced : nesting.YieldsBraced lexed) :
    YieldsIn lexed (parenthesizedExpression nesting) (Braced lexed .expression) := by
  apply YieldsIn.andThen
  intro start
  apply YieldsIn.andThen
  intro opening
  apply braced.expression.bind
  intro inner innerBraced
  apply YieldsIn.andThen
  intro closing
  apply YieldsIn.andThen
  intro span
  refine .pure (everywhere_iff.mpr ⟨trivial, fun child member => ?_⟩)
  grind

theorem literalOrName_braced : YieldsIn lexed literalOrName (Braced lexed .expression) := by
  apply YieldsIn.andThen
  intro token
  split
  · refine .pure (everywhere_iff.mpr ⟨trivial, fun child member => ?_⟩)
    grind
  · refine .pure (everywhere_iff.mpr ⟨trivial, fun child member => ?_⟩)
    grind

theorem primaryExpression_braced (braced : nesting.YieldsBraced lexed) :
    YieldsIn lexed (primaryExpression nesting) (Braced lexed .expression) := by
  apply YieldsIn.andThen
  intro token
  split
  · exact literalOrName_braced
  · exact literalOrName_braced
  · exact literalOrName_braced
  · exact parenthesizedExpression_braced braced
  · exact objectLiteral_braced braced
  · exact arrayLiteral_braced braced
  · exact .unexpected

/-! Accesses and calls. -/

theorem typeArgumentsInExpression?_braced (braced : nesting.YieldsBraced lexed) :
    YieldsIn lexed (typeArgumentsInExpression? nesting) fun found =>
      ∀ types ∈ found, ∀ type ∈ types, Braced lexed .type type := by
  have : Skips (typeArgumentsInExpression? nesting) :=
    .of_reads (typeArgumentsInExpression?_reads braced.reading)
  have typing : Yields (typeArgumentsInExpression? nesting) fun found =>
      ∀ types ∈ found, ∀ type ∈ types, Typing .type type := by
    apply Yields.andThen
    intro isAngle
    split
    · apply Yields.speculate
      apply (typeArguments_typing braced.types).bind
      intro types typing
      apply Yields.andThen
      intro token
      apply Yields.andThen
      intro cursor
      split
      · exact .absent
      · split
        · refine .pure ?_
          rintro _ ⟨⟩
          exact typing
        · exact .absent
    · exact .absent
  exact .of_yields (typing.imp fun found typing types isTypes type member =>
    (typing types isTypes type member).braced rfl)

section Suffixes

variable {start : Nat} {allowCalls : Bool} {base : Expression}

theorem suffixes_braced (braced : nesting.YieldsBraced lexed)
    (baseBraced : Braced lexed .expression base) :
    YieldsIn lexed (suffixes nesting start allowCalls base) (Braced lexed .expression) := by
  have goesOn : YieldsIn lexed
      (nesting.enter .expression >>= fun level => level.suffix start allowCalls base)
      (Braced lexed .expression) := braced.enter fun _ level => level.suffix baseBraced
  apply YieldsIn.andThen
  intro token
  split
  · exact goesOn
  · exact goesOn
  · exact goesOn
  · split
    · exact goesOn
    · exact .pure baseBraced
  · split
    · apply (typeArgumentsInExpression?_braced braced).bind
      intro found typesBraced
      split
      · exact braced.enter fun _ level => level.typedSuffix baseBraced (typesBraced _ rfl)
      · exact .pure baseBraced
    · exact .pure baseBraced
  · exact .pure baseBraced

theorem suffix_braced (braced : nesting.YieldsBraced lexed)
    (baseBraced : Braced lexed .expression base) :
    YieldsIn lexed (suffix nesting start allowCalls base) (Braced lexed .expression) := by
  apply YieldsIn.andThen
  intro token
  split
  · apply YieldsIn.andThen
    intro opening
    apply braced.expression.bind
    intro index indexBraced
    apply YieldsIn.andThen
    intro closing
    apply YieldsIn.andThen
    intro span
    refine suffixes_braced braced (everywhere_iff.mpr ⟨trivial, fun child member => ?_⟩)
    grind
  · apply (arguments_braced braced).bind
    intro arguments argumentsBraced
    apply YieldsIn.andThen
    intro span
    refine suffixes_braced braced (everywhere_iff.mpr ⟨trivial, fun child member => ?_⟩)
    grind
  · apply YieldsIn.andThen
    intro mark
    apply YieldsIn.andThen
    intro name
    apply YieldsIn.andThen
    intro span
    refine suffixes_braced braced (everywhere_iff.mpr ⟨trivial, fun child member => ?_⟩)
    grind

theorem typedSuffix_braced (braced : nesting.YieldsBraced lexed) {types : List TypeExpr}
    (baseBraced : Braced lexed .expression base)
    (typesBraced : ∀ type ∈ types, Braced lexed .type type) :
    YieldsIn lexed (typedSuffix nesting start allowCalls base types)
      (Braced lexed .expression) := by
  apply YieldsIn.andThen
  intro isCall
  split
  · apply (arguments_braced braced).bind
    intro arguments argumentsBraced
    apply YieldsIn.andThen
    intro span
    refine suffixes_braced braced (everywhere_iff.mpr ⟨trivial, fun child member => ?_⟩)
    grind
  · apply YieldsIn.andThen
    intro span
    refine suffixes_braced braced (everywhere_iff.mpr ⟨trivial, fun child member => ?_⟩)
    grind

end Suffixes

theorem newExpression_braced (braced : nesting.YieldsBraced lexed) :
    YieldsIn lexed (newExpression nesting) (Braced lexed .expression) := by
  have base : YieldsIn lexed (newBase nesting) (Braced lexed .expression) := by
    apply YieldsIn.andThen
    intro token
    split
    · exact braced.enter fun _ level => level.newExpression
    · exact primaryExpression_braced braced
  apply YieldsIn.andThen
  intro start
  apply YieldsIn.andThen
  intro word
  apply YieldsIn.andThen
  intro baseStart
  apply base.bind
  intro value valueBraced
  apply (suffixes_braced braced valueBraced).bind
  intro callee calleeBraced
  apply (typeArgumentsInExpression?_braced braced).bind
  intro types typesBraced
  apply (arguments?_braced braced).bind
  intro arguments argumentsBraced
  apply YieldsIn.andThen
  intro span
  have typesBraced := forall_mem_getD typesBraced
  have argumentsBraced := forall_mem_getD argumentsBraced
  refine .pure (everywhere_iff.mpr ⟨trivial, fun child member => ?_⟩)
  grind

theorem leftHandSide_braced (braced : nesting.YieldsBraced lexed) :
    YieldsIn lexed (leftHandSide nesting) (Braced lexed .expression) := by
  have base : YieldsIn lexed (leftHandBase nesting) (Braced lexed .expression) := by
    apply YieldsIn.andThen
    intro token
    split
    · exact newExpression_braced braced
    · exact primaryExpression_braced braced
  apply YieldsIn.andThen
  intro start
  apply base.bind
  intro value valueBraced
  exact suffixes_braced braced valueBraced

/-! Operators. -/

theorem unary_braced (braced : nesting.YieldsBraced lexed) :
    YieldsIn lexed (unary nesting) (Braced lexed .expression) := by
  apply YieldsIn.andThen
  intro token
  split
  · split
    · apply YieldsIn.andThen
      intro taken
      refine braced.enter fun _ level => ?_
      apply level.unary.bind
      intro operand operandBraced
      apply YieldsIn.andThen
      intro span
      refine .pure (everywhere_iff.mpr ⟨trivial, fun child member => ?_⟩)
      grind
    · exact leftHandSide_braced braced
  · exact leftHandSide_braced braced

section Operators

variable {start minimum : Nat} {left : Expression}

theorem operators_braced (braced : nesting.YieldsBraced lexed)
    (leftBraced : Braced lexed .expression left) :
    YieldsIn lexed (operators nesting start minimum left) (Braced lexed .expression) := by
  apply YieldsIn.andThen
  intro found
  split
  · exact .pure leftBraced
  · split
    · exact .pure leftBraced
    · exact braced.enter fun _ level => level.operator leftBraced

theorem binary_braced (braced : nesting.YieldsBraced lexed) (minimum : Nat) :
    YieldsIn lexed (binary nesting minimum) (Braced lexed .expression) := by
  apply YieldsIn.andThen
  intro start
  apply (unary_braced braced).bind
  intro left leftBraced
  exact operators_braced braced leftBraced

theorem operator_braced (braced : nesting.YieldsBraced lexed) {width precedence : Nat}
    {mark : Punctuator} (leftBraced : Braced lexed .expression left) :
    YieldsIn lexed (operator nesting start minimum left mark width precedence)
      (Braced lexed .expression) := by
  apply YieldsIn.andThen
  intro passed
  apply (binary_braced braced precedence).bind
  intro right rightBraced
  apply YieldsIn.andThen
  intro span
  refine operators_braced braced (everywhere_iff.mpr ⟨trivial, fun child member => ?_⟩)
  grind

end Operators

theorem conditional_braced (braced : nesting.YieldsBraced lexed) :
    YieldsIn lexed (conditional nesting) (Braced lexed .expression) := by
  apply YieldsIn.andThen
  intro start
  apply (binary_braced braced 0).bind
  intro condition conditionBraced
  apply YieldsIn.andThen
  intro isConditional
  split
  · apply braced.expression.bind
    intro whenTrue trueBraced
    apply YieldsIn.andThen
    intro colon
    apply braced.expression.bind
    intro whenFalse falseBraced
    apply YieldsIn.andThen
    intro span
    refine .pure (everywhere_iff.mpr ⟨trivial, fun child member => ?_⟩)
    grind
  · exact .pure conditionBraced

/-! Arrow functions. -/

theorem functionBody_braced : YieldsIn lexed functionBody (Braced lexed .functionBody) :=
  ⟨fun on parsed => ⟨braced_leaf (functionBody_matches on parsed) rfl,
    on.formed (functionBody_forms parsed)⟩⟩

theorem declaredType?_braced (braced : nesting.YieldsBraced lexed) :
    YieldsIn lexed (declaredType? nesting) fun found => ∀ type ∈ found, Braced lexed .type type :=
  .afterMark .colon braced.type

theorem parameter_braced (braced : nesting.YieldsBraced lexed) (allowInitializer : Bool) :
    YieldsIn lexed (parameter nesting allowInitializer) (Braced lexed .parameter) := by
  have initializers : YieldsIn lexed (initializer? nesting allowInitializer) fun found =>
      ∀ value ∈ found, Braced lexed .expression value := by
    unfold initializer?
    split
    · exact .afterMark .equals braced.expression
    · exact .absent
  apply YieldsIn.andThen
  intro start
  apply YieldsIn.andThen
  intro isRest
  apply YieldsIn.andThen
  intro name
  apply YieldsIn.andThen
  intro optional
  apply (declaredType?_braced braced).bind
  intro declaredType typeBraced
  apply initializers.bind
  intro initializer initializerBraced
  apply YieldsIn.andThen
  intro span
  refine .pure (everywhere_iff.mpr ⟨trivial, fun child member => ?_⟩)
  grind

theorem parameters_braced (braced : nesting.YieldsBraced lexed) (allowInitializers : Bool) :
    YieldsIn lexed (parameters nesting allowInitializers) fun parameters =>
      ∀ parameter ∈ parameters, Braced lexed .parameter parameter := by
  apply YieldsIn.andThen
  intro opening
  apply (YieldsIn.commaList .closeParen (parameter_braced braced allowInitializers)).bind
  intro parameters parametersBraced
  apply YieldsIn.andThen
  intro closing
  exact .pure parametersBraced

theorem arrowBody_braced (braced : nesting.YieldsBraced lexed) :
    YieldsIn lexed (arrowBody nesting) fun body => Braced lexed bodyNode body := by
  apply YieldsIn.andThen
  intro isBlock
  split
  · exact functionBody_braced.map fun _ bodyBraced => bodyBraced
  · exact braced.expression.map fun _ valueBraced => valueBraced

theorem braced_arrow {span : Span} {parameters : List Parameter} {result : Option TypeExpr}
    {body : ArrowBody}
    (parametersBraced : ∀ parameter ∈ parameters, Braced lexed .parameter parameter)
    (resultBraced : ∀ type ∈ result, Braced lexed .type type)
    (bodyBraced : Braced lexed bodyNode body) :
    Braced lexed .expression (.arrow span parameters result body) := by
  refine everywhere_iff.mpr ⟨trivial, fun child member => ?_⟩
  cases body <;> grind

theorem simpleArrow_braced (braced : nesting.YieldsBraced lexed) :
    YieldsIn lexed (simpleArrow nesting) (Braced lexed .expression) := by
  have plain (token : Token) : Braced lexed .parameter
      ⟨token.span, false, identifierOf token, false, none, none⟩ := by
    refine everywhere_iff.mpr ⟨trivial, ?_⟩
    simp [children, Parameter.children]
  apply YieldsIn.andThen
  intro token
  apply YieldsIn.andThen
  intro arrow
  apply (arrowBody_braced braced).bind
  intro body bodyBraced
  apply YieldsIn.andThen
  intro span
  exact .pure (braced_arrow (by simpa using plain token) (by simp) bodyBraced)

theorem parenthesizedArrow_braced (braced : nesting.YieldsBraced lexed) :
    YieldsIn lexed (parenthesizedArrow nesting) (Braced lexed .expression) := by
  apply YieldsIn.andThen
  intro start
  apply (parameters_braced braced true).bind
  intro parameters parametersBraced
  apply (declaredType?_braced braced).bind
  intro result resultBraced
  apply YieldsIn.andThen
  intro arrow
  apply (arrowBody_braced braced).bind
  intro body bodyBraced
  apply YieldsIn.andThen
  intro span
  exact .pure (braced_arrow parametersBraced resultBraced bodyBraced)

theorem arrow?_braced (braced : nesting.YieldsBraced lexed) :
    YieldsIn lexed (arrow? nesting) fun found =>
      ∀ value ∈ found, Braced lexed .expression value := by
  apply YieldsIn.andThen
  intro token
  split
  · apply YieldsIn.andThen
    intro kind
    split
    · exact (simpleArrow_braced braced).present
    · exact .absent
  · apply YieldsIn.andThen
    intro cursor
    split
    · exact (parenthesizedArrow_braced braced).present
    · exact .speculate (parenthesizedArrow_braced braced).present
    · exact .absent
  · exact .absent

/-! All expressions. -/

theorem assignment_braced (braced : nesting.YieldsBraced lexed) :
    YieldsIn lexed (assignment nesting) (Braced lexed .expression) := by
  apply (arrow?_braced braced).bind
  intro found arrowBraced
  split
  · next arrow => exact .pure (arrowBraced arrow rfl)
  · apply YieldsIn.andThen
    intro start
    apply (conditional_braced braced).bind
    intro left leftBraced
    apply YieldsIn.andThen
    intro token
    split
    · split
      · apply YieldsIn.andThen
        intro taken
        apply braced.expression.bind
        intro right rightBraced
        apply YieldsIn.andThen
        intro span
        refine .pure (everywhere_iff.mpr ⟨trivial, fun child member => ?_⟩)
        grind
      · exact .pure leftBraced
    · exact .pure leftBraced

end Parse

/-! The levels. -/

theorem Level.ofNesting_yieldsBraced {lexed : Lexed} {nesting : Nesting}
    (braced : nesting.YieldsBraced lexed) : (ofNesting nesting).YieldsBraced lexed where
  assignment := Parse.assignment_braced braced
  unary := Parse.unary_braced braced
  newExpression := Parse.newExpression_braced braced
  operator := Parse.operator_braced braced
  suffix := Parse.suffix_braced braced
  typedSuffix := Parse.typedSuffix_braced braced

theorem Nesting.ofRoom_yieldsBraced (lexed : Lexed) (rules : Rules) (room : Nat) :
    (ofRoom rules room).YieldsBraced lexed := by
  induction room with
  | zero => exact ⟨nofun, ofRoom_reading rules 0, ofRoom_yieldsTypes rules 0⟩
  | succ room induction =>
      refine ⟨?_, ofRoom_reading rules (room + 1), ofRoom_yieldsTypes rules (room + 1)⟩
      rintro level ⟨⟩
      exact Level.ofNesting_yieldsBraced induction

end TypedScript
