import Mathlib.Tactic.Ring
import TypedScript.Parser.Expressions
import TypedScript.Proofs.Depth.Types

/-!
How deep expressions are. At every level there may be one chain of accesses after another inside a
`new`, a second one around it, and a chain of operators around both, each as long as there are
levels left. Levels that a chain has taken are free again once it ends, although the tree is as
deep as before.
-/

namespace TypedScript

open Node

attribute [local grind =] Node.children Expression.children

attribute [local grind .] within_identifier within_literal within_functionBody

namespace Parse

variable {nesting : Nesting} {types expressions room : Nat}

/-! Arguments, objects and arrays. -/

theorem arguments_keeps (bounded : nesting.Bounded types expressions room) :
    Yields (arguments nesting) fun arguments =>
      ∀ value ∈ arguments, Keeps .expression expressions value := by
  apply Yields.andThen
  intro opening
  apply (Yields.commaList .closeParen bounded.expression).bind
  intro arguments keep
  apply Yields.andThen
  intro closing
  exact .pure keep

theorem arguments?_keeps (bounded : nesting.Bounded types expressions room) :
    Yields (arguments? nesting) fun found =>
      ∀ arguments ∈ found, ∀ value ∈ arguments, Keeps .expression expressions value := by
  apply Yields.andThen
  intro found
  split
  · exact (arguments_keeps bounded).present
  · exact .absent

theorem within_propertyKey (key : PropertyKey) {bound : Nat} : Keeps .propertyKey bound key := by
  refine within_plain rfl fun child member => ?_
  cases key <;> grind

theorem objectProperty_keeps (bounded : nesting.Bounded types expressions room) :
    Yields (objectProperty nesting) (Keeps .objectProperty expressions) := by
  apply Yields.andThen
  intro token
  apply Yields.andThen
  intro key
  apply Yields.andThen
  intro hasValue
  split
  · apply bounded.expression.bind
    intro value keeps
    apply Yields.andThen
    intro span
    apply Yields.pure
    refine within_plain rfl fun child member => ?_
    grind [within_propertyKey]
  · split
    · split
      · apply Yields.andThen
        intro span
        apply Yields.pure
        refine within_plain rfl fun child member => ?_
        grind
      · exact .unexpected
    · exact .unexpected

theorem objectLiteral_keeps (bounded : nesting.Bounded types expressions room) :
    Yields (objectLiteral nesting) (Keeps .expression (expressions + 1)) := by
  apply Yields.andThen
  intro start
  apply Yields.andThen
  intro opening
  apply (Yields.commaList .closeBrace (objectProperty_keeps bounded)).bind
  intro properties keep
  apply Yields.andThen
  intro closing
  apply Yields.andThen
  intro span
  apply Yields.pure
  refine within_succ fun child member => ?_
  grind

theorem arrayLiteral_keeps (bounded : nesting.Bounded types expressions room) :
    Yields (arrayLiteral nesting) (Keeps .expression (expressions + 1)) := by
  apply Yields.andThen
  intro start
  apply Yields.andThen
  intro opening
  apply (Yields.commaList .closeBracket bounded.expression).bind
  intro elements keep
  apply Yields.andThen
  intro closing
  apply Yields.andThen
  intro span
  apply Yields.pure
  refine within_succ fun child member => ?_
  grind

theorem parenthesizedExpression_keeps (bounded : nesting.Bounded types expressions room) :
    Yields (parenthesizedExpression nesting) (Keeps .expression (expressions + 1)) := by
  apply Yields.andThen
  intro start
  apply Yields.andThen
  intro opening
  apply bounded.expression.bind
  intro inner keeps
  apply Yields.andThen
  intro closing
  apply Yields.andThen
  intro span
  apply Yields.pure
  refine within_succ fun child member => ?_
  grind

theorem literalOrName_keeps : Yields literalOrName (Keeps .expression (expressions + 1)) := by
  apply Yields.andThen
  intro token
  split
  · apply Yields.pure
    refine within_succ fun child member => ?_
    grind
  · apply Yields.pure
    refine within_succ fun child member => ?_
    grind

theorem primaryExpression_keeps (bounded : nesting.Bounded types expressions room) :
    Yields (primaryExpression nesting) (Keeps .expression (expressions + 1)) := by
  apply Yields.andThen
  intro token
  split
  · exact literalOrName_keeps
  · exact literalOrName_keeps
  · exact literalOrName_keeps
  · exact parenthesizedExpression_keeps bounded
  · exact objectLiteral_keeps bounded
  · exact arrayLiteral_keeps bounded
  · exact .unexpected

/-! Accesses and calls. -/

section Suffixes

variable {bound start : Nat} {allowCalls : Bool} {base : Expression}

theorem suffixes_keeps (bounded : nesting.Bounded types expressions room)
    (le : expressions ≤ bound) (keeps : Keeps .expression bound base) :
    Yields (suffixes nesting start allowCalls base) (Keeps .expression (bound + room)) := by
  have unchanged : Keeps .expression (bound + room) base := keeps.mono (Nat.le_add_right _ _)
  have goesOn : Yields (nesting.enter .expression >>= fun level =>
      level.suffix start allowCalls base) (Keeps .expression (bound + room)) :=
    bounded.enter fun _ level => level.suffix le keeps
  apply Yields.andThen
  intro token
  split
  · exact goesOn
  · exact goesOn
  · exact goesOn
  · split
    · exact goesOn
    · exact .pure unchanged
  · split
    · apply (typeArgumentsInExpression?_keeps bounded).bind
      intro found argumentsKeep
      split
      · next typeArguments =>
          refine bounded.enter fun _ level => level.typedSuffix le keeps fun type member => ?_
          exact (argumentsKeep typeArguments rfl type member).mono
            (Nat.le_trans bounded.types_le le)
      · exact .pure unchanged
    · exact .pure unchanged
  · exact .pure unchanged

theorem suffixes_around (bounded : nesting.Bounded types expressions room)
    (le : expressions ≤ bound) (keeps : Keeps .expression (bound + 1) base) :
    Yields (suffixes nesting start allowCalls base) (Keeps .expression (bound + (room + 1))) := by
  rw [Nat.add_comm room 1, ← Nat.add_assoc]
  exact suffixes_keeps bounded (Nat.le_succ_of_le le) keeps

theorem within_call {span : Span} {typeArguments : Option (List TypeExpr)}
    {arguments : List Expression} (callee : Keeps .expression bound base)
    (typesKeep : ∀ list ∈ typeArguments, ∀ type ∈ list, Keeps .type bound type)
    (argumentsKeep : ∀ value ∈ arguments, Keeps .expression bound value) :
    Keeps .expression (bound + 1) (.call span base typeArguments arguments) := by
  apply within_succ
  simpa [children, Expression.children, callee, or_imp, forall_and] using
    ⟨forall_mem_getD typesKeep, argumentsKeep⟩

theorem suffix_keeps (bounded : nesting.Bounded types expressions room)
    (le : expressions ≤ bound) (keeps : Keeps .expression bound base) :
    Yields (suffix nesting start allowCalls base) (Keeps .expression (bound + (room + 1))) := by
  apply Yields.andThen
  intro token
  split
  · apply Yields.andThen
    intro opening
    apply bounded.expression.bind
    intro index indexKeeps
    apply Yields.andThen
    intro closing
    apply Yields.andThen
    intro span
    apply suffixes_around bounded le
    refine within_succ fun child member => ?_
    have indexWithin := indexKeeps.mono le
    grind
  · apply (arguments_keeps bounded).bind
    intro arguments argumentsKeep
    apply Yields.andThen
    intro span
    refine suffixes_around bounded le (within_call keeps (by simp) fun value member => ?_)
    exact (argumentsKeep value member).mono le
  · apply Yields.andThen
    intro mark
    apply Yields.andThen
    intro name
    apply Yields.andThen
    intro span
    apply suffixes_around bounded le
    refine within_succ fun child member => ?_
    grind

theorem typedSuffix_keeps (bounded : nesting.Bounded types expressions room)
    (le : expressions ≤ bound) (keeps : Keeps .expression bound base)
    {typeArguments : List TypeExpr}
    (typesKeep : ∀ type ∈ typeArguments, Keeps .type bound type) :
    Yields (typedSuffix nesting start allowCalls base typeArguments)
      (Keeps .expression (bound + (room + 1))) := by
  apply Yields.andThen
  intro isCall
  split
  · apply (arguments_keeps bounded).bind
    intro arguments argumentsKeep
    apply Yields.andThen
    intro span
    refine suffixes_around bounded le
      (within_call keeps (by simpa using typesKeep) fun value member => ?_)
    exact (argumentsKeep value member).mono le
  · apply Yields.andThen
    intro span
    apply suffixes_around bounded le
    refine within_succ fun child member => ?_
    grind

end Suffixes

theorem newExpression_keeps (bounded : nesting.Bounded types expressions room) :
    Yields (newExpression nesting) (Keeps .expression (expressions + room + 2)) := by
  have base : Yields (newBase nesting) (Keeps .expression (expressions + 1)) := by
    apply Yields.andThen
    intro token
    split
    · -- A `new` right after `new` takes a level, so all it can hold is bounded already.
      refine bounded.enter fun _ level => level.newExpression.imp fun value keeps => ?_
      exact keeps.mono (Nat.le_succ expressions)
    · exact primaryExpression_keeps bounded
  apply Yields.andThen
  intro start
  apply Yields.andThen
  intro word
  apply Yields.andThen
  intro baseStart
  apply base.bind
  intro value keeps
  apply (suffixes_keeps bounded (Nat.le_succ expressions) keeps).bind
  intro callee calleeKeeps
  apply (typeArgumentsInExpression?_keeps bounded).bind
  intro typeArguments typesKeep
  apply (arguments?_keeps bounded).bind
  intro arguments argumentsKeep
  apply Yields.andThen
  intro span
  apply Yields.pure
  have typesWithin : ∀ type ∈ typeArguments.getD [], Keeps .type (expressions + 1 + room) type :=
    forall_mem_getD fun list found type member =>
      (typesKeep list found type member).mono (by have le := bounded.types_le; omega)
  have argumentsWithin : ∀ value ∈ arguments.getD [],
      Keeps .expression (expressions + 1 + room) value :=
    forall_mem_getD fun list found value member =>
      (argumentsKeep list found value member).mono (by omega)
  have within : Keeps .expression (expressions + 1 + room + 1)
      (.new span callee typeArguments arguments) := by
    apply within_succ
    simpa [children, Expression.children, calleeKeeps, or_imp, forall_and] using
      ⟨typesWithin, argumentsWithin⟩
  exact within.mono (by omega)

theorem leftHandSide_keeps (bounded : nesting.Bounded types expressions room) :
    Yields (leftHandSide nesting) (Keeps .expression (expressions + 2 * room + 2)) := by
  have base : Yields (leftHandBase nesting) (Keeps .expression (expressions + room + 2)) := by
    apply Yields.andThen
    intro token
    split
    · exact newExpression_keeps bounded
    · exact (primaryExpression_keeps bounded).imp fun value keeps => keeps.mono (by omega)
  apply Yields.andThen
  intro start
  apply base.bind
  intro value keeps
  have suffixed : Yields (suffixes nesting start true value)
      (Keeps .expression (expressions + room + 2 + room)) :=
    suffixes_keeps bounded (by omega) keeps
  exact suffixed.imp fun whole keeps => keeps.mono (by omega)

/-! Operators. -/

theorem unary_keeps (bounded : nesting.Bounded types expressions room) :
    Yields (unary nesting) (Keeps .expression (expressions + 2 * room + 2)) := by
  apply Yields.andThen
  intro token
  split
  · next mark _ =>
      split
      · apply Yields.andThen
        intro taken
        refine bounded.enter fun _ level => ?_
        apply level.unary.bind
        intro operand keeps
        apply Yields.andThen
        intro span
        apply Yields.pure
        have within : Keeps .expression (expressions + 1) (.unary span mark operand) := by
          refine within_succ fun child member => ?_
          grind
        exact within.mono (by omega)
      · exact leftHandSide_keeps bounded
  · exact leftHandSide_keeps bounded

section Operators

variable {bound start minimum : Nat} {left : Expression}

theorem operators_keeps (bounded : nesting.Bounded types expressions room)
    (le : expressions ≤ bound) (keeps : Keeps .expression bound left) :
    Yields (operators nesting start minimum left) (Keeps .expression (bound + room)) := by
  have unchanged : Keeps .expression (bound + room) left := keeps.mono (Nat.le_add_right _ _)
  apply Yields.andThen
  intro found
  split
  · exact .pure unchanged
  · split
    · exact .pure unchanged
    · exact bounded.enter fun _ level => level.operator le keeps

theorem binary_keeps (bounded : nesting.Bounded types expressions room) :
    Yields (binary nesting minimum) (Keeps .expression (expressions + 3 * room + 2)) := by
  apply Yields.andThen
  intro start
  apply (unary_keeps bounded).bind
  intro value keeps
  have chained : Yields (operators nesting start minimum value)
      (Keeps .expression (expressions + 2 * room + 2 + room)) :=
    operators_keeps bounded (by omega) keeps
  exact chained.imp fun whole keeps => keeps.mono (by omega)

theorem operator_keeps (bounded : nesting.Bounded types expressions room)
    (le : expressions + 3 * room + 2 ≤ bound) (keeps : Keeps .expression bound left)
    {mark : Punctuator} {width precedence : Nat} :
    Yields (operator nesting start minimum left mark width precedence)
      (Keeps .expression (bound + (room + 1))) := by
  apply Yields.andThen
  intro skipped
  apply (binary_keeps bounded).bind
  intro right rightKeeps
  apply Yields.andThen
  intro span
  have within : Keeps .expression (bound + 1) (.binary span left mark right) := by
    refine within_succ fun child member => ?_
    -- The right operand was read one level deeper, so the left one decides.
    have rightWithin := rightKeeps.mono le
    grind
  rw [Nat.add_comm room 1, ← Nat.add_assoc]
  exact operators_keeps bounded (by omega) within

end Operators

theorem conditional_keeps (bounded : nesting.Bounded types expressions room) :
    Yields (conditional nesting) (Keeps .expression (expressions + 3 * room + 3)) := by
  apply Yields.andThen
  intro start
  apply (binary_keeps bounded).bind
  intro condition conditionKeeps
  apply Yields.andThen
  intro isConditional
  split
  · apply bounded.expression.bind
    intro whenTrue trueKeeps
    apply Yields.andThen
    intro colon
    apply bounded.expression.bind
    intro whenFalse falseKeeps
    apply Yields.andThen
    intro span
    apply Yields.pure
    refine within_succ fun child member => ?_
    have le : expressions ≤ expressions + 3 * room + 2 := by omega
    have trueWithin := trueKeeps.mono le
    have falseWithin := falseKeeps.mono le
    grind
  · exact .pure (conditionKeeps.mono (Nat.le_succ _))

/-! Arrow functions. -/

theorem arrowBody_keeps (bounded : nesting.Bounded types expressions room) :
    Yields (arrowBody nesting) fun body =>
      ∀ value, body = .expression value → Keeps .expression expressions value := by
  apply Yields.andThen
  intro isBlock
  split
  · refine Yields.map .any fun body _ value isExpression => ?_
    cases isExpression
  · refine bounded.expression.map fun value keeps other isExpression => ?_
    cases isExpression
    exact keeps

theorem within_arrow {bound : Nat} {span : Span} {parameters : List Parameter}
    {result : Option TypeExpr} {body : ArrowBody}
    (parametersKeep : ∀ parameter ∈ parameters, Keeps .parameter bound parameter)
    (resultKeeps : ∀ type ∈ result, Keeps .type bound type)
    (bodyKeeps : ∀ value, body = .expression value → Keeps .expression bound value) :
    Keeps .expression (bound + 1) (.arrow span parameters result body) := by
  refine within_succ fun child member => ?_
  cases body <;> grind

theorem simpleArrow_keeps (bounded : nesting.Bounded types expressions room) :
    Yields (simpleArrow nesting) (Keeps .expression (expressions + 1)) := by
  have plain (token : Token) : Keeps .parameter expressions
      ⟨token.span, false, identifierOf token, false, none, none⟩ := by
    apply within_plain rfl
    simp [children, Parameter.children]
  apply Yields.andThen
  intro token
  apply Yields.andThen
  intro arrow
  apply (arrowBody_keeps bounded).bind
  intro body bodyKeeps
  apply Yields.andThen
  intro span
  exact .pure (within_arrow (by simpa using plain token) (by simp) bodyKeeps)

theorem parenthesizedArrow_keeps (bounded : nesting.Bounded types expressions room) :
    Yields (parenthesizedArrow nesting) (Keeps .expression (expressions + 1)) := by
  apply Yields.andThen
  intro start
  apply (parameters_keeps bounded true bounded.types_le fun _ => Nat.le_refl expressions).bind
  intro parameters parametersKeep
  apply (declaredType?_keeps bounded).bind
  intro result resultKeeps
  apply Yields.andThen
  intro arrow
  apply (arrowBody_keeps bounded).bind
  intro body bodyKeeps
  apply Yields.andThen
  intro span
  refine .pure (within_arrow parametersKeep (fun type member => ?_) bodyKeeps)
  exact (resultKeeps type member).mono bounded.types_le

theorem arrow?_keeps (bounded : nesting.Bounded types expressions room) :
    Yields (arrow? nesting) fun found =>
      ∀ value ∈ found, Keeps .expression (expressions + 1) value := by
  apply Yields.andThen
  intro token
  split
  · apply Yields.andThen
    intro kind
    split
    · exact (simpleArrow_keeps bounded).present
    · exact .absent
  · apply Yields.andThen
    intro cursor
    split
    · exact (parenthesizedArrow_keeps bounded).present
    · exact .speculate (parenthesizedArrow_keeps bounded).present
    · exact .absent
  · exact .absent

/-! All expressions. -/

theorem assignment_keeps (bounded : nesting.Bounded types expressions room) :
    Yields (assignment nesting) (Keeps .expression (expressions + 3 * room + 4)) := by
  apply (arrow?_keeps bounded).bind
  intro found arrowKeeps
  split
  · next arrow =>
      exact .pure ((arrowKeeps arrow rfl).mono (by omega))
  · apply Yields.andThen
    intro start
    apply (conditional_keeps bounded).bind
    intro left leftKeeps
    have unchanged := leftKeeps.mono (Nat.le_succ _)
    apply Yields.andThen
    intro token
    split
    · split
      · apply Yields.andThen
        intro taken
        apply bounded.expression.bind
        intro right rightKeeps
        apply Yields.andThen
        intro span
        apply Yields.pure
        refine within_succ fun child member => ?_
        have rightWithin : Keeps .expression (expressions + 3 * room + 3) right :=
          rightKeeps.mono (by omega)
        grind
      · exact .pure unchanged
    · exact .pure unchanged

end Parse

/-! The levels. -/

theorem Level.ofNesting_bounded {nesting : Nesting} {types expressions room : Nat}
    (bounded : nesting.Bounded types expressions room) :
    (ofNesting nesting).Bounded (types + room + 3) (expressions + 3 * room + 4) (room + 1) where
  type := Parse.unionType_keeps bounded
  arraySuffix := Parse.arraySuffix_keeps bounded
  assignment := Parse.assignment_keeps bounded
  unary := (Parse.unary_keeps bounded).imp fun _ keeps => keeps.mono (by omega)
  newExpression := (Parse.newExpression_keeps bounded).imp fun _ keeps => keeps.mono (by omega)
  operator le keeps := Parse.operator_keeps bounded (by omega) keeps
  suffix le keeps := Parse.suffix_keeps bounded (by omega) keeps
  typedSuffix le keeps typesKeep := Parse.typedSuffix_keeps bounded (by omega) keeps typesKeep

def typeBound : Nat → Nat
  | 0 => 0
  | room + 1 => typeBound room + room + 3

def expressionBound : Nat → Nat
  | 0 => 0
  | room + 1 => expressionBound room + 3 * room + 4

theorem typeBound_eq (room : Nat) : 2 * typeBound room = room * (room + 5) := by
  induction room with
  | zero => rfl
  | succ room induction =>
      rw [typeBound, Nat.mul_add, Nat.mul_add, induction]
      ring

theorem expressionBound_eq (room : Nat) : 2 * expressionBound room = room * (3 * room + 5) := by
  induction room with
  | zero => rfl
  | succ room induction =>
      rw [expressionBound, Nat.mul_add, Nat.mul_add, induction]
      ring

theorem typeBound_le (room : Nat) : typeBound room ≤ expressionBound room := by
  induction room with
  | zero => exact Nat.le_refl 0
  | succ room induction =>
      simp only [typeBound, expressionBound]
      omega

theorem Nesting.ofRoom_bounded (rules : Rules) (room : Nat) :
    (ofRoom rules room).Bounded (typeBound room) (expressionBound room) room := by
  induction room with
  | zero =>
      refine ⟨fun {level} found => ?_, typeBound_le 0⟩
      cases found
  | succ room induction =>
      refine ⟨fun {level} found => ?_, typeBound_le (room + 1)⟩
      cases found
      exact Level.ofNesting_bounded induction

end TypedScript
