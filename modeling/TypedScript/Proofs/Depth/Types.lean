import TypedScript.Parser.Types
import TypedScript.Proofs.Depth.Basic

/-!
How deep types are. Every level adds a union, an intersection and one more type, and after it an
array for each of the levels that are left.
-/

namespace TypedScript

open Node

attribute [local grind =] Node.children TypeExpr.children TypeMember.children
  TypeParameter.children Parameter.children

attribute [local grind .] within_identifier within_literal

namespace Parse

variable {nesting : Nesting} {types expressions room : Nat}

/-! Functions. -/

theorem declaredType?_keeps (bounded : nesting.Bounded types expressions room) :
    Yields (declaredType? nesting) fun found => ∀ type ∈ found, Keeps .type types type :=
  .afterMark .colon bounded.type

theorem typeParameter_keeps (bounded : nesting.Bounded types expressions room) :
    Yields (typeParameter nesting) (Keeps .typeParameter types) := by
  apply Yields.andThen
  intro start
  apply Yields.andThen
  intro name
  apply (Yields.afterWord "extends" bounded.type).bind
  intro constraint constraintKeeps
  apply (Yields.afterMark .equals bounded.type).bind
  intro fallback fallbackKeeps
  apply Yields.andThen
  intro span
  apply Yields.pure
  refine within_plain rfl fun child member => ?_
  grind

theorem typeParameters_keeps (bounded : nesting.Bounded types expressions room) :
    Yields (typeParameters nesting) fun parameters =>
      ∀ parameter ∈ parameters, Keeps .typeParameter types parameter := by
  apply Yields.andThen
  intro found
  split
  · have turn : Yields (typeParameterTurn nesting) (Turn.Holds (Keeps .typeParameter types)) := by
      apply (typeParameter_keeps bounded).bind
      intro parameter keeps
      apply Yields.andThen
      intro found
      split
      · apply Yields.andThen
        intro closing
        split
        · exact .pure keeps
        · exact .pure keeps
      · exact .pure keeps
    apply (Yields.repeated turn).bind
    intro parameters keeps
    apply Yields.andThen
    intro closing
    exact .pure keeps
  · exact .pure (by simp)

theorem parameter_keeps (bounded : nesting.Bounded types expressions room)
    (allowInitializer : Bool) {bound : Nat} (typesLe : types ≤ bound)
    (initializersLe : allowInitializer = true → expressions ≤ bound) :
    Yields (parameter nesting allowInitializer) (Keeps .parameter bound) := by
  have initializers : Yields (initializer? nesting allowInitializer) fun found =>
      ∀ value ∈ found, Keeps .expression bound value := by
    unfold initializer?
    split
    · next allowed =>
        refine (Yields.afterMark .equals bounded.expression).imp fun found keeps value member => ?_
        exact (keeps value member).mono (initializersLe allowed)
    · exact .absent
  apply Yields.andThen
  intro start
  apply Yields.andThen
  intro isRest
  apply Yields.andThen
  intro name
  apply Yields.andThen
  intro optional
  apply (declaredType?_keeps bounded).bind
  intro declaredType declaredTypeKeeps
  apply initializers.bind
  intro initializer initializerKeeps
  apply Yields.andThen
  intro span
  apply Yields.pure
  refine within_plain rfl fun child member => ?_
  have declaredTypeWithin : ∀ type ∈ declaredType, Keeps .type bound type :=
    fun type found => (declaredTypeKeeps type found).mono typesLe
  grind

theorem parameters_keeps (bounded : nesting.Bounded types expressions room)
    (allowInitializers : Bool) {bound : Nat} (typesLe : types ≤ bound)
    (initializersLe : allowInitializers = true → expressions ≤ bound) :
    Yields (parameters nesting allowInitializers) fun parameters =>
      ∀ parameter ∈ parameters, Keeps .parameter bound parameter := by
  apply Yields.andThen
  intro opening
  apply (Yields.commaList .closeParen
    (parameter_keeps bounded allowInitializers typesLe initializersLe)).bind
  intro parameters keeps
  apply Yields.andThen
  intro closing
  exact .pure keeps

/-! Type arguments and members. -/

theorem requiredType_keeps (bounded : nesting.Bounded types expressions room) :
    Yields (requiredType nesting) (Keeps .type types) := by
  apply Yields.andThen
  intro starts
  exact bounded.type

theorem typeArguments_keeps (bounded : nesting.Bounded types expressions room) :
    Yields (typeArguments nesting) fun arguments => ∀ type ∈ arguments, Keeps .type types type := by
  apply Yields.andThen
  intro opening
  apply (Yields.repeated ((requiredType_keeps bounded).bind fun _ => Yields.commaTurn)).bind
  intro arguments keeps
  apply Yields.andThen
  intro closing
  exact .pure keeps

theorem typeArguments?_keeps (bounded : nesting.Bounded types expressions room) :
    Yields (typeArguments? nesting) fun found =>
      ∀ arguments ∈ found, ∀ type ∈ arguments, Keeps .type types type := by
  apply Yields.andThen
  intro found
  split
  · exact (typeArguments_keeps bounded).present
  · exact .absent

theorem typeArgumentsInExpression?_keeps (bounded : nesting.Bounded types expressions room) :
    Yields (typeArgumentsInExpression? nesting) fun found =>
      ∀ arguments ∈ found, ∀ type ∈ arguments, Keeps .type types type := by
  apply Yields.andThen
  intro found
  split
  · apply Yields.speculate
    apply (typeArguments_keeps bounded).bind
    intro arguments keeps
    apply Yields.andThen
    intro token
    apply Yields.andThen
    intro cursor
    split
    · exact .absent
    · split
      · exact .pure (by simpa using keeps)
      · exact .absent
  · exact .absent

theorem typeMember_keeps (bounded : nesting.Bounded types expressions room) :
    Yields (typeMember nesting) (Keeps .typeMember types) := by
  have propertyKeeps (start : Nat) (name : Identifier) (optional : Bool) :
      Yields (propertySignature nesting start name optional) (Keeps .typeMember types) := by
    apply (declaredType?_keeps bounded).bind
    intro declaredType keeps
    apply Yields.andThen
    intro span
    apply Yields.pure
    refine within_plain rfl fun child member => ?_
    grind
  have methodKeeps (start : Nat) (name : Identifier) (optional : Bool) :
      Yields (methodSignature nesting start name optional) (Keeps .typeMember types) := by
    apply (typeParameters_keeps bounded).bind
    intro typeParameters typeParametersKeep
    apply (parameters_keeps bounded false (Nat.le_refl types) (by simp)).bind
    intro parameters parametersKeep
    apply (declaredType?_keeps bounded).bind
    intro result resultKeeps
    apply Yields.andThen
    intro span
    apply Yields.pure
    refine within_plain rfl fun child member => ?_
    grind
  apply Yields.andThen
  intro start
  apply Yields.andThen
  intro name
  apply Yields.andThen
  intro optional
  apply Yields.andThen
  intro token
  split
  · exact methodKeeps start name optional
  · exact methodKeeps start name optional
  · exact propertyKeeps start name optional

theorem typeMembers_keeps (bounded : nesting.Bounded types expressions room) :
    Yields (typeMembers nesting) fun members =>
      ∀ member ∈ members, Keeps .typeMember types member := by
  have turn : Yields (memberTurn nesting) (Turn.Holds (Keeps .typeMember types)) := by
    apply Yields.andThen
    intro token
    split
    · exact .pure trivial
    · exact .unexpected
    · apply (typeMember_keeps bounded).bind
      intro member keeps
      apply Yields.andThen
      intro separated
      exact .pure keeps
  apply Yields.andThen
  intro opening
  apply (Yields.repeated turn).bind
  intro members keeps
  apply Yields.andThen
  intro closing
  exact .pure keeps

/-! Types without what may follow them. -/

theorem within_named {bound : Nat} {span : Span} {name : Identifier}
    {arguments : Option (List TypeExpr)}
    (keep : ∀ list ∈ arguments, ∀ type ∈ list, Keeps .type bound type) :
    Keeps .type (bound + 1) (.named span name arguments) := by
  apply within_succ
  simpa [children, TypeExpr.children] using forall_mem_getD keep

theorem typeReference_keeps (bounded : nesting.Bounded types expressions room) :
    Yields (typeReference nesting) (Keeps .type (types + 1)) := by
  apply Yields.andThen
  intro start
  apply Yields.andThen
  intro token
  split
  · apply Yields.andThen
    intro first
    apply Yields.andThen
    intro parts
    apply Yields.andThen
    intro nameSpan
    apply (typeArguments?_keeps bounded).bind
    intro arguments keeps
    apply Yields.andThen
    intro span
    exact .pure (within_named keeps)
  · exact .typeExpected

theorem literalType_keeps : Yields literalType (Keeps .type (types + 1)) := by
  apply Yields.andThen
  intro token
  split
  · apply Yields.andThen
    intro span
    apply Yields.pure
    refine within_succ fun child member => ?_
    grind
  · exact .typeExpected

theorem nameType_keeps (bounded : nesting.Bounded types expressions room) :
    Yields (nameType nesting) (Keeps .type (types + 1)) := by
  apply Yields.andThen
  intro token
  split
  · exact literalType_keeps
  · split
    · exact typeReference_keeps bounded
    · apply Yields.andThen
      intro kind
      split
      · exact typeReference_keeps bounded
      · apply Yields.andThen
        intro taken
        apply Yields.andThen
        intro span
        apply Yields.pure
        refine within_succ fun child member => ?_
        grind

theorem functionType_keeps (bounded : nesting.Bounded types expressions room) :
    Yields (functionType nesting) (Keeps .type (types + 1)) := by
  apply Yields.andThen
  intro start
  apply (typeParameters_keeps bounded).bind
  intro typeParameters typeParametersKeep
  apply (parameters_keeps bounded false (Nat.le_refl types) (by simp)).bind
  intro parameters parametersKeep
  apply Yields.andThen
  intro arrow
  apply bounded.type.bind
  intro result resultKeeps
  apply Yields.andThen
  intro span
  apply Yields.pure
  refine within_succ fun child member => ?_
  grind

theorem parenthesizedType_keeps (bounded : nesting.Bounded types expressions room) :
    Yields (parenthesizedType nesting) (Keeps .type (types + 1)) := by
  apply Yields.andThen
  intro start
  apply Yields.andThen
  intro opening
  apply bounded.type.bind
  intro inner keeps
  apply Yields.andThen
  intro closing
  apply Yields.andThen
  intro span
  apply Yields.pure
  refine within_succ fun child member => ?_
  grind

theorem tupleType_keeps (bounded : nesting.Bounded types expressions room) :
    Yields (tupleType nesting) (Keeps .type (types + 1)) := by
  apply Yields.andThen
  intro start
  apply Yields.andThen
  intro opening
  apply (Yields.commaList .closeBracket (requiredType_keeps bounded)).bind
  intro elements keep
  apply Yields.andThen
  intro closing
  apply Yields.andThen
  intro span
  apply Yields.pure
  refine within_succ fun child member => ?_
  grind

theorem objectType_keeps (bounded : nesting.Bounded types expressions room) :
    Yields (objectType nesting) (Keeps .type (types + 1)) := by
  apply Yields.andThen
  intro start
  apply (typeMembers_keeps bounded).bind
  intro members keep
  apply Yields.andThen
  intro span
  apply Yields.pure
  refine within_succ fun child member => ?_
  grind

theorem primaryType_keeps (bounded : nesting.Bounded types expressions room) :
    Yields (primaryType nesting) (Keeps .type (types + 1)) := by
  apply Yields.andThen
  intro token
  split
  · exact nameType_keeps bounded
  · exact literalType_keeps
  · exact literalType_keeps
  · apply Yields.andThen
    intro isFunction
    split
    · exact functionType_keeps bounded
    · exact parenthesizedType_keeps bounded
  · exact functionType_keeps bounded
  · exact objectType_keeps bounded
  · exact tupleType_keeps bounded
  · exact .typeExpected

/-! Arrays, intersections and unions. -/

theorem arraySuffixes_keeps (bounded : nesting.Bounded types expressions room) {bound start : Nat}
    {element : TypeExpr} (keeps : Keeps .type bound element) :
    Yields (arraySuffixes nesting start element) (Keeps .type (bound + room)) := by
  have unchanged : Keeps .type (bound + room) element := keeps.mono (Nat.le_add_right _ _)
  apply Yields.andThen
  intro token
  split
  · apply Yields.andThen
    intro kind
    split
    · exact bounded.enter fun _ level => level.arraySuffix keeps
    · exact .pure unchanged
  · exact .pure unchanged

theorem arraySuffix_keeps (bounded : nesting.Bounded types expressions room) {bound start : Nat}
    {element : TypeExpr} (keeps : Keeps .type bound element) :
    Yields (arraySuffix nesting start element) (Keeps .type (bound + (room + 1))) := by
  have array (span : Span) : Keeps .type (bound + 1) (.array span element) := by
    refine within_succ fun child member => ?_
    grind
  rw [Nat.add_comm room 1, ← Nat.add_assoc]
  apply Yields.andThen
  intro opening
  apply Yields.andThen
  intro closing
  apply Yields.andThen
  intro span
  exact arraySuffixes_keeps bounded (array span)

theorem postfixType_keeps (bounded : nesting.Bounded types expressions room) :
    Yields (postfixType nesting) (Keeps .type (types + 1 + room)) := by
  apply Yields.andThen
  intro start
  apply (primaryType_keeps bounded).bind
  intro type keeps
  exact arraySuffixes_keeps bounded keeps

theorem listType_keeps {bound : Nat} {mark : Punctuator}
    {build : Span → List TypeExpr → TypeExpr} {member : Parse TypeExpr}
    (members : Yields member (Keeps .type bound))
    (wraps : ∀ span types, (build span types).children = types.map .type) :
    Yields (listType mark build member) (Keeps .type (bound + 1)) := by
  have turn : Yields (markTurn mark member) (Turn.Holds (Keeps .type bound)) := by
    apply Yields.andThen
    intro found
    split
    · exact members.map fun _ keeps => keeps
    · exact .pure trivial
  apply Yields.andThen
  intro start
  apply Yields.andThen
  intro leading
  apply members.bind
  intro first firstKeeps
  apply Yields.andThen
  intro several
  split
  · apply (Yields.repeated turn).bind
    intro others othersKeep
    apply Yields.andThen
    intro span
    apply Yields.pure
    refine within_succ fun child member => ?_
    grind
  · exact .pure (firstKeeps.mono (Nat.le_succ bound))

theorem unionType_keeps (bounded : nesting.Bounded types expressions room) :
    Yields (unionType nesting) (Keeps .type (types + room + 3)) := by
  have intersection : Yields (intersectionType nesting) (Keeps .type (types + 1 + room + 1)) :=
    listType_keeps (postfixType_keeps bounded) fun _ _ => rfl
  have union : Yields (unionType nesting) (Keeps .type (types + 1 + room + 1 + 1)) :=
    listType_keeps intersection fun _ _ => rfl
  refine union.imp fun type keeps => keeps.mono ?_
  omega

end Parse

end TypedScript
