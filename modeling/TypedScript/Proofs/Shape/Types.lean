import TypedScript.Parser.Types
import TypedScript.Proofs.Reading.Types
import TypedScript.Proofs.Shape.Basic

/-!
The shape of types. A function type ends where its result does, and a result is a whole type, so
what would go on with a type does not come next there. That is why a function type is the last
member of every list that it is in, and no element of an array.
-/

namespace TypedScript

open Node

attribute [local grind =] Node.children TypeExpr.children TypeMember.children
  TypeParameter.children Parameter.children

attribute [local grind .] shaped_identifier shaped_literal

namespace Parse

variable {nesting : Nesting} {before after : Cursor}

/-! Functions. -/

theorem declaredType?_shaped (shaping : nesting.Shaping) :
    Yields (declaredType? nesting) fun found => ∀ type ∈ found, Shaped .type type :=
  .afterMark .colon shaping.type

theorem typeParameter_shaped (shaping : nesting.Shaping) :
    Yields (typeParameter nesting) (Shaped .typeParameter) := by
  apply Yields.andThen
  intro start
  apply Yields.andThen
  intro name
  apply (Yields.afterWord "extends" shaping.type).bind
  intro constraint constraintShaped
  apply (Yields.afterMark .equals shaping.type).bind
  intro fallback fallbackShaped
  apply Yields.andThen
  intro span
  apply Yields.pure
  refine shaped_plain rfl fun child member => ?_
  grind

theorem typeParameters_shaped (shaping : nesting.Shaping) :
    Yields (typeParameters nesting) fun parameters =>
      ∀ parameter ∈ parameters, Shaped .typeParameter parameter := by
  apply Yields.andThen
  intro found
  split
  · have turn : Yields (typeParameterTurn nesting) (Turn.Holds (Shaped .typeParameter)) := by
      apply (typeParameter_shaped shaping).bind
      intro parameter shaped
      apply Yields.andThen
      intro found
      split
      · apply Yields.andThen
        intro closing
        split
        · exact .pure shaped
        · exact .pure shaped
      · exact .pure shaped
    apply (Yields.repeated turn).bind
    intro parameters shaped
    apply Yields.andThen
    intro closing
    exact .pure shaped
  · exact .pure (by simp)

theorem parameter_shaped (shaping : nesting.Shaping) (allowInitializer : Bool) :
    Yields (parameter nesting allowInitializer) (Shaped .parameter) := by
  have initializers : Yields (initializer? nesting allowInitializer) fun found =>
      ∀ value ∈ found, Shaped .expression value := by
    unfold initializer?
    split
    · exact .afterMark .equals shaping.expression
    · exact .absent
  apply Yields.andThen
  intro start
  apply Yields.andThen
  intro isRest
  apply Yields.andThen
  intro name
  apply Yields.andThen
  intro optional
  apply (declaredType?_shaped shaping).bind
  intro declaredType declaredTypeShaped
  apply initializers.bind
  intro initializer initializerShaped
  apply Yields.andThen
  intro span
  apply Yields.pure
  refine shaped_plain rfl fun child member => ?_
  grind

theorem parameters_shaped (shaping : nesting.Shaping) (allowInitializers : Bool) :
    Yields (parameters nesting allowInitializers) fun parameters =>
      ∀ parameter ∈ parameters, Shaped .parameter parameter := by
  apply Yields.andThen
  intro opening
  apply (Yields.commaList .closeParen (parameter_shaped shaping allowInitializers)).bind
  intro parameters shaped
  apply Yields.andThen
  intro closing
  exact .pure shaped

/-! Type arguments and members. -/

theorem repeated_ne_nil {α : Type} {turn : Parse (Turn α)}
    (finds : Yields turn fun turned => turned ≠ .stop) : Yields (repeated turn) (· ≠ []) := by
  refine ⟨fun {before after items} parsed => ?_⟩
  fun_induction repeated turn before generalizing items with
  | case1 => cases parsed
  | case2 _ _ run => exact absurd rfl (finds.of_ok run)
  | case4 => cases parsed
  | case3 | case5 | case6 =>
      cases parsed
      exact List.cons_ne_nil _ _

theorem requiredType_shaped (shaping : nesting.Shaping) :
    Yields (requiredType nesting) (Shaped .type) := by
  apply Yields.andThen
  intro starts
  exact shaping.type

theorem typeArguments_shaped (shaping : nesting.Shaping) :
    Yields (typeArguments nesting) ShapedArguments := by
  have shapes := Yields.repeated
    ((requiredType_shaped shaping).bind fun _ => Yields.commaTurn)
  have finds : Yields (requiredType nesting >>= commaTurn) fun turned => turned ≠ .stop := by
    apply Yields.andThen
    intro type
    apply Yields.andThen
    intro found
    split
    · exact .pure (by simp)
    · exact .pure (by simp)
  have both : Yields (repeated (requiredType nesting >>= commaTurn)) ShapedArguments :=
    ⟨fun parsed => ⟨shapes.of_ok parsed, (repeated_ne_nil finds).of_ok parsed⟩⟩
  apply Yields.andThen
  intro opening
  apply both.bind
  intro arguments shaped
  apply Yields.andThen
  intro closing
  exact .pure shaped

theorem typeArguments?_shaped (shaping : nesting.Shaping) :
    Yields (typeArguments? nesting) fun found =>
      ∀ arguments ∈ found, ShapedArguments arguments := by
  apply Yields.andThen
  intro found
  split
  · exact (typeArguments_shaped shaping).present
  · exact .absent

theorem typeArgumentsInExpression?_shaped (shaping : nesting.Shaping) :
    Yields (typeArgumentsInExpression? nesting) fun found =>
      ∀ arguments ∈ found, ShapedArguments arguments := by
  apply Yields.andThen
  intro found
  split
  · apply Yields.speculate
    apply (typeArguments_shaped shaping).bind
    intro arguments shaped
    apply Yields.andThen
    intro token
    apply Yields.andThen
    intro cursor
    split
    · exact .absent
    · split
      · exact .pure (by simpa using shaped)
      · exact .absent
  · exact .absent

theorem typeMember_shaped (shaping : nesting.Shaping) :
    Yields (typeMember nesting) (Shaped .typeMember) := by
  have propertyShaped (start : Nat) (name : Identifier) (optional : Bool) :
      Yields (propertySignature nesting start name optional) (Shaped .typeMember) := by
    apply (declaredType?_shaped shaping).bind
    intro declaredType shaped
    apply Yields.andThen
    intro span
    apply Yields.pure
    refine shaped_plain rfl fun child member => ?_
    grind
  have methodShaped (start : Nat) (name : Identifier) (optional : Bool) :
      Yields (methodSignature nesting start name optional) (Shaped .typeMember) := by
    apply (typeParameters_shaped shaping).bind
    intro typeParameters typeParametersShaped
    apply (parameters_shaped shaping false).bind
    intro parameters parametersShaped
    apply (declaredType?_shaped shaping).bind
    intro result resultShaped
    apply Yields.andThen
    intro span
    apply Yields.pure
    refine shaped_plain rfl fun child member => ?_
    grind
  apply Yields.andThen
  intro start
  apply Yields.andThen
  intro name
  apply Yields.andThen
  intro optional
  apply Yields.andThen
  intro token
  split
  · exact methodShaped start name optional
  · exact methodShaped start name optional
  · exact propertyShaped start name optional

theorem typeMembers_shaped (shaping : nesting.Shaping) :
    Yields (typeMembers nesting) fun members => ∀ member ∈ members, Shaped .typeMember member := by
  have turn : Yields (memberTurn nesting) (Turn.Holds (Shaped .typeMember)) := by
    apply Yields.andThen
    intro token
    split
    · exact .pure trivial
    · exact .unexpected
    · apply (typeMember_shaped shaping).bind
      intro member shaped
      apply Yields.andThen
      intro separated
      exact .pure shaped
  apply Yields.andThen
  intro opening
  apply (Yields.repeated turn).bind
  intro members shaped
  apply Yields.andThen
  intro closing
  exact .pure shaped

/-! Types without what may follow them. -/

theorem typeReference_shaped (shaping : nesting.Shaping) :
    Yields (typeReference nesting) ShapedElement := by
  apply Yields.andThen
  intro start
  apply Yields.andThen
  intro token
  split
  · apply Yields.andThen
    intro first
    apply Yields.andThen
    intro parts
    apply Yields.andThen
    intro nameSpan
    apply (typeArguments?_shaped shaping).bind
    intro arguments shaped
    rcases shapedArguments_getD shaped with ⟨notEmpty, argumentsShaped⟩
    apply Yields.andThen
    intro span
    refine .pure ⟨shaped_type notEmpty fun child member => ?_, rfl⟩
    grind
  · exact .typeExpected

theorem literalType_shaped : Yields literalType ShapedElement := by
  apply Yields.andThen
  intro token
  split
  · apply Yields.andThen
    intro span
    refine .pure ⟨shaped_type trivial fun child member => ?_, rfl⟩
    grind
  · exact .typeExpected

theorem nameType_shaped (shaping : nesting.Shaping) : Yields (nameType nesting) ShapedElement := by
  apply Yields.andThen
  intro token
  split
  · exact literalType_shaped
  · split
    · exact typeReference_shaped shaping
    · apply Yields.andThen
      intro kind
      split
      · exact typeReference_shaped shaping
      · apply Yields.andThen
        intro taken
        apply Yields.andThen
        intro span
        refine .pure ⟨shaped_type trivial fun child member => ?_, rfl⟩
        grind

theorem parenthesizedType_shaped (shaping : nesting.Shaping) :
    Yields (parenthesizedType nesting) ShapedElement := by
  apply Yields.andThen
  intro start
  apply Yields.andThen
  intro opening
  apply shaping.type.bind
  intro inner shaped
  apply Yields.andThen
  intro closing
  apply Yields.andThen
  intro span
  refine .pure ⟨shaped_type trivial fun child member => ?_, rfl⟩
  grind

theorem tupleType_shaped (shaping : nesting.Shaping) :
    Yields (tupleType nesting) ShapedElement := by
  apply Yields.andThen
  intro start
  apply Yields.andThen
  intro opening
  apply (Yields.commaList .closeBracket (requiredType_shaped shaping)).bind
  intro elements shaped
  apply Yields.andThen
  intro closing
  apply Yields.andThen
  intro span
  refine .pure ⟨shaped_type trivial fun child member => ?_, rfl⟩
  grind

theorem objectType_shaped (shaping : nesting.Shaping) :
    Yields (objectType nesting) ShapedElement := by
  apply Yields.andThen
  intro start
  apply (typeMembers_shaped shaping).bind
  intro members shaped
  apply Yields.andThen
  intro span
  refine .pure ⟨shaped_type trivial fun child member => ?_, rfl⟩
  grind

theorem functionType_leaves (shaping : nesting.Shaping) :
    Leaves (functionType nesting) TypeExpr.EndsPrimary := by
  refine ⟨fun parsed => ?_⟩
  simp only [functionType, bind_eq_ok, spanFrom_eq_ok, pure_eq_ok] at parsed
  rcases parsed with ⟨_, _, _, typeParameters, _, typeParametersParsed, parameters, _,
    parametersParsed, _, _, _, result, _, resultParsed, _, _, ⟨rfl, rfl⟩, rfl, rfl⟩
  have typeParametersShaped := (typeParameters_shaped shaping).of_ok typeParametersParsed
  have parametersShaped := (parameters_shaped shaping false).of_ok parametersParsed
  have resultEnds := shaping.typeLeaving.of_ok resultParsed
  have resultShaped := resultEnds.shaped
  refine ⟨shaped_type trivial fun child member => ?_, rfl, rfl, fun _ => resultEnds.ends⟩
  grind

theorem primaryType_leaves (shaping : nesting.Shaping) :
    Leaves (primaryType nesting) TypeExpr.EndsPrimary := by
  apply Leaves.andThen
  intro token
  split
  · exact (nameType_shaped shaping).leavesPrimary
  · exact literalType_shaped.leavesPrimary
  · exact literalType_shaped.leavesPrimary
  · apply Leaves.andThen
    intro isFunction
    split
    · exact functionType_leaves shaping
    · exact (parenthesizedType_shaped shaping).leavesPrimary
  · exact functionType_leaves shaping
  · exact (objectType_shaped shaping).leavesPrimary
  · exact (tupleType_shaped shaping).leavesPrimary
  · exact ⟨fun parsed => absurd parsed typeExpected_ne_ok⟩

/-! Arrays. -/

theorem arraySuffixes_leaves (shaping : nesting.Shaping) {start : Nat} {element value : TypeExpr}
    (ends : element.EndsPrimary before)
    (parsed : arraySuffixes nesting start element before = .ok value after) :
    value.EndsPostfix after := by
  simp only [arraySuffixes, bind_eq_ok, current_eq_ok] at parsed
  rcases parsed with ⟨first, _, ⟨peeked, rfl⟩, parsed⟩
  split at parsed
  · next opens =>
      simp only [bind_eq_ok, kindAhead_eq_ok] at parsed
      rcases parsed with ⟨_, _, ⟨⟨second, peekedSecond, rfl⟩, rfl⟩, parsed⟩
      split at parsed
      · next closes =>
          simp only [bind_eq_ok, Nesting.enter_eq_ok] at parsed
          rcases parsed with ⟨level, _, ⟨inner, rfl⟩, parsed⟩
          have atArray : before.AtArray := ⟨first, second, peeked, opens, peekedSecond, closes⟩
          have isElement : element.isElement = true :=
            TypeExpr.isElement_of_not_endsInFunction ends.noUnion ends.noIntersection
              fun endsInFunction => (ends.closed endsInFunction).noArray atArray
          exact ((shaping.inner inner).arraySuffix ⟨ends.shaped, isElement⟩).of_ok parsed
      · next opensOnly =>
          rcases pure_eq_ok.mp parsed with ⟨rfl, rfl⟩
          refine ⟨ends, ?_⟩
          rintro ⟨_, other, _, _, found, closes⟩
          cases peekedSecond.symm.trans found
          exact opensOnly closes
  · next opensNot =>
      rcases pure_eq_ok.mp parsed with ⟨rfl, rfl⟩
      refine ⟨ends, ?_⟩
      rintro ⟨other, _, found, opens, _⟩
      cases peeked.symm.trans found
      exact opensNot opens

theorem arraySuffix_leaves (shaping : nesting.Shaping) {start : Nat} {element : TypeExpr}
    (elementShaped : ShapedElement element) :
    Leaves (arraySuffix nesting start element) TypeExpr.EndsPostfix := by
  apply Leaves.andThen
  intro opening
  apply Leaves.andThen
  intro closing
  apply Leaves.andThen
  intro span
  have array : Shaped .type (.array span element) := by
    refine shaped_type elementShaped.isElement fun child member => ?_
    have shaped := elementShaped.shaped
    grind
  exact ⟨fun parsed => arraySuffixes_leaves shaping ⟨array, rfl, rfl, nofun⟩ parsed⟩

theorem postfixType_leaves (shaping : nesting.Shaping) :
    Leaves (postfixType nesting) TypeExpr.EndsPostfix := by
  apply Leaves.andThen
  intro start
  refine ⟨fun parsed => ?_⟩
  rcases bind_eq_ok.mp parsed with ⟨type, between, typeParsed, parsed⟩
  exact arraySuffixes_leaves shaping ((primaryType_leaves shaping).of_ok typeParsed) parsed

/-! Intersections and unions. -/

theorem atMark_of_accept {mark : Punctuator} {found : Bool}
    (parsed : accept mark before = .ok found after) : found = true ↔ before.AtMark mark := by
  simp only [accept, bind_eq_ok, atMark_eq_ok] at parsed
  rcases parsed with ⟨_, _, ⟨⟨token, peeked, rfl⟩, rfl⟩, parsed⟩
  have atMark : before.AtMark mark ↔ token.isMark mark = true := by
    constructor
    · rintro ⟨other, found, isMark⟩
      cases peeked.symm.trans found
      exact isMark
    · exact fun isMark => ⟨token, peeked, isMark⟩
  rw [atMark]
  split at parsed
  · next isMark =>
      simp only [bind_eq_ok, take_eq_ok, pure_eq_ok] at parsed
      rcases parsed with ⟨_, _, _, rfl, _⟩
      exact iff_of_true rfl isMark
  · next isNoMark =>
      rcases pure_eq_ok.mp parsed with ⟨rfl, _⟩
      exact iff_of_false Bool.false_ne_true isNoMark

section Lists

variable {mark : Punctuator} {member : Parse TypeExpr} {ends : TypeExpr → Cursor → Prop}
  {spelled : TypeExpr → List Lexeme → Prop} {members : List TypeExpr}

/-- Members of a list that goes up to some place: behind each of them the mark comes next, but not
behind the last. -/
structure Members (mark : Punctuator) (ends : TypeExpr → Cursor → Prop) (members : List TypeExpr)
    (after : Cursor) : Prop where
  each : ∀ type ∈ members, ∃ place, ends type place
  followed : ∀ type ∈ members.dropLast, ∃ place, ends type place ∧ place.AtMark mark
  last : ∃ type, members.getLast? = some type ∧ ends type after
  noMore : ¬ after.AtMark mark

theorem Members.single {type : TypeExpr} (typeEnds : ends type after)
    (noMore : ¬ after.AtMark mark) : Members mark ends [type] after where
  each := by
    rintro other (_ | ⟨_, ⟨⟩⟩)
    exact ⟨after, typeEnds⟩
  followed := nofun
  last := ⟨type, rfl, typeEnds⟩
  noMore := noMore

theorem Members.cons {first second : TypeExpr} {others : List TypeExpr}
    (members : Members mark ends (second :: others) after) (firstEnds : ends first before)
    (atMark : before.AtMark mark) : Members mark ends (first :: second :: others) after where
  each := List.forall_mem_cons.mpr ⟨⟨before, firstEnds⟩, members.each⟩
  followed := by
    rw [List.dropLast_cons_cons]
    exact List.forall_mem_cons.mpr ⟨⟨before, firstEnds, atMark⟩, members.followed⟩
  last := by
    rw [List.getLast?_cons_cons]
    exact members.last
  noMore := members.noMore

theorem repeated_markTurn_members (leaves : Leaves member ends)
    (reads : Reads member spelled fun type => [.type type])
    (parsed : repeated (markTurn mark member) before = .ok members after) :
    (members = [] → ¬ before.AtMark mark) ∧
      ∀ first, ends first before → Members mark ends (first :: members) after := by
  refine repeated_induction (motive := fun members before after =>
    (members = [] → ¬ before.AtMark mark) ∧
      ∀ first, ends first before → Members mark ends (first :: members) after) ?_ parsed
  intro before turned after parsed
  simp only [markTurn, bind_eq_ok] at parsed
  rcases parsed with ⟨found, between, accepted, parsed⟩
  have atMark := atMark_of_accept accepted
  have lead := accept_piece accepted
  cases found with
  | false =>
      rcases pure_eq_ok.mp parsed with ⟨rfl, rfl⟩
      rcases lead.eq_of_nil with rfl
      have noMore : ¬ before.AtMark mark := by simpa using atMark
      exact ⟨fun _ => noMore, fun first firstEnds => .single firstEnds noMore⟩
  | true =>
      rcases map_eq_ok.mp parsed with ⟨value, memberParsed, rfl⟩
      rcases reads memberParsed with ⟨_, _, piece⟩
      refine ⟨(lead.append piece).length_lt (by simp [Lexeme.flag]), ?_⟩
      rintro others later ⟨_, goesOn⟩
      refine ⟨by rintro ⟨⟩, fun first firstEnds => ?_⟩
      exact (goesOn value (leaves.of_ok memberParsed)).cons firstEnds (atMark.mp rfl)

theorem listType_leaves {build : Span → List TypeExpr → TypeExpr} (leaves : Leaves member ends)
    (reads : Reads member spelled fun type => [.type type]) :
    Leaves (listType mark build member) fun type after =>
      (ends type after ∧ ¬ after.AtMark mark) ∨
        ∃ span members, type = build span members ∧ 2 ≤ members.length ∧
          Members mark ends members after := by
  refine ⟨fun parsed => ?_⟩
  simp only [listType, bind_eq_ok, currentStart_eq_ok, atMark_eq_ok] at parsed
  rcases parsed with ⟨_, _, _, _, _, _, first, between, firstParsed, _, _,
    ⟨⟨token, peeked, rfl⟩, rfl⟩, parsed⟩
  have firstEnds := leaves.of_ok firstParsed
  split at parsed
  · next isMark =>
      simp only [bind_eq_ok, spanFrom_eq_ok, pure_eq_ok] at parsed
      rcases parsed with ⟨others, _, othersParsed, _, _, ⟨rfl, rfl⟩, rfl, rfl⟩
      rcases repeated_markTurn_members leaves reads othersParsed with ⟨notEmpty, goesOn⟩
      refine .inr ⟨_, _, rfl, ?_, goesOn first firstEnds⟩
      have positive : 0 < others.length :=
        List.length_pos_iff.mpr fun empty => notEmpty empty ⟨token, peeked, isMark⟩
      rw [List.length_cons]
      omega
  · next isNoMark =>
      rcases pure_eq_ok.mp parsed with ⟨rfl, rfl⟩
      refine .inl ⟨firstEnds, ?_⟩
      rintro ⟨other, found, isMark⟩
      cases peeked.symm.trans found
      exact isNoMark isMark

end Lists

theorem intersectionType_leaves (shaping : nesting.Shaping) :
    Leaves (intersectionType nesting) TypeExpr.EndsIntersection := by
  refine ⟨fun parsed => ?_⟩
  rcases (listType_leaves (postfixType_leaves shaping)
    (postfixType_forms shaping.reading).reads).of_ok parsed with
    ⟨ends, noMore⟩ | ⟨span, members, rfl, several, list⟩
  · exact ⟨ends.shaped, ends.noUnion, ends.noArray, noMore, ends.closed⟩
  · rcases list.last with ⟨last, isLast, lastEnds⟩
    have flat : ∀ member ∈ members, member.isUnion = false ∧ member.isIntersection = false := by
      intro member found
      rcases list.each member found with ⟨_, ends⟩
      exact ⟨ends.noUnion, ends.noIntersection⟩
    have goesOn : ∀ member ∈ members.dropLast, ¬member.EndsInFunction := by
      intro member found endsInFunction
      rcases list.followed member found with ⟨_, ends, atMark⟩
      exact (ends.closed endsInFunction).noIntersection atMark
    have shaped : Shaped .type (.intersection span members) := by
      refine shaped_type ⟨several, flat, goesOn⟩ fun child found => ?_
      rcases List.mem_map.mp found with ⟨member, isMember, rfl⟩
      rcases list.each member isMember with ⟨_, ends⟩
      exact ends.shaped
    refine ⟨shaped, rfl, lastEnds.noArray, list.noMore, fun closed => ?_⟩
    cases closed with
    | intersection isFinal endsInFunction =>
        cases isLast.symm.trans isFinal
        exact lastEnds.closed endsInFunction

theorem unionType_leaves (shaping : nesting.Shaping) :
    Leaves (unionType nesting) TypeExpr.EndsUnion := by
  refine ⟨fun parsed => ?_⟩
  rcases (listType_leaves (intersectionType_leaves shaping)
    (intersectionType_reads shaping.reading)).of_ok parsed with
    ⟨ends, noMore⟩ | ⟨span, members, rfl, several, list⟩
  · exact ⟨ends.shaped, ends.noArray, ends.noMore, noMore⟩
  · rcases list.last with ⟨last, _, lastEnds⟩
    have flat : ∀ member ∈ members, member.isUnion = false := by
      intro member found
      rcases list.each member found with ⟨_, ends⟩
      exact ends.noUnion
    have goesOn : ∀ member ∈ members.dropLast, ¬member.EndsInFunction := by
      intro member found endsInFunction
      rcases list.followed member found with ⟨_, ends, atMark⟩
      exact (ends.closed endsInFunction).noUnion atMark
    refine ⟨shaped_type ⟨several, flat, goesOn⟩ fun child found => ?_,
      lastEnds.noArray, lastEnds.noMore, list.noMore⟩
    rcases List.mem_map.mp found with ⟨member, isMember, rfl⟩
    rcases list.each member isMember with ⟨_, ends⟩
    exact ends.shaped

end Parse

end TypedScript
