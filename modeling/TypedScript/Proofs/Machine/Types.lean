import TypedScript.Proofs.Machine.Basic

/-!
The productions for parameters and types, beside the rules of the grammar.
-/

namespace TypedScript.Machine

open Parse

variable {depth : Nat} {calls : Calls} {nesting : Nesting}

/-! Parameters. -/

theorem declaredType?_follows (agree : calls.Agree depth nesting) :
    Follows depth (Option.map TypeExpr.stored) (declaredType? calls)
      (Parse.declaredType? nesting) :=
  afterMark_follows _ agree.type

theorem typeParameter_follows (agree : calls.Agree depth nesting) :
    Follows depth TypeParameter.stored (typeParameter calls) (Parse.typeParameter nesting) := by
  refine .of_lift _ fun start => ?_
  apply identifier_follows.bind
  intro name
  apply (afterWord_follows _ agree.type).bind
  intro constraint
  apply (afterMark_follows _ agree.type).bind
  intro fallback
  apply (finish_follows _ start).bind
  intro span
  exact .pure (by simp)

theorem typeParameters_follows (agree : calls.Agree depth nesting) :
    Follows depth (List.map TypeParameter.stored) (typeParameters calls)
      (Parse.typeParameters nesting) := by
  have turn : Follows depth (Turn.map TypeParameter.stored) (typeParameterTurn calls)
      (Parse.typeParameterTurn nesting) := by
    apply (typeParameter_follows agree).bind
    intro parameter
    refine .of_lift _ fun comma => .ite ?_ (.pure rfl)
    exact .of_lift _ fun closes => .ite (.pure rfl) (.pure rfl)
  refine .of_lift _ fun opens => .ite ?_ (.pure rfl)
  apply (repeated_follows turn).bind
  intro parameters
  exact .of_lift _ fun _ => .pure rfl

theorem initializer?_follows (agree : calls.Agree depth nesting) (allowed : Bool) :
    Follows depth (Option.map Expression.stored) (initializer? calls allowed)
      (Parse.initializer? nesting allowed) :=
  .ite (afterMark_follows _ agree.expression) (.pure rfl)

theorem parameter_follows (agree : calls.Agree depth nesting) (allowInitializer : Bool) :
    Follows depth Parameter.stored (parameter calls allowInitializer)
      (Parse.parameter nesting allowInitializer) := by
  refine .of_lift _ fun start => .of_lift _ fun isRest => ?_
  apply identifier_follows.bind
  intro name
  refine .of_lift _ fun optional => ?_
  apply (declaredType?_follows agree).bind
  intro declaredType
  apply (initializer?_follows agree allowInitializer).bind
  intro initializer
  apply (finish_follows _ start).bind
  intro span
  exact .pure (by simp)

theorem parameters_follows (agree : calls.Agree depth nesting) (allowInitializers : Bool) :
    Follows depth (List.map Parameter.stored) (parameters calls allowInitializers)
      (Parse.parameters nesting allowInitializers) := by
  refine .of_lift _ fun _ => ?_
  apply (commaList_follows _ (parameter_follows agree allowInitializers)).bind
  intro list
  exact .of_lift _ fun _ => .pure rfl

/-! Type arguments and references. -/

theorem requiredType_follows (agree : calls.Agree depth nesting) :
    Follows depth TypeExpr.stored (requiredType calls) (Parse.requiredType nesting) :=
  .of_lift _ fun _ => agree.type

theorem typeArguments_follows (agree : calls.Agree depth nesting) :
    Follows depth (List.map TypeExpr.stored) (typeArguments calls)
      (Parse.typeArguments nesting) := by
  refine .of_lift _ fun _ => ?_
  apply (repeated_follows ((requiredType_follows agree).bind commaTurn_follows)).bind
  intro list
  exact .of_lift _ fun _ => .pure rfl

theorem typeArguments?_follows (agree : calls.Agree depth nesting) :
    Follows depth (Option.map (List.map TypeExpr.stored)) (typeArguments? calls)
      (Parse.typeArguments? nesting) :=
  .of_lift _ fun _ => .ite ((typeArguments_follows agree).map fun _ => rfl) (.pure rfl)

theorem typeArgumentsInExpression?_follows (agree : calls.Agree depth nesting) :
    Follows depth (Option.map (List.map TypeExpr.stored)) (typeArgumentsInExpression? calls)
      (Parse.typeArgumentsInExpression? nesting) := by
  have final : nesting.rules.isFinal = SyntaxError.isFinal := congrArg Rules.isFinal agree.rules
  unfold Parse.typeArgumentsInExpression?
  rw [final]
  refine .of_lift _ fun opens => .ite (speculate_follows ?_) (.pure rfl)
  apply (typeArguments_follows agree).bind
  intro arguments
  refine .of_lift _ fun token => .of_get fun cursor => .ite (.pure rfl) ?_
  exact .ite (.pure rfl) (.pure rfl)

theorem nameData_follows (start : Nat) (first : Token) (parts : List String) :
    Follows depth (NodeData.mk (.token .identifier)) (nameData start first parts)
      (nameSpan start first parts) :=
  .ite (.pure rfl) (finish_follows _ start)

theorem typeReference_follows (agree : calls.Agree depth nesting) :
    Follows depth TypeExpr.stored (typeReference calls) (Parse.typeReference nesting) := by
  have part : Follows depth (Turn.map id) (ofParse namePart) namePart := by
    intro cursor
    rw [Turn.map_id]
    exact follows_lift namePart cursor
  refine .of_lift _ fun start => .of_lift _ fun token => .ite ?_ typeExpected_follows
  refine .of_lift _ fun first => ?_
  apply (repeated_follows part).bind
  intro parts
  rw [List.map_id]
  apply (nameData_follows start first parts).bind
  intro span
  apply (typeArguments?_follows agree).bind
  intro arguments
  apply (finish_follows _ start).bind
  intro whole
  exact .pure (by simp [Identifier.stored])

theorem literalType_follows : Follows depth TypeExpr.stored literalType Parse.literalType := by
  refine .of_lift _ fun token => ?_
  rw [literalFromToken?_eq]
  cases literalOf? token with
  | none => exact typeExpected_follows
  | some literal =>
      apply (finish_follows _ token.start).bind
      intro span
      exact .pure rfl

theorem nameType_follows (agree : calls.Agree depth nesting) :
    Follows depth TypeExpr.stored (nameType calls) (Parse.nameType nesting) := by
  refine .of_lift _ fun token => ?_
  rw [literalFromToken?_eq, Option.isSome_map]
  refine .ite literalType_follows ?_
  cases Primitive.ofSpelling? token.text with
  | none => exact typeReference_follows agree
  | some primitive =>
      refine .of_lift _ fun next => .ite (typeReference_follows agree) ?_
      refine .of_lift _ fun _ => ?_
      apply (finish_follows _ token.start).bind
      intro span
      exact .pure rfl

/-! Functions, parentheses and tuples. -/

theorem functionType_follows (agree : calls.Agree depth nesting) :
    Follows depth TypeExpr.stored (functionType calls) (Parse.functionType nesting) := by
  refine .of_lift _ fun start => ?_
  apply (typeParameters_follows agree).bind
  intro typeParameters
  apply (parameters_follows agree false).bind
  intro parameters
  refine .of_lift _ fun _ => ?_
  apply agree.type.bind
  intro result
  apply (finish_follows _ start).bind
  intro span
  exact .pure (by simp)

theorem parenthesizedType_follows (agree : calls.Agree depth nesting) :
    Follows depth TypeExpr.stored (parenthesizedType calls) (Parse.parenthesizedType nesting) := by
  refine .of_lift _ fun start => .of_lift _ fun _ => ?_
  apply agree.type.bind
  intro inner
  refine .of_lift _ fun _ => ?_
  apply (finish_follows _ start).bind
  intro span
  exact .pure rfl

theorem tupleType_follows (agree : calls.Agree depth nesting) :
    Follows depth TypeExpr.stored (tupleType calls) (Parse.tupleType nesting) := by
  refine .of_lift _ fun start => .of_lift _ fun _ => ?_
  apply (commaList_follows _ (requiredType_follows agree)).bind
  intro elements
  refine .of_lift _ fun _ => ?_
  apply (finish_follows _ start).bind
  intro span
  exact .pure (by simp)

/-! Members. -/

theorem typeMember_follows (agree : calls.Agree depth nesting) :
    Follows depth TypeMember.stored (typeMember calls) (Parse.typeMember nesting) := by
  refine .of_lift _ fun start => ?_
  apply identifierName_follows.bind
  intro name
  refine .of_lift _ fun optional => .of_lift _ fun token => ?_
  have method : Follows depth TypeMember.stored
      (methodSignature calls start name.stored optional)
      (Parse.methodSignature nesting start name optional) := by
    apply (typeParameters_follows agree).bind
    intro typeParameters
    apply (parameters_follows agree false).bind
    intro parameters
    apply (declaredType?_follows agree).bind
    intro result
    apply (finish_follows _ start).bind
    intro span
    exact .pure (by simp)
  have property : Follows depth TypeMember.stored
      (propertySignature calls start name.stored optional)
      (Parse.propertySignature nesting start name optional) := by
    apply (declaredType?_follows agree).bind
    intro declaredType
    apply (finish_follows _ start).bind
    intro span
    exact .pure (by simp)
  cases token.kind with
  | punctuator mark =>
      cases mark with
      | openParen | lessThan => exact method
      | _ => exact property
  | _ => exact property

theorem typeMembers_follows (agree : calls.Agree depth nesting) :
    Follows depth (List.map TypeMember.stored) (typeMembers calls)
      (Parse.typeMembers nesting) := by
  have turn : Follows depth (Turn.map TypeMember.stored) (memberTurn calls)
      (Parse.memberTurn nesting) := by
    have item : Follows depth (Turn.map TypeMember.stored)
        (do
          let member ← typeMember calls
          memberSeparator
          return .more member)
        (do
          let member ← Parse.typeMember nesting
          memberSeparator
          return .more member) := by
      apply (typeMember_follows agree).bind
      intro member
      exact .of_lift _ fun _ => .pure rfl
    refine .of_lift _ fun token => ?_
    cases token.kind with
    | endOfFile => exact unexpected_follows _
    | punctuator mark =>
        cases mark with
        | closeBrace => exact .pure rfl
        | _ => exact item
    | _ => exact item
  refine .of_lift _ fun _ => ?_
  apply (repeated_follows turn).bind
  intro members
  exact .of_lift _ fun _ => .pure rfl

theorem objectType_follows (agree : calls.Agree depth nesting) :
    Follows depth TypeExpr.stored (objectType calls) (Parse.objectType nesting) := by
  refine .of_lift _ fun start => ?_
  apply (typeMembers_follows agree).bind
  intro members
  apply (finish_follows _ start).bind
  intro span
  exact .pure (by simp)

/-! All types. -/

theorem primaryType_follows (agree : calls.Agree depth nesting) :
    Follows depth TypeExpr.stored (primaryType calls) (Parse.primaryType nesting) := by
  refine .of_lift _ fun token => ?_
  cases token.kind with
  | identifier => exact nameType_follows agree
  | stringLiteral | numericLiteral => exact literalType_follows
  | punctuator mark =>
      cases mark with
      | openParen =>
          refine .of_lift _ fun isFunction => .ite ?_ ?_
          · exact functionType_follows agree
          · exact parenthesizedType_follows agree
      | lessThan => exact functionType_follows agree
      | openBrace => exact objectType_follows agree
      | openBracket => exact tupleType_follows agree
      | _ => exact typeExpected_follows
  | _ => exact typeExpected_follows

theorem arraySuffixes_leads (agree : calls.Agree depth nesting) (start : Nat)
    (element : TypeExpr) :
    Leads depth TypeExpr.stored (arraySuffixes calls start element.stored)
      (Parse.arraySuffixes nesting start element) := by
  have stays : Leads depth TypeExpr.stored (pure element.stored) (pure element) :=
    (Follows.pure rfl).leads
  refine .of_lift _ fun token => .ite ?_ stays
  refine .of_lift _ fun next => .ite ?_ stays
  exact agree.deepen fun _ follow => follow.arraySuffix start element

theorem arraySuffix_leads (agree : calls.Agree depth nesting) (start : Nat) (element : TypeExpr) :
    Leads depth TypeExpr.stored (arraySuffix calls start element.stored)
      (Parse.arraySuffix nesting start element) := by
  refine .of_lift _ fun _ => .of_lift _ fun _ => ?_
  apply (finish_follows _ start).bindLeads
  intro span
  exact arraySuffixes_leads agree start (.array span element)

theorem postfixType_follows (agree : calls.Agree depth nesting) :
    Follows depth TypeExpr.stored (postfixType calls) (Parse.postfixType nesting) := by
  refine .of_lift _ fun start => ?_
  apply (primaryType_follows agree).bind
  intro type
  exact (arraySuffixes_leads agree start type).chained

theorem listType_follows {mark : Punctuator} {build : Span → List TypeExpr → TypeExpr}
    {machineMember : Machine Stored.TypeExpr} {member : Parse TypeExpr}
    (members : Follows depth TypeExpr.stored machineMember member)
    (finished : ∀ start types, Follows depth TypeExpr.stored
      (finishListType mark start (types.map TypeExpr.stored))
      (do return build (← spanFrom start) types)) :
    Follows depth TypeExpr.stored (listType mark machineMember)
      (Parse.listType mark build member) := by
  have turn : Follows depth (Turn.map TypeExpr.stored) (markTurn mark machineMember)
      (Parse.markTurn mark member) :=
    .of_lift _ fun _ => .ite (members.map fun _ => rfl) (.pure rfl)
  refine .of_lift _ fun start => .of_lift _ fun _ => ?_
  apply members.bind
  intro first
  refine .of_lift _ fun more => .ite ?_ (.pure rfl)
  apply (repeated_follows turn).bind
  intro others
  exact finished start (first :: others)

theorem intersectionType_follows (agree : calls.Agree depth nesting) :
    Follows depth TypeExpr.stored (intersectionType calls) (Parse.intersectionType nesting) := by
  apply listType_follows (postfixType_follows agree)
  intro start types
  apply (finish_follows _ start).bind
  intro span
  exact .pure (by simp)

theorem unionType_follows (agree : calls.Agree depth nesting) :
    Follows depth TypeExpr.stored (unionType calls) (Parse.unionType nesting) := by
  apply listType_follows (intersectionType_follows agree)
  intro start types
  apply (finish_follows _ start).bind
  intro span
  exact .pure (by simp)

end TypedScript.Machine
