import TypedScript.Proofs.Acceptance.Types

/-!
Rules for the parts of functions and for the members of types accept what is printed for them.
-/

namespace TypedScript

namespace Parse

variable {keywords : KeywordSet} {nesting : Nesting} {more : List Lexeme}

/-! Types that a mark or a word leads to. -/

/-- What follows a type that may be left out: the lexeme that leads to it, or what comes later. -/
theorem kindAt_leadLexemes {motive : TokenKind → Prop} {lead : Lexeme} {type? : Option TypeExpr}
    (isLead : motive lead.kind) (isLater : motive (kindAt more 0)) :
    motive (kindAt (leadLexemes keywords lead type? ++ more) 0) := by
  cases type? with
  | none =>
      rw [leadLexemes]
      exact isLater
  | some type =>
      rw [leadLexemes]
      exact isLead

theorem afterMark_accepts_type {mark : Punctuator} {type? : Option TypeExpr}
    (takes : ∀ type ∈ type?.toList, nesting.Takes keywords type)
    (ends : kindAt more 0 ∉ afterType) (noMark : kindAt more 0 ≠ .punctuator mark) :
    Accepts (afterMark mark nesting.type)
      (leadLexemes keywords (.mark mark) type? ++ more) more
      (Option.map (TypeExpr.relocate nowhere) · = type?.map (TypeExpr.relocate nowhere)) := by
  cases type? with
  | none =>
      rw [leadLexemes]
      apply (afterMark_passes noMark).imp
      rintro _ rfl
      rfl
  | some type =>
      rw [leadLexemes]
      apply (afterMark_accepts ((takes type (by simp)).2 more ends)).imp
      rintro _ ⟨value, rfl, same⟩
      rw [Option.map_some, same, Option.map_some]

theorem afterWord_accepts_type {word : String} {type? : Option TypeExpr}
    (takes : ∀ type ∈ type?.toList, nesting.Takes keywords type)
    (ends : kindAt more 0 ∉ afterType) (noWord : kindAt more 0 ≠ .identifier) :
    Accepts (afterWord word nesting.type)
      (leadLexemes keywords (.word word) type? ++ more) more
      (Option.map (TypeExpr.relocate nowhere) · = type?.map (TypeExpr.relocate nowhere)) := by
  cases type? with
  | none =>
      rw [leadLexemes]
      apply (afterWord_passes noWord).imp
      rintro _ rfl
      rfl
  | some type =>
      rw [leadLexemes]
      apply (afterWord_accepts ((takes type (by simp)).2 more ends)).imp
      rintro _ ⟨value, rfl, same⟩
      rw [Option.map_some, same, Option.map_some]

/-! Type parameters. -/

def TakesTypeParameter (keywords : KeywordSet) (nesting : Nesting) (parameter : TypeParameter) :
    Prop :=
  ∀ mark more, mark = .comma ∨ mark = .greaterThan →
    Accepts (typeParameter nesting) (parameter.lexemes keywords ++ .mark mark :: more)
      (.mark mark :: more) (·.relocate nowhere = parameter.relocate nowhere)

theorem typeParameter_accepts {parameter : TypeParameter}
    (constraints : ∀ type ∈ parameter.constraint.toList, nesting.Takes keywords type)
    (fallbacks : ∀ type ∈ parameter.fallback.toList, nesting.Takes keywords type) :
    TakesTypeParameter keywords nesting parameter := by
  intro mark more isMark
  rcases parameter with ⟨span, name, constraint, fallback⟩
  have ends : kindAt (.mark mark :: more) 0 ∉ afterType :=
    kindAt_notMem (by rcases isMark with rfl | rfl <;> decide) _
  have noEquals : kindAt (.mark mark :: more) 0 ≠ .punctuator .equals :=
    kindAt_ne (by rcases isMark with rfl | rfl <;> decide) _
  rw [TypeParameter.lexemes, List.cons_append, List.append_assoc]
  apply currentStart_accepts.bind
  intro start _
  apply identifier_accepts.bind
  intro found sameName
  apply (afterWord_accepts_type constraints (kindAt_leadLexemes (motive := (· ∉ afterType))
    (by decide) ends) (kindAt_leadLexemes (motive := (· ≠ .identifier)) (by decide)
      (fun same => by cases same))).bind
  intro constraint? sameConstraint
  apply (afterMark_accepts_type fallbacks ends noEquals).bind
  intro fallback? sameFallback
  apply (spanFrom_accepts start).bind
  intro _ _
  refine .pure ?_
  simp only [TypeParameter.relocate, relocateType?_eq, sameConstraint, sameFallback,
    Identifier.relocate, Span.relocate, sameName]

theorem typeParameters_accepts {parameters : List TypeParameter}
    (takes : ∀ parameter ∈ parameters, TakesTypeParameter keywords nesting parameter)
    (noAngle : kindAt more 0 ≠ .punctuator .lessThan) :
    Accepts (typeParameters nesting)
      (Lexeme.bracketed (parameters.map (·.lexemes keywords)) ++ more) more
      (List.map (TypeParameter.relocate nowhere) · =
        parameters.map (TypeParameter.relocate nowhere)) := by
  cases parameters with
  | nil =>
      apply (accept_passes noAngle).bindEq
      exact .pure rfl
  | cons first others =>
      have items := @repeated_separated TypeParameter TypeParameter (.mark .greaterThan :: more)
        .comma (typeParameterTurn nesting) (·.lexemes keywords) (TypeParameter.relocate nowhere)
        first others ?_ ?_
      · simp only [List.map_cons, Lexeme.bracketed, Lexeme.separated, List.flatMap_map,
          List.cons_append, List.append_assoc, List.nil_append]
        apply accept_accepts.bindEq
        apply items.bind
        intro values same
        apply expect_accepts.bind
        intro _ _
        exact .pure same
      · intro parameter member
        apply (takes parameter member .greaterThan more (.inr rfl)).bind
        intro value same
        apply (accept_passes (kindAt_ne (by decide) _)).bindEq
        exact .pure ⟨value, rfl, same⟩
      · intro parameter member next _ rest
        apply (takes parameter member .comma _ (.inl rfl)).bind
        intro value same
        apply accept_accepts.bindEq
        apply (atMark_accepts .greaterThan).bindEq
        refine .ifFalse ?_ (.pure ⟨value, rfl, same⟩)
        rcases next with ⟨_, name, _, _⟩
        rw [TypeParameter.lexemes]
        exact Bool.false_ne_true

/-! Parameters. -/

def TakesParameter (keywords : KeywordSet) (nesting : Nesting) (parameter : Parameter) : Prop :=
  ∀ mark more, mark = .comma ∨ mark = .closeParen →
    Accepts (Parse.parameter nesting false) (parameter.lexemes keywords ++ .mark mark :: more)
      (.mark mark :: more) (·.relocate nowhere = parameter.relocate nowhere)

theorem parameter_accepts {parameter : Parameter} (noInitializer : parameter.initializer = none)
    (takes : ∀ type ∈ parameter.declaredType.toList, nesting.Takes keywords type) :
    TakesParameter keywords nesting parameter := by
  intro mark more isMark
  rcases parameter with ⟨span, isRest, name, optional, declaredType, initializer⟩
  have ends : kindAt (.mark mark :: more) 0 ∉ afterType :=
    kindAt_notMem (by rcases isMark with rfl | rfl <;> decide) _
  have noQuestion : kindAt (.mark mark :: more) 0 ≠ .punctuator .question :=
    kindAt_ne (by rcases isMark with rfl | rfl <;> decide) _
  have noColon : kindAt (.mark mark :: more) 0 ≠ .punctuator .colon :=
    kindAt_ne (by rcases isMark with rfl | rfl <;> decide) _
  simp only [Parameter.lexemes, List.cons_append, List.append_assoc]
  apply currentStart_accepts.bind
  intro start _
  apply (acceptFlag_accepts isRest (by simp [Lexeme.word])).bindEq
  apply identifier_accepts.bind
  intro found sameName
  apply (acceptFlag_accepts optional (kindAt_leadLexemes
    (motive := (· ≠ .punctuator .question)) (by decide) noQuestion)).bindEq
  apply (afterMark_accepts_type takes ends noColon).bind
  intro declared? sameDeclared
  apply Accepts.bindEq (.pure rfl : Accepts (initializer? nesting false) _ _ (· = none))
  apply (spanFrom_accepts start).bind
  intro _ _
  refine .pure ?_
  dsimp only at noInitializer
  simp only [Parameter.relocate, relocateType?_eq, relocateExpression?_eq, sameDeclared,
    noInitializer, Option.map_none, Identifier.relocate, Span.relocate, sameName]

theorem parameters_accepts {parameters : List Parameter}
    (takes : ∀ parameter ∈ parameters, TakesParameter keywords nesting parameter) :
    Accepts (Parse.parameters nesting false)
      (.mark .openParen :: (Lexeme.separated .comma (parameters.map (·.lexemes keywords)) ++
        .mark .closeParen :: more)) more
      (List.map (Parameter.relocate nowhere) · = parameters.map (Parameter.relocate nowhere)) := by
  have items : Accepts (commaList .closeParen (Parse.parameter nesting false))
      (Lexeme.separated .comma (parameters.map (·.lexemes keywords)) ++ .mark .closeParen :: more)
      (.mark .closeParen :: more)
      (List.map (Parameter.relocate nowhere) · = parameters.map (Parameter.relocate nowhere)) := by
    apply commaList_accepts (by decide)
    · exact fun parameter member mark rest isMark => takes parameter member mark rest isMark
    · rintro ⟨_, isRest, _, _, _, _⟩ _ rest
      rw [Parameter.lexemes]
      cases isRest with
      | true => exact kindAt_ne (by decide) _
      | false => exact fun same => by cases same
  apply expect_accepts.bind
  intro _ _
  apply items.bind
  intro values same
  apply expect_accepts.bind
  intro _ _
  exact .pure same

/-! Types of functions. -/

theorem atFunctionType_accepts (parameters : List Parameter) :
    Accepts atFunctionType
      (.mark .openParen :: (Lexeme.separated .comma (parameters.map (·.lexemes keywords)) ++
        .mark .closeParen :: .mark .arrow :: more))
      (.mark .openParen :: (Lexeme.separated .comma (parameters.map (·.lexemes keywords)) ++
        .mark .closeParen :: .mark .arrow :: more)) (· = true) := by
  apply (kindAhead_accepts 1).bindEq
  cases parameters with
  | nil => exact .pure rfl
  | cons first others =>
      rcases first with ⟨_, isRest, name, optional, declaredType, _⟩
      simp only [List.map_cons, Lexeme.separated, Parameter.lexemes]
      cases isRest with
      | true => exact .pure rfl
      | false =>
          apply (kindAhead_accepts 2).bindEq
          cases optional with
          | true => exact .pure rfl
          | false =>
              cases declaredType with
              | some type =>
                  rw [leadLexemes]
                  exact .pure rfl
              | none =>
                  rw [leadLexemes]
                  cases others with
                  | cons => exact .pure rfl
                  | nil =>
                      apply (kindAhead_accepts 3).bindEq
                      exact .pure rfl

theorem functionType_accepts {span : Span} {typeParameters : List TypeParameter}
    {parameters : List Parameter} {result : TypeExpr}
    (takesTypeParameters : ∀ parameter ∈ typeParameters,
      TakesTypeParameter keywords nesting parameter)
    (takesParameters : ∀ parameter ∈ parameters, TakesParameter keywords nesting parameter)
    (takes : nesting.Takes keywords result) (ends : kindAt more 0 ∉ afterType) :
    Accepts (functionType nesting)
      ((TypeExpr.function span typeParameters parameters result).lexemes keywords ++ more) more
      (·.relocate nowhere =
        (TypeExpr.function span typeParameters parameters result).relocate nowhere) := by
  simp only [TypeExpr.lexemes, typeParameterLexemes_eq, parameterLexemes_eq, List.append_assoc,
    List.cons_append]
  apply currentStart_accepts.bind
  intro start _
  apply (typeParameters_accepts takesTypeParameters (kindAt_ne (by decide) _)).bind
  intro _ sameTypeParameters
  apply (parameters_accepts takesParameters).bind
  intro _ sameParameters
  apply expect_accepts.bind
  intro _ _
  apply (takes.2 more ends).bind
  intro _ sameResult
  apply (spanFrom_accepts start).bind
  intro _ _
  refine .pure ?_
  simp only [TypeExpr.relocate, relocateTypeParameters_eq, relocateParameters_eq,
    sameTypeParameters, sameParameters, sameResult, Span.relocate]

theorem primaryType_accepts_function {span : Span} {typeParameters : List TypeParameter}
    {parameters : List Parameter} {result : TypeExpr}
    (takesTypeParameters : ∀ parameter ∈ typeParameters,
      TakesTypeParameter keywords nesting parameter)
    (takesParameters : ∀ parameter ∈ parameters, TakesParameter keywords nesting parameter)
    (takes : nesting.Takes keywords result) (ends : kindAt more 0 ∉ afterType) :
    Accepts (primaryType nesting)
      ((TypeExpr.function span typeParameters parameters result).lexemes keywords ++ more) more
      (·.relocate nowhere =
        (TypeExpr.function span typeParameters parameters result).relocate nowhere) := by
  have function := @functionType_accepts _ _ _ span _ _ _ takesTypeParameters takesParameters takes
    ends
  simp only [TypeExpr.lexemes, typeParameterLexemes_eq, parameterLexemes_eq, List.append_assoc,
    List.cons_append] at function ⊢
  apply current_accepts.bind
  intro token kind
  rw [kind]
  cases typeParameters with
  | nil =>
      apply (atFunctionType_accepts parameters).bindEq
      exact .ifTrue rfl function
  | cons => exact function

/-! Members. -/

def TakesMember (keywords : KeywordSet) (nesting : Nesting) (member : TypeMember) : Prop :=
  ∀ more, Accepts (memberTurn nesting) (member.lexemes keywords ++ more) more fun turned =>
    ∃ item, turned = .more item ∧ item.relocate nowhere = member.relocate nowhere

theorem memberSeparator_accepts :
    Accepts memberSeparator (.mark .semicolon :: more) more fun _ => True := by
  apply first_accepts.bind
  rintro token ⟨same, _⟩
  have kind : token.kind = .punctuator .semicolon := congrArg Lexeme.kind same
  rw [kind]
  apply take_accepts.bind
  intro _ _
  exact .pure trivial

theorem memberTurn_accepts {text : String} {lexemes : List Lexeme} {holds : TypeMember → Prop}
    (accepts : Accepts (typeMember nesting) (.name keywords text :: lexemes)
      (.mark .semicolon :: more) holds) :
    Accepts (memberTurn nesting) (.name keywords text :: lexemes) more fun turned =>
      ∃ item, turned = .more item ∧ holds item := by
  have member : Accepts (do
        let member ← typeMember nesting
        memberSeparator
        return Turn.more member) (.name keywords text :: lexemes) more fun turned =>
      ∃ item, turned = .more item ∧ holds item := by
    apply accepts.bind
    intro value satisfied
    apply memberSeparator_accepts.bind
    intro _ _
    exact .pure ⟨value, rfl, satisfied⟩
  apply first_accepts.bind
  rintro token ⟨same, _⟩
  have isName : token.kind.isName = true := by
    rw [show token.kind = (Lexeme.name keywords text).kind from congrArg Lexeme.kind same]
    exact isName_name keywords text
  cases kind : token.kind with
  | identifier => exact member
  | keyword => exact member
  | _ =>
      rw [kind] at isName
      cases isName

theorem property_accepts {span : Span} {name : Identifier} {optional : Bool}
    {declaredType : Option TypeExpr}
    (takes : ∀ type ∈ declaredType.toList, nesting.Takes keywords type) :
    TakesMember keywords nesting (.property span name optional declaredType) := by
  intro more
  simp only [TypeMember.lexemes, List.cons_append, List.append_assoc, List.nil_append]
  apply memberTurn_accepts
  apply currentStart_accepts.bind
  intro start _
  apply (identifierName_accepts (isName_name keywords name.text)).bind
  intro found sameName
  apply (acceptFlag_accepts optional (kindAt_leadLexemes
    (motive := (· ≠ .punctuator .question)) (by decide) (kindAt_ne (by decide) _))).bindEq
  have signature : Accepts (propertySignature nesting start found optional)
      (leadLexemes keywords (.mark .colon) declaredType ++ .mark .semicolon :: more)
      (.mark .semicolon :: more)
      (·.relocate nowhere =
        (TypeMember.property span name optional declaredType).relocate nowhere) := by
    apply (afterMark_accepts_type takes (kindAt_notMem (by decide) _)
      (kindAt_ne (by decide) _)).bind
    intro declared? sameDeclared
    apply (spanFrom_accepts start).bind
    intro _ _
    refine .pure ?_
    simp only [TypeMember.relocate, relocateType?_eq, sameDeclared, Identifier.relocate,
      Span.relocate, sameName, Lexeme.name]
  apply current_accepts.bind
  intro token kind
  rw [kind]
  cases declaredType with
  | none =>
      rw [leadLexemes] at signature ⊢
      exact signature
  | some type =>
      rw [leadLexemes] at signature ⊢
      exact signature

theorem method_accepts {span : Span} {name : Identifier} {optional : Bool}
    {typeParameters : List TypeParameter} {parameters : List Parameter} {result : Option TypeExpr}
    (takesTypeParameters : ∀ parameter ∈ typeParameters,
      TakesTypeParameter keywords nesting parameter)
    (takesParameters : ∀ parameter ∈ parameters, TakesParameter keywords nesting parameter)
    (takes : ∀ type ∈ result.toList, nesting.Takes keywords type) :
    TakesMember keywords nesting
      (.method span name optional typeParameters parameters result) := by
  intro more
  simp only [TypeMember.lexemes, typeParameterLexemes_eq, parameterLexemes_eq, List.cons_append,
    List.append_assoc, List.nil_append]
  apply memberTurn_accepts
  apply currentStart_accepts.bind
  intro start _
  apply (identifierName_accepts (isName_name keywords name.text)).bind
  intro found sameName
  have signature : Accepts (methodSignature nesting start found optional)
      (Lexeme.bracketed (typeParameters.map (·.lexemes keywords)) ++ .mark .openParen ::
        (Lexeme.separated .comma (parameters.map (·.lexemes keywords)) ++ .mark .closeParen ::
          (leadLexemes keywords (.mark .colon) result ++ .mark .semicolon :: more)))
      (.mark .semicolon :: more)
      (·.relocate nowhere = (TypeMember.method span name optional typeParameters parameters
        result).relocate nowhere) := by
    apply (typeParameters_accepts takesTypeParameters (kindAt_ne (by decide) _)).bind
    intro _ sameTypeParameters
    apply (parameters_accepts takesParameters).bind
    intro _ sameParameters
    apply (afterMark_accepts_type takes (kindAt_notMem (by decide) _)
      (kindAt_ne (by decide) _)).bind
    intro _ sameResult
    apply (spanFrom_accepts start).bind
    intro _ _
    refine .pure ?_
    simp only [TypeMember.relocate, relocateTypeParameters_eq, relocateParameters_eq,
      relocateType?_eq, sameTypeParameters, sameParameters, sameResult, Identifier.relocate,
      Span.relocate, sameName, Lexeme.name]
  have noQuestion : ∀ rest, kindAt (Lexeme.bracketed (typeParameters.map (·.lexemes keywords)) ++
      .mark .openParen :: rest) 0 ≠ .punctuator .question := by
    intro rest
    cases typeParameters with
    | nil => exact kindAt_ne (by decide) _
    | cons => exact kindAt_ne (by decide) _
  apply (acceptFlag_accepts optional (noQuestion _)).bindEq
  apply current_accepts.bind
  intro token kind
  rw [kind]
  cases typeParameters with
  | nil => exact signature
  | cons => exact signature

theorem primaryType_accepts_object {span : Span} {members : List TypeMember}
    (takes : ∀ member ∈ members, TakesMember keywords nesting member) :
    Accepts (primaryType nesting) ((TypeExpr.object span members).lexemes keywords ++ more) more
      (·.relocate nowhere = (TypeExpr.object span members).relocate nowhere) := by
  have items := @repeated_accepts TypeMember TypeMember (.mark .closeBrace :: more)
    (memberTurn nesting) (·.lexemes keywords) (TypeMember.relocate nowhere) members ?_ ?_ ?_
  · simp only [TypeExpr.lexemes, memberLexemes_eq, List.cons_append, List.append_assoc,
      List.nil_append, ← List.flatMap_def]
    apply first_accepts.bind
    rintro token ⟨same, _⟩
    have kind : token.kind = .punctuator .openBrace := congrArg Lexeme.kind same
    rw [kind]
    apply currentStart_accepts.bind
    intro start _
    have inBraces : Accepts (typeMembers nesting)
        (.mark .openBrace :: (members.flatMap (·.lexemes keywords) ++ .mark .closeBrace :: more))
        more (List.map (TypeMember.relocate nowhere) · =
          members.map (TypeMember.relocate nowhere)) := by
      apply expect_accepts.bind
      intro _ _
      apply items.bind
      intro values sameValues
      apply expect_accepts.bind
      intro _ _
      exact .pure sameValues
    apply inBraces.bind
    intro values sameValues
    apply (spanFrom_accepts start).bind
    intro _ _
    exact .pure (by simp [TypeExpr.relocate, Span.relocate, sameValues])
  · intro member
    cases member <;> simp [TypeMember.lexemes]
  · apply first_accepts.bind
    rintro token ⟨same, _⟩
    have kind : token.kind = .punctuator .closeBrace := congrArg Lexeme.kind same
    rw [kind]
    exact .pure rfl
  · intro member others suffix
    exact takes member (suffix.subset (List.mem_cons_self ..)) _

end Parse

end TypedScript
