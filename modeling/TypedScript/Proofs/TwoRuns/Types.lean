import TypedScript.Proofs.Reading.Functions
import TypedScript.Proofs.TwoRuns.Levels

/-!
The rules for parameters, bodies and types, side by side.
-/

namespace TypedScript

namespace TwoRuns

open Parse

variable {runs : TwoRuns} {outer otherOuter : Nesting}

/-! Parameters and bodies. -/

theorem declaredType?_alike (nestings : runs.Nestings outer otherOuter) :
    runs.Alike (runs.Same (perhaps TypeExpr.relocate)) (declaredType? outer)
      (declaredType? otherOuter) :=
  afterMark_alike _ nestings.type

theorem typeParameter_alike (nestings : runs.Nestings outer otherOuter) :
    runs.Alike (runs.Same TypeParameter.relocate) (typeParameter outer)
      (typeParameter otherOuter) := by
  apply currentStart_alike.bind
  intro start otherStart starts
  apply identifier_alike.bind
  intro name otherName names
  apply (afterWord_alike _ nestings.type).bind
  intro constraint otherConstraint constraints
  apply (afterMark_alike _ nestings.type).bind
  intro fallback otherFallback fallbacks
  apply (spanFrom_alike starts).bind
  intro span otherSpan spans
  apply Alike.pure
  simp only [Same, TypeParameter.relocate, relocateType?_eq, spans, names, constraints, fallbacks]

theorem typeParameters_alike (nestings : runs.Nestings outer otherOuter) :
    runs.Alike (runs.Same (each TypeParameter.relocate)) (typeParameters outer)
      (typeParameters otherOuter) := by
  have turn : runs.Alike (Turns (runs.Same TypeParameter.relocate)) (typeParameterTurn outer)
      (typeParameterTurn otherOuter) := by
    apply (typeParameter_alike nestings).bind
    intro parameter otherParameter same
    apply (accept_alike _).bindEq
    intro found
    apply Alike.branch
    · apply (atMark_alike _).bindEq
      intro closes
      exact .branch (.pure (.last same)) (.pure (.more same))
    · exact .pure (.last same)
  apply (accept_alike _).bindEq
  intro found
  apply Alike.branch
  · apply (repeated_alike turn).bind
    intro parameters otherParameters same
    apply (expect_alike _).bind
    intro _ _ _
    exact .pure same
  · exact .pure rfl

theorem parameter_alike (nestings : runs.Nestings outer otherOuter) (allowInitializer : Bool) :
    runs.Alike (runs.Same Parameter.relocate) (parameter outer allowInitializer)
      (parameter otherOuter allowInitializer) := by
  apply currentStart_alike.bind
  intro start otherStart starts
  apply (accept_alike _).bindEq
  intro isRest
  apply identifier_alike.bind
  intro name otherName names
  apply (accept_alike _).bindEq
  intro optional
  apply (declaredType?_alike nestings).bind
  intro declaredType otherType types
  have initializers : runs.Alike (runs.Same (perhaps Expression.relocate))
      (initializer? outer allowInitializer) (initializer? otherOuter allowInitializer) :=
    .branch (afterMark_alike _ nestings.expression) (.pure rfl)
  apply initializers.bind
  intro initializer otherInitializer initial
  apply (spanFrom_alike starts).bind
  intro span otherSpan spans
  apply Alike.pure
  simp only [Same, Parameter.relocate, relocateType?_eq, relocateExpression?_eq, spans, names,
    types, initial]

theorem parameters_alike (nestings : runs.Nestings outer otherOuter) (allowInitializers : Bool) :
    runs.Alike (runs.Same (each Parameter.relocate)) (parameters outer allowInitializers)
      (parameters otherOuter allowInitializers) := by
  apply (expect_alike _).bind
  intro _ _ _
  apply (commaList_alike _ (parameter_alike nestings allowInitializers)).bind
  intro list otherList same
  apply (expect_alike _).bind
  intro _ _ _
  exact .pure same

theorem bodyLength?_eq {left right : List Token}
    (alike : List.Forall₂ (Token.Alike runs.Offsets) left right) (depth : Nat) :
    bodyLength? depth left = bodyLength? depth right := by
  induction alike generalizing depth with
  | nil => rfl
  | cons tokens _ induction =>
      unfold bodyLength?
      rw [tokens.isMark, tokens.isMark, induction, induction]
      cases depth with
      | zero => rfl
      | succ depth =>
          dsimp only
          rw [induction]

theorem bodyLength?_append {depth count : Nat} {tokens : List Token}
    (found : bodyLength? depth tokens = some count) (rest : List Token) :
    bodyLength? depth (tokens ++ rest) = some count := by
  induction tokens generalizing depth count with
  | nil => cases found
  | cons token tokens induction =>
      have more {depth : Nat} (found : (bodyLength? depth tokens).map (· + 1) = some count) :
          (bodyLength? depth (tokens ++ rest)).map (· + 1) = some count := by
        rcases Option.map_eq_some_iff.mp found with ⟨inner, innerFound, same⟩
        rw [induction innerFound, Option.map_some, same]
      rw [List.cons_append]
      unfold bodyLength? at found ⊢
      split
      · next opens =>
          rw [if_pos opens] at found
          exact more found
      · next notOpening =>
          rw [if_neg notOpening] at found
          split
          · next closes =>
              rw [if_pos closes] at found
              cases depth with
              | zero => exact found
              | succ depth => exact more found
          · next notClosing =>
              rw [if_neg notClosing] at found
              exact more found

theorem functionBody_alike :
    runs.Alike (runs.Same FunctionBody.relocate) functionBody functionBody := by
  apply currentStart_alike.bind
  intro start otherStart starts
  apply (expect_alike _).bind
  intro _ _ _ left right related
  apply get_outcome
  rcases related.goOn.split with ⟨common, rest, split, alike, broken⟩
  cases found : bodyLength? 0 left.ahead with
  | some count =>
      have closed : runs.Alike (runs.Same FunctionBody.relocate)
          (do let _ ← expect .closeBrace; return ⟨← spanFrom start, count⟩)
          (do let _ ← expect .closeBrace; return ⟨← spanFrom otherStart, count⟩) := by
        apply (expect_alike _).bind
        intro _ _ _
        apply (spanFrom_alike starts).bind
        intro span otherSpan spans
        apply Alike.pure
        simp only [Same, FunctionBody.relocate, spans]
      rw [split, bodyLength?_append (bodyLength?_eq alike 0 ▸ found)]
      apply (skip_outcome related (Nat.le_of_lt (bodyLength?_lt found))).bind
      intro _ _ _ _ _ later
      exact closed later
  | none =>
      rcases broken with rfl | ⟨cut, error, ending⟩
      · rw [split, List.append_nil, ← bodyLength?_eq alike, found, ← alike.length_eq]
        apply (skip_outcome related (Nat.le_refl _)).bind
        intro _ _ _ _ _ later
        exact unexpected_alike _ later
      · have missing : (left.skip left.ahead.length).peek 0 = .error error := by
          rw [Cursor.skip_peek, Cursor.peek, List.getElem?_eq_none (Nat.le_add_right _ _), ending]
        change runs.Outcome _ _ (unexpected _ (left.skip left.ahead.length)) _
        rw [Parse.LooksFirst.unexpected _ missing]
        exact .early (.brokenOff cut (related.ending.1 ▸ ending))

/-! Type arguments. -/

variable (runs) in
/-- Both runs have just taken a closing angle bracket. -/
def AfterAngle (left right : Cursor) : Prop :=
  ∃ before otherBefore token otherToken, runs.Related before otherBefore ∧
    before.peek 0 = .ok token ∧ otherBefore.peek 0 = .ok otherToken ∧
    token.isMark .greaterThan = true ∧ left = before.next ∧ right = otherBefore.next

theorem AfterAngle.related {left right : Cursor} (angle : runs.AfterAngle left right) :
    runs.Related left right := by
  rcases angle with ⟨before, otherBefore, _, _, related, seen, _, _, rfl, rfl⟩
  exact related.next seen

/-- An equals sign that comes next touches the bracket in both texts or in none. -/
theorem AfterAngle.touching {left right : Cursor} (angle : runs.AfterAngle left right)
    {token other : Token} (found : left.peek 0 = .ok token) (otherFound : right.peek 0 = .ok other)
    (isEquals : token.isMark .equals = true) :
    token.start = left.lastStop ↔ other.start = right.lastStop := by
  rcases angle with ⟨before, otherBefore, bracket, otherBracket, related, seen, otherSeen, isAngle,
    rfl, rfl⟩
  have brackets := related.alike_of_peek seen otherSeen
  have kind : bracket.kind = .punctuator .greaterThan := by simpa [Token.isMark] using isAngle
  have first := Cursor.getElem?_of_peek seen (by simp [kind])
  have otherFirst := Cursor.getElem?_of_peek otherSeen (by simp [← brackets.kind, kind])
  rw [Cursor.next_lastStop, Cursor.next_lastStop, List.head?_eq_getElem?, List.head?_eq_getElem?,
    first, otherFirst]
  rw [Cursor.next_peek] at found otherFound
  exact related.touching seen found otherSeen otherFound isAngle isEquals

theorem expect_afterAngle {left right : Cursor} (related : runs.Related left right) :
    runs.Outcome runs.AfterAngle (Token.Alike runs.Offsets) (expect .greaterThan left)
      (expect .greaterThan right) := by
  apply (peek_stays related 0).bind
  rintro token other _ _ ⟨seen, otherSeen⟩ ⟨rfl, rfl⟩
  have alike := related.alike_of_peek seen otherSeen
  by_cases isAngle : token.kind = .punctuator .greaterThan
  · rw [if_pos isAngle, if_pos (alike.kind ▸ isAngle)]
    apply (peek_stays related 0).bind
    rintro taken otherTaken _ _ ⟨found, otherFound⟩ ⟨rfl, rfl⟩
    refine .ok (related.alike_of_peek found otherFound) ?_
    refine ⟨_, _, token, other, related, seen, otherSeen, ?_, rfl, rfl⟩
    simp [Token.isMark, isAngle]
  · rw [if_neg isAngle, if_neg (alike.kind ▸ isAngle)]
    have fails : runs.Alike (fun _ _ : Token => False)
        (unexpected (.token (.punctuator .greaterThan)))
        (unexpected (.token (.punctuator .greaterThan))) := unexpected_alike _
    exact (fails related).imp fun _ _ _ _ impossible => impossible.elim

theorem requiredType_alike (nestings : runs.Nestings outer otherOuter) :
    runs.Alike (runs.Same TypeExpr.relocate) (requiredType outer) (requiredType otherOuter) := by
  have start : runs.Alike Eq requireTypeStart requireTypeStart := by
    apply current_alike.bind
    intro token other alike
    exact .ite (by rw [alike.kind]) (unexpected_alike _) (.pure rfl)
  apply start.bindEq
  intro _
  exact nestings.type

theorem typeArguments_afterAngle (nestings : runs.Nestings outer otherOuter) {left right : Cursor}
    (related : runs.Related left right) :
    runs.Outcome runs.AfterAngle (runs.Same (each TypeExpr.relocate)) (typeArguments outer left)
      (typeArguments otherOuter right) := by
  apply (expect_alike .lessThan related).bind
  intro _ _ after otherAfter _ later
  have turn : runs.Alike (Turns (runs.Same TypeExpr.relocate)) (requiredType outer >>= commaTurn)
      (requiredType otherOuter >>= commaTurn) :=
    (requiredType_alike nestings).bind fun _ _ => commaTurn_alike
  apply (repeated_alike turn later).bind
  intro arguments otherArguments closing otherClosing same atClosing
  apply (expect_afterAngle atClosing).bind
  intro _ _ _ _ _ closed
  exact .ok same closed

theorem typeArguments_alike (nestings : runs.Nestings outer otherOuter) :
    runs.Alike (runs.Same (each TypeExpr.relocate)) (typeArguments outer)
      (typeArguments otherOuter) := by
  intro left right related
  apply (typeArguments_afterAngle nestings related).imp
  intro _ _ _ _ same closed
  exact ⟨same, closed.related⟩

theorem typeArguments?_alike (nestings : runs.Nestings outer otherOuter) :
    runs.Alike (runs.Same (perhaps (each TypeExpr.relocate))) (typeArguments? outer)
      (typeArguments? otherOuter) := by
  apply (atMark_alike _).bindEq
  intro found
  apply Alike.branch
  · exact (typeArguments_alike nestings).present
  · exact .pure rfl

theorem typeArgumentsInExpression?_alike (nestings : runs.Nestings outer otherOuter) :
    runs.Alike (runs.Same (perhaps (each TypeExpr.relocate))) (typeArgumentsInExpression? outer)
      (typeArgumentsInExpression? otherOuter) := by
  apply (atMark_alike _).bindEq
  intro found
  refine Alike.branch ?_ (.pure rfl)
  rw [nestings.rules, nestings.otherRules]
  apply speculate_alike
  intro left right related
  apply (typeArguments_afterAngle nestings related).bind
  intro arguments otherArguments after otherAfter same closed
  apply (peek_stays closed.related 0).bind
  rintro token other after otherAfter ⟨seen, otherSeen⟩ ⟨rfl, rfl⟩
  have alike := closed.related.alike_of_peek seen otherSeen
  have touches : token.isMark .equals && token.start == after.lastStop ↔
      other.isMark .equals && other.start == otherAfter.lastStop := by
    rw [← alike.isMark]
    cases isEquals : token.isMark .equals with
    | false => rfl
    | true => simpa using closed.touching seen otherSeen isEquals
  change runs.Outcome _ _ ((if _ then pure none else _ : Parse _) after)
    ((if _ then pure none else _ : Parse _) otherAfter)
  apply Alike.ite touches
  · exact .pure rfl
  · apply Alike.ite (by rw [alike.isMark, alike.kind, alike.afterLineBreak])
    · exact .pure (congrArg some same)
    · exact .pure rfl
  · exact closed.related

/-! Names and literals. -/

theorem namePart_alike :
    runs.Alike (Turns (runs.Same fun _ (text : String) => text)) namePart namePart := by
  apply (atMark_alike _).bindEq
  intro found
  apply Alike.branch
  · apply (kindAhead_alike _).bindEq
    intro kind
    apply Alike.branch
    · apply take_alike.bind
      intro _ _ _
      apply take_alike.bind
      intro token other alike
      exact .pure (.more alike.text)
    · exact .pure .stop
  · exact .pure .stop

theorem typeReference_alike (nestings : runs.Nestings outer otherOuter) :
    runs.Alike (runs.Same TypeExpr.relocate) (typeReference outer) (typeReference otherOuter) := by
  apply currentStart_alike.bind
  intro start otherStart starts
  apply current_alike.bind
  intro token other alike
  apply Alike.ite (by rw [alike.kind])
  · apply take_alike.bind
    intro first otherFirst firsts
    apply (repeated_alike namePart_alike).bind
    intro parts otherParts sameParts
    simp only [Same, each, List.map_id'] at sameParts
    have names : runs.Alike (runs.Same Span.relocate) (nameSpan start first parts)
        (nameSpan otherStart otherFirst otherParts) :=
      .ite (by rw [sameParts]) (.pure (Same.span firsts)) (spanFrom_alike starts)
    apply names.bind
    intro nameSpan otherNameSpan nameSpans
    apply (typeArguments?_alike nestings).bind
    intro arguments otherArguments same
    apply (spanFrom_alike starts).bind
    intro span otherSpan spans
    apply Alike.pure
    simp only [Same, TypeExpr.relocate, Identifier.relocate, relocateTypes?_eq, spans, nameSpans,
      firsts.text, sameParts, same]
  · exact typeExpected_alike

theorem literalType_alike :
    runs.Alike (runs.Same TypeExpr.relocate) literalType literalType := by
  apply take_alike.bind
  intro token other alike
  rcases (literalOf?_same alike).perhaps_cases with ⟨absent, otherAbsent⟩ |
    ⟨literal, otherLiteral, present, otherPresent, same⟩
  · rw [absent, otherAbsent]
    exact typeExpected_alike
  · rw [present, otherPresent]
    apply (spanFrom_alike alike.start).bind
    intro span otherSpan spans
    apply Alike.pure
    simp only [Same, TypeExpr.relocate, spans, same]

theorem nameType_alike (nestings : runs.Nestings outer otherOuter) :
    runs.Alike (runs.Same TypeExpr.relocate) (nameType outer) (nameType otherOuter) := by
  apply current_alike.bind
  intro token other alike
  have literals := congrArg Option.isSome (literalOf?_same alike)
  simp only [perhaps, Option.isSome_map] at literals
  apply Alike.ite (by rw [literals])
  · exact literalType_alike
  · rw [alike.text]
    split
    · exact typeReference_alike nestings
    · apply (kindAhead_alike _).bindEq
      intro kind
      apply Alike.branch
      · exact typeReference_alike nestings
      · apply take_alike.bind
        intro _ _ _
        apply (spanFrom_alike alike.start).bind
        intro span otherSpan spans
        apply Alike.pure
        simp only [Same, TypeExpr.relocate, spans]

/-! Functions, parentheses and tuples. -/

theorem atFunctionType_alike : runs.Alike Eq atFunctionType atFunctionType := by
  apply (kindAhead_alike _).bindEq
  intro kind
  split
  · exact .pure rfl
  · exact .pure rfl
  · apply (kindAhead_alike _).bindEq
    intro second
    split
    · exact .pure rfl
    · exact .pure rfl
    · exact .pure rfl
    · exact .pure rfl
    · apply (kindAhead_alike _).bindEq
      intro third
      exact .pure rfl
    · exact .pure rfl
  · exact .pure rfl

theorem functionType_alike (nestings : runs.Nestings outer otherOuter) :
    runs.Alike (runs.Same TypeExpr.relocate) (functionType outer) (functionType otherOuter) := by
  apply currentStart_alike.bind
  intro start otherStart starts
  apply (typeParameters_alike nestings).bind
  intro typeParameters otherTypeParameters sameTypeParameters
  apply (parameters_alike nestings false).bind
  intro parameters otherParameters sameParameters
  apply (expect_alike _).bind
  intro _ _ _
  apply nestings.type.bind
  intro result otherResult results
  apply (spanFrom_alike starts).bind
  intro span otherSpan spans
  apply Alike.pure
  simp only [Same, TypeExpr.relocate, relocateTypeParameters_eq, relocateParameters_eq, spans,
    sameTypeParameters, sameParameters, results]

theorem parenthesizedType_alike (nestings : runs.Nestings outer otherOuter) :
    runs.Alike (runs.Same TypeExpr.relocate) (parenthesizedType outer)
      (parenthesizedType otherOuter) := by
  apply currentStart_alike.bind
  intro start otherStart starts
  apply (expect_alike _).bind
  intro _ _ _
  apply nestings.type.bind
  intro inner otherInner same
  apply (expect_alike _).bind
  intro _ _ _
  apply (spanFrom_alike starts).bind
  intro span otherSpan spans
  apply Alike.pure
  simp only [Same, TypeExpr.relocate, spans, same]

theorem tupleType_alike (nestings : runs.Nestings outer otherOuter) :
    runs.Alike (runs.Same TypeExpr.relocate) (tupleType outer) (tupleType otherOuter) := by
  apply currentStart_alike.bind
  intro start otherStart starts
  apply (expect_alike _).bind
  intro _ _ _
  apply (commaList_alike _ (requiredType_alike nestings)).bind
  intro elements otherElements same
  apply (expect_alike _).bind
  intro _ _ _
  apply (spanFrom_alike starts).bind
  intro span otherSpan spans
  apply Alike.pure
  simp only [Same, TypeExpr.relocate, relocateTypes_eq, spans, same]

/-! Members. -/

section Signatures

variable {start otherStart : Nat} {name otherName : Identifier}

theorem propertySignature_alike (nestings : runs.Nestings outer otherOuter)
    (starts : runs.Offsets start otherStart) (names : runs.Same Identifier.relocate name otherName)
    (optional : Bool) :
    runs.Alike (runs.Same TypeMember.relocate) (propertySignature outer start name optional)
      (propertySignature otherOuter otherStart otherName optional) := by
  apply (declaredType?_alike nestings).bind
  intro declaredType otherType types
  apply (spanFrom_alike starts).bind
  intro span otherSpan spans
  apply Alike.pure
  simp only [Same, TypeMember.relocate, relocateType?_eq, spans, names, types]

theorem methodSignature_alike (nestings : runs.Nestings outer otherOuter)
    (starts : runs.Offsets start otherStart) (names : runs.Same Identifier.relocate name otherName)
    (optional : Bool) :
    runs.Alike (runs.Same TypeMember.relocate) (methodSignature outer start name optional)
      (methodSignature otherOuter otherStart otherName optional) := by
  apply (typeParameters_alike nestings).bind
  intro typeParameters otherTypeParameters sameTypeParameters
  apply (parameters_alike nestings false).bind
  intro parameters otherParameters sameParameters
  apply (declaredType?_alike nestings).bind
  intro result otherResult results
  apply (spanFrom_alike starts).bind
  intro span otherSpan spans
  apply Alike.pure
  simp only [Same, TypeMember.relocate, relocateTypeParameters_eq, relocateParameters_eq,
    relocateType?_eq, spans, names, sameTypeParameters, sameParameters, results]

end Signatures

theorem typeMember_alike (nestings : runs.Nestings outer otherOuter) :
    runs.Alike (runs.Same TypeMember.relocate) (typeMember outer) (typeMember otherOuter) := by
  apply currentStart_alike.bind
  intro start otherStart starts
  apply identifierName_alike.bind
  intro name otherName names
  apply (accept_alike _).bindEq
  intro optional
  apply current_alike.bind
  intro token other alike
  rw [alike.kind]
  split
  · exact methodSignature_alike nestings starts names optional
  · exact methodSignature_alike nestings starts names optional
  · exact propertySignature_alike nestings starts names optional

theorem memberSeparator_alike : runs.Alike Eq memberSeparator memberSeparator := by
  apply current_alike.bind
  intro token other alike
  rw [alike.kind, alike.afterLineBreak]
  have taken : runs.Alike Eq (take >>= fun _ => pure ()) (take >>= fun _ => pure ()) :=
    take_alike.bind fun _ _ _ => .pure rfl
  split
  · exact taken
  · exact taken
  · exact .pure rfl
  · exact .branch (unexpected_alike _) (.pure rfl)

theorem memberTurn_alike (nestings : runs.Nestings outer otherOuter) :
    runs.Alike (Turns (runs.Same TypeMember.relocate)) (memberTurn outer)
      (memberTurn otherOuter) := by
  apply current_alike.bind
  intro token other alike
  rw [alike.kind]
  split
  · exact .pure .stop
  · exact unexpected_alike _
  · apply (typeMember_alike nestings).bind
    intro member otherMember same
    apply memberSeparator_alike.bindEq
    intro _
    exact .pure (.more same)

theorem typeMembers_alike (nestings : runs.Nestings outer otherOuter) :
    runs.Alike (runs.Same (each TypeMember.relocate)) (typeMembers outer)
      (typeMembers otherOuter) := by
  apply (expect_alike _).bind
  intro _ _ _
  apply (repeated_alike (memberTurn_alike nestings)).bind
  intro members otherMembers same
  apply (expect_alike _).bind
  intro _ _ _
  exact .pure same

theorem objectType_alike (nestings : runs.Nestings outer otherOuter) :
    runs.Alike (runs.Same TypeExpr.relocate) (objectType outer) (objectType otherOuter) := by
  apply currentStart_alike.bind
  intro start otherStart starts
  apply (typeMembers_alike nestings).bind
  intro members otherMembers same
  apply (spanFrom_alike starts).bind
  intro span otherSpan spans
  apply Alike.pure
  simp only [Same, TypeExpr.relocate, relocateMembers_eq, spans, same]

/-! All types. -/

theorem primaryType_alike (nestings : runs.Nestings outer otherOuter) :
    runs.Alike (runs.Same TypeExpr.relocate) (primaryType outer) (primaryType otherOuter) := by
  apply current_alike.bind
  intro token other alike
  rw [alike.kind]
  split
  · exact nameType_alike nestings
  · exact literalType_alike
  · exact literalType_alike
  · apply atFunctionType_alike.bindEq
    intro isFunction
    exact .branch (functionType_alike nestings) (parenthesizedType_alike nestings)
  · exact functionType_alike nestings
  · exact objectType_alike nestings
  · exact tupleType_alike nestings
  · exact typeExpected_alike

section Suffixes

variable {start otherStart : Nat} {element otherElement : TypeExpr}

theorem arraySuffixes_alike (nestings : runs.Nestings outer otherOuter)
    (starts : runs.Offsets start otherStart)
    (elements : runs.Same TypeExpr.relocate element otherElement) :
    runs.Alike (runs.Same TypeExpr.relocate) (arraySuffixes outer start element)
      (arraySuffixes otherOuter otherStart otherElement) := by
  apply current_alike.bind
  intro token other alike
  apply Alike.ite (by rw [alike.isMark, alike.afterLineBreak])
  · apply (kindAhead_alike _).bindEq
    intro kind
    apply Alike.branch
    · apply nestings.enter
      · intro level looksFirst
        exact looksFirst.arraySuffix _ _
      · intro level otherLevel levels
        exact levels.arraySuffix starts elements
    · exact .pure elements
  · exact .pure elements

theorem arraySuffix_alike (nestings : runs.Nestings outer otherOuter)
    (starts : runs.Offsets start otherStart)
    (elements : runs.Same TypeExpr.relocate element otherElement) :
    runs.Alike (runs.Same TypeExpr.relocate) (arraySuffix outer start element)
      (arraySuffix otherOuter otherStart otherElement) := by
  apply take_alike.bind
  intro _ _ _
  apply take_alike.bind
  intro _ _ _
  apply (spanFrom_alike starts).bind
  intro span otherSpan spans
  apply arraySuffixes_alike nestings starts
  simp only [Same, TypeExpr.relocate, spans, elements]

end Suffixes

theorem postfixType_alike (nestings : runs.Nestings outer otherOuter) :
    runs.Alike (runs.Same TypeExpr.relocate) (postfixType outer) (postfixType otherOuter) := by
  apply currentStart_alike.bind
  intro start otherStart starts
  apply (primaryType_alike nestings).bind
  intro type otherType types
  exact arraySuffixes_alike nestings starts types

theorem listType_alike {member otherMember : Parse TypeExpr} (mark : Punctuator)
    {build : Span → List TypeExpr → TypeExpr}
    (builds : ∀ span members move, (build span members).relocate move =
      build (span.relocate move) (members.map (TypeExpr.relocate move)))
    (same : runs.Alike (runs.Same TypeExpr.relocate) member otherMember) :
    runs.Alike (runs.Same TypeExpr.relocate) (listType mark build member)
      (listType mark build otherMember) := by
  have turn : runs.Alike (Turns (runs.Same TypeExpr.relocate)) (markTurn mark member)
      (markTurn mark otherMember) := by
    apply (accept_alike mark).bindEq
    intro found
    exact .branch (same.map fun _ _ => .more) (.pure .stop)
  apply currentStart_alike.bind
  intro start otherStart starts
  apply (accept_alike mark).bindEq
  intro _
  apply same.bind
  intro first otherFirst firsts
  apply (atMark_alike mark).bindEq
  intro found
  apply Alike.branch
  · apply (repeated_alike turn).bind
    intro others otherOthers rest
    apply (spanFrom_alike starts).bind
    intro span otherSpan spans
    apply Alike.pure
    simp only [Same, builds, List.map_cons, spans, firsts, rest]
  · exact .pure firsts

theorem intersectionType_alike (nestings : runs.Nestings outer otherOuter) :
    runs.Alike (runs.Same TypeExpr.relocate) (intersectionType outer)
      (intersectionType otherOuter) := by
  apply listType_alike
  · intro span members move
    rw [TypeExpr.relocate, relocateTypes_eq]
  · exact postfixType_alike nestings

theorem unionType_alike (nestings : runs.Nestings outer otherOuter) :
    runs.Alike (runs.Same TypeExpr.relocate) (unionType outer) (unionType otherOuter) := by
  apply listType_alike
  · intro span members move
    rw [TypeExpr.relocate, relocateTypes_eq]
  · exact intersectionType_alike nestings

end TwoRuns

end TypedScript
