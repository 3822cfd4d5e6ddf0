import TypedScript.Proofs.Rerun.Tokens

/-!
The levels of nesting in both runs, and the rules for parameters and types.
-/

namespace TypedScript

namespace Rerun

open Parse

variable (rerun : Rerun)

structure AtBrackets (expected : List Punctuator) (left right : Cursor) : Prop where
  related : rerun.Related expected left right
  opens : ∃ token, left.peek 0 = .ok token ∧ right.peek 0 = .ok token ∧
    token.kind = .punctuator .openBracket
  closes : ∃ token, left.next.peek 0 = .ok token ∧ token.kind = .punctuator .closeBracket

def AtSuffix (left right : Cursor) : Prop :=
  ∃ token, left.peek 0 = .ok token ∧ right.peek 0 = .ok token ∧
    token.kind ∈ [.punctuator .dot, .punctuator .questionDot, .punctuator .openBracket,
      .punctuator .openParen]

structure Levels (level other : Level) : Prop where
  type : rerun.Begins level.type other.type
  arraySuffix {expected : List Punctuator} {left right : Cursor} (start : Nat)
    (element : TypeExpr) : rerun.AtBrackets expected left right →
    rerun.Outcome (rerun.Related expected) Eq (level.arraySuffix start element left)
      (other.arraySuffix start element right)
  assignment : rerun.Begins level.assignment other.assignment
  unary : rerun.Begins level.unary other.unary
  newExpression : rerun.Begins level.newExpression other.newExpression
  operator {expected : List Punctuator} {left right : Cursor} (start minimum : Nat)
    (operand : Expression) (mark : Punctuator) {width : Nat} (precedence : Nat) :
    rerun.Related expected (left.skip width) (right.skip width) →
    rerun.Outcome (rerun.Related expected) Eq
      (level.operator start minimum operand mark width precedence left)
      (other.operator start minimum operand mark width precedence right)
  suffix {expected : List Punctuator} {left right : Cursor} (start : Nat) (allowCalls : Bool)
    (base : Expression) : rerun.Related expected left right → AtSuffix left right →
    rerun.Outcome (rerun.Related expected) Eq (level.suffix start allowCalls base left)
      (other.suffix start allowCalls base right)
  typedSuffix (start : Nat) (allowCalls : Bool) (base : Expression)
    (typeArguments : List TypeExpr) :
    rerun.Alike (level.typedSuffix start allowCalls base typeArguments)
      (other.typedSuffix start allowCalls base typeArguments)

/-- Where the second run can go deeper so can the first, and what is not taken back in the first is
not taken back in the second. -/
structure Nestings (outer otherOuter : Nesting) : Prop where
  lenient (error : SyntaxError) : outer.rules.isFinal error = true → error.isFinal = true
  otherRules : otherOuter.rules = .ofLimit rerun.limit
  inner {other : Level} : otherOuter.inner = some other →
    ∃ level, outer.inner = some level ∧ rerun.Levels level other

variable {rerun} {α β : Type} {outer otherOuter : Nesting} {expected : List Punctuator}
  {left right : Cursor}

namespace Nestings

/-- Going one level deeper takes no token. A run that goes too deep stops. -/
theorem enter_outcome (nestings : rerun.Nestings outer otherOuter) (wanted : Expected)
    {places : Cursor → Cursor → Prop} {values : α → β → Prop} {first : Level → Parse α}
    {second : Level → Parse β}
    (deeper : ∀ level other, rerun.Levels level other →
      rerun.Outcome places values (first level left) (second other right)) :
    rerun.Outcome places values ((outer.enter wanted >>= first) left)
      ((otherOuter.enter wanted >>= second) right) := by
  cases inner : otherOuter.inner with
  | some other =>
      rcases nestings.inner inner with ⟨level, found, levels⟩
      rw [Nesting.enter, Nesting.enter, inner, found]
      exact deeper level other levels
  | none =>
      rw [Nesting.enter.eq_def otherOuter, inner, nestings.otherRules]
      simp only [Rules.ofLimit, failAt, current, Bind.bind, EStateM.bind, peek]
      cases right.peek 0 with
      | ok token => exact .stopped .refused
      | error error => exact .stopped .lexical

theorem enter (nestings : rerun.Nestings outer otherOuter) (wanted : Expected)
    {first second : Level → Parse α}
    (deeper : ∀ level other, rerun.Levels level other →
      rerun.AlikeAt expected (first level) (second other)) :
    rerun.AlikeAt expected (outer.enter wanted >>= first) (otherOuter.enter wanted >>= second) := by
  intro left right related
  exact nestings.enter_outcome wanted fun level other levels => deeper level other levels related

theorem enter_begins (nestings : rerun.Nestings outer otherOuter) (wanted : Expected)
    {first second : Level → Parse α}
    (deeper : ∀ level other, rerun.Levels level other →
      rerun.Begins (first level) (second other)) :
    rerun.Begins (outer.enter wanted >>= first) (otherOuter.enter wanted >>= second) :=
  ⟨fun expected => nestings.enter wanted fun level other levels =>
      (deeper level other levels).alike expected,
    fun _ _ ended => nestings.enter_outcome wanted fun level other levels =>
      (deeper level other levels).ended ended⟩

theorem type (nestings : rerun.Nestings outer otherOuter) :
    rerun.Begins outer.type otherOuter.type :=
  nestings.enter_begins .type fun _ _ levels => levels.type

theorem expression (nestings : rerun.Nestings outer otherOuter) :
    rerun.Begins outer.expression otherOuter.expression :=
  nestings.enter_begins .expression fun _ _ levels => levels.assignment

end Nestings

/-! Parameters. -/

theorem declaredType?_alike (nestings : rerun.Nestings outer otherOuter) :
    rerun.Alike (declaredType? outer) (declaredType? otherOuter) :=
  afterMark_alike rfl nestings.type.alike

theorem typeParameter_begins (nestings : rerun.Nestings outer otherOuter) :
    rerun.Begins (typeParameter outer) (typeParameter otherOuter) := by
  refine .start (fun _ _ => identifier_begins.ended.bind _ _) fun start expected => ?_
  apply (identifier_begins.alike expected).bind
  intro name
  apply (afterWord_alike _ nestings.type.alike expected).bind
  intro constraint
  apply (afterMark_alike rfl nestings.type.alike expected).bind
  intro fallback
  apply (spanFrom_alike start expected).bind
  intro span
  exact .pure _

theorem typeParameters_alike (nestings : rerun.Nestings outer otherOuter) :
    rerun.Alike (typeParameters outer) (typeParameters otherOuter) := by
  intro expected
  have turn : rerun.AlikeAt expected (typeParameterTurn outer) (typeParameterTurn otherOuter) := by
    apply ((typeParameter_begins nestings).alike expected).bind
    intro parameter
    apply (accept_alike rfl expected).bind
    intro found
    apply AlikeAt.branch
    · apply (atMark_alike (by decide) expected).bind
      intro closes
      exact .branch (.pure _) (.pure _)
    · exact .pure _
  apply (accept_alike rfl expected).bind
  intro found
  apply AlikeAt.branch
  · apply (repeated_alike turn).bind
    intro parameters
    apply ((expect_begins rfl).alike expected).bind
    intro _
    exact .pure _
  · exact .pure _

theorem FailsOver.typeParameters {next otherNext : List TypeParameter → Parse α}
    (fails : rerun.FailsOver (next []) (otherNext [])) :
    rerun.FailsOver (typeParameters outer >>= next) (typeParameters otherOuter >>= otherNext) := by
  simp only [Parse.typeParameters, bind_assoc]
  apply FailsOver.accept rfl
  simp only [Bool.false_eq_true, if_false, pure_bind]
  exact fails

theorem parameter_begins (nestings : rerun.Nestings outer otherOuter) (allowInitializer : Bool) :
    rerun.Begins (parameter outer allowInitializer) (parameter otherOuter allowInitializer) := by
  refine .start (fun _ _ => .accept rfl (identifier_begins.ended.bind _ _)) fun start expected => ?_
  apply (accept_alike rfl expected).bind
  intro isRest
  apply (identifier_begins.alike expected).bind
  intro name
  apply (accept_alike rfl expected).bind
  intro optional
  apply (declaredType?_alike nestings expected).bind
  intro declaredType
  have initializers : rerun.AlikeAt expected (initializer? outer allowInitializer)
      (initializer? otherOuter allowInitializer) :=
    .branch (afterMark_alike rfl nestings.expression.alike expected) (.pure _)
  apply initializers.bind
  intro initializer
  apply (spanFrom_alike start expected).bind
  intro span
  exact .pure _

theorem parameters_begins (nestings : rerun.Nestings outer otherOuter) (allowInitializers : Bool) :
    rerun.Begins (parameters outer allowInitializers)
      (parameters otherOuter allowInitializers) :=
  bracketed_begins rfl
    (fun _ => commaList_alike _ (parameter_begins nestings allowInitializers).alike)
    fun _ _ => .pure _

/-! Type arguments. -/

theorem requiredType_begins (nestings : rerun.Nestings outer otherOuter) :
    rerun.Begins (requiredType outer) (requiredType otherOuter) := by
  have start : rerun.Begins requireTypeStart requireTypeStart := by
    apply Begins.current
    · intro last closer isEnd isCloser
      rw [if_pos (by rw [isEnd]; rfl), if_pos (by rw [isCloser]; rfl)]
      exact unexpected_over _ _
    · intro expected left right token related _ _
      split
      · exact unexpected_outcome related _ _
      · exact .ok rfl related
  exact start.bind fun _ => nestings.type.alike

theorem typeArguments_begins (nestings : rerun.Nestings outer otherOuter) :
    rerun.Begins (typeArguments outer) (typeArguments otherOuter) := by
  apply (expect_begins rfl).bind
  intro _ expected
  have turn : rerun.AlikeAt expected (requiredType outer >>= commaTurn)
      (requiredType otherOuter >>= commaTurn) :=
    ((requiredType_begins nestings).alike expected).bind fun type => commaTurn_alike type expected
  apply (repeated_alike turn).bind
  intro arguments
  apply ((expect_begins rfl).alike expected).bind
  intro _
  exact .pure _

theorem typeArguments?_alike (nestings : rerun.Nestings outer otherOuter) :
    rerun.Alike (typeArguments? outer) (typeArguments? otherOuter) := by
  intro expected
  apply (atMark_alike (by decide) expected).bind
  intro found
  exact .branch (((typeArguments_begins nestings).alike expected).map _) (.pure _)

theorem typeArgumentsInExpression?_alike (nestings : rerun.Nestings outer otherOuter) :
    rerun.Alike (typeArgumentsInExpression? outer) (typeArgumentsInExpression? otherOuter) := by
  intro expected
  apply (atMark_alike (by decide) expected).bind
  intro found
  refine .branch ?_ (.pure _)
  intro left right related
  rw [nestings.otherRules]
  refine speculate_alike nestings.lenient (fun related => ?_) related
  apply ((typeArguments_begins nestings).alike expected related).bind
  rintro arguments _ after otherAfter rfl later
  apply current_outcome later
  · intro token _ _
    change rerun.Outcome _ _
      ((if token.isMark .equals && token.start == after.lastStop then _ else _ : Parse _) after)
      ((if token.isMark .equals && token.start == otherAfter.lastStop then _ else _ : Parse _)
        otherAfter)
    rw [later.lastStop]
    split
    · exact .ok rfl later
    · split <;> exact .ok rfl later
  · intro _ last closer isEnd isCloser
    change rerun.Outcome _ _
      ((if last.isMark .equals && last.start == after.lastStop then _ else _ : Parse _) after)
      ((if closer.isMark .equals && closer.start == otherAfter.lastStop then _ else _ : Parse _)
        otherAfter)
    have follows (breaks : Bool) : last.kind.followsTypeArguments breaks = true ∧
        closer.kind.followsTypeArguments breaks = true := by
      rw [isEnd, isCloser]
      cases breaks <;> exact ⟨rfl, rfl⟩
    simp only [isMark_end isEnd, isMark_closer isCloser (by decide : Punctuator.equals ≠ _),
      (follows _).1, (follows _).2, Bool.false_and, Bool.or_true, if_true]
    exact .ok rfl later

/-! Names and literals. -/

theorem namePart_alike : rerun.Alike namePart namePart := by
  intro expected left right related
  rw [namePart, atMark, bind_assoc]
  apply current_outcome related
  · intro token seen otherSeen
    rw [pure_bind]
    split
    · next isDot =>
        have plain : token.kind.isBracket = false := by
          rw [Token.isMark_iff.mp isDot]
          rfl
        have dotPassed := related.next seen otherSeen plain
        apply kindAhead_outcome 1 dotPassed
        · rintro name (nameSeen : left.next.peek 0 = _) (otherNameSeen : right.next.peek 0 = _)
          split
          · next isName =>
              rw [take_bind seen, take_bind otherSeen, take_bind nameSeen, take_bind otherNameSeen]
              exact .ok rfl
                (dotPassed.next nameSeen otherNameSeen (isBracket_of_isName isName))
          · exact .ok rfl related
        · exact .ok rfl related
    · exact .ok rfl related
  · intro _ last closer isEnd isCloser
    rw [pure_bind, pure_bind, isMark_end isEnd, isMark_closer isCloser (by decide)]
    exact .ok rfl related

theorem typeReference_begins (nestings : rerun.Nestings outer otherOuter) :
    rerun.Begins (typeReference outer) (typeReference otherOuter) := by
  refine .start (fun _ _ => .current fun last closer isEnd isCloser => ?_) fun start expected => ?_
  · rw [if_neg (by simp [isEnd]), if_neg (by simp [isCloser])]
    exact typeExpected_over
  · intro left right related
    apply current_outcome related
    · intro token seen otherSeen
      split
      · next isName =>
          have plain : token.kind.isBracket = false := by rw [isName]; rfl
          rw [take_bind seen, take_bind otherSeen]
          apply (repeated_alike (namePart_alike expected)
            (related.next seen otherSeen plain)).bind
          rintro parts _ after otherAfter rfl later
          have rest : rerun.AlikeAt expected
              (do
                let name : Identifier :=
                  ⟨← nameSpan start token parts, String.intercalate "." (token.text :: parts)⟩
                let arguments ← typeArguments? outer
                return TypeExpr.named (← spanFrom start) name arguments)
              (do
                let name : Identifier :=
                  ⟨← nameSpan start token parts, String.intercalate "." (token.text :: parts)⟩
                let arguments ← typeArguments? otherOuter
                return TypeExpr.named (← spanFrom start) name arguments) := by
            have names : rerun.AlikeAt expected (nameSpan start token parts)
                (nameSpan start token parts) := by
              unfold nameSpan
              split
              · exact .pure _
              · exact spanFrom_alike start expected
            apply names.bind
            intro nameSpan
            apply (typeArguments?_alike nestings expected).bind
            intro arguments
            apply (spanFrom_alike start expected).bind
            intro span
            exact .pure _
          exact rest later
      · exact typeExpected_alike expected related
    · intro _ last closer isEnd isCloser
      rw [if_neg (by simp [isEnd]), if_neg (by simp [isCloser])]
      exact failAt_outcome related (fun _ => rfl) (fun _ => rfl)

theorem literalType_outcome {token : Token} (related : rerun.Related expected left right)
    (seen : left.peek 0 = .ok token) (otherSeen : right.peek 0 = .ok token)
    (plain : token.kind.isBracket = false) :
    rerun.Outcome (rerun.Related expected) Eq (literalType left) (literalType right) := by
  have later := related.next seen otherSeen plain
  rw [literalType, take_bind seen, take_bind otherSeen]
  cases literalOf? token with
  | some literal => exact ((spanFrom_alike token.start expected).bind fun span => .pure _) later
  | none => exact typeExpected_alike expected later

theorem nameType_outcome (nestings : rerun.Nestings outer otherOuter) {token : Token}
    (related : rerun.Related expected left right) (seen : left.peek 0 = .ok token)
    (otherSeen : right.peek 0 = .ok token) (isName : token.kind = .identifier) :
    rerun.Outcome (rerun.Related expected) Eq (nameType outer left)
      (nameType otherOuter right) := by
  have plain : token.kind.isBracket = false := by rw [isName]; rfl
  have later := related.next seen otherSeen plain
  have reference := (typeReference_begins nestings).alike expected related
  apply current_inside (seen.trans otherSeen.symm)
  intro again sameSeen _
  cases seen.symm.trans sameSeen
  split
  · exact literalType_outcome related seen otherSeen plain
  · cases Primitive.ofSpelling? token.text with
    | none => exact reference
    | some primitive =>
        have taken : rerun.Outcome (rerun.Related expected) Eq
            ((do
              let _ ← take
              return TypeExpr.primitive (← spanFrom token.start) primitive) left)
            ((do
              let _ ← take
              return TypeExpr.primitive (← spanFrom token.start) primitive) right) := by
          rw [take_bind seen, take_bind otherSeen]
          exact ((spanFrom_alike token.start expected).bind fun span => .pure _) later
        apply kindAhead_outcome 1 later
        · intro next _ _
          split
          · exact reference
          · exact taken
        · exact taken

/-! Functions, parentheses and tuples. -/

theorem atFunctionType_outcome {token : Token} (related : rerun.Related expected left right)
    (seen : left.peek 0 = .ok token) (otherSeen : right.peek 0 = .ok token)
    (opens : token.kind = .punctuator .openParen) :
    rerun.Outcome (rerun.Related expected) Eq (atFunctionType left) (atFunctionType right) := by
  have opened : rerun.Related (.closeParen :: expected) left.next right.next :=
    related.next_open seen otherSeen (by rw [opens]; rfl)
  have stays (found : Bool) : rerun.AlikeFrom expected left right (pure found) (pure found) :=
    .ok rfl related
  apply kindAhead_within 1 opened
  rintro first (firstSeen : left.next.peek 0 = _) (otherFirstSeen : right.next.peek 0 = _)
  change rerun.AlikeFrom expected left right _ _
  split
  · exact stays true
  · exact stays true
  · next isName =>
      have named := opened.next firstSeen otherFirstSeen (by rw [isName]; rfl)
      apply kindAhead_within 2 named
      rintro second (secondSeen : left.next.next.peek 0 = _)
        (otherSecondSeen : right.next.next.peek 0 = _)
      change rerun.AlikeFrom expected left right _ _
      split
      · exact stays true
      · exact stays true
      · exact stays true
      · exact stays true
      · next isCloser =>
          have closed := named.next_close secondSeen otherSecondSeen (by rw [isCloser]; rfl)
            related.fits
          apply kindAhead_outcome 3 closed
          · intro third _ _
            exact stays _
          · exact stays _
      · exact stays false
  · exact stays false

theorem functionType_begins (nestings : rerun.Nestings outer otherOuter) :
    rerun.Begins (functionType outer) (functionType otherOuter) := by
  refine .start (fun _ _ => ?_) fun start expected => ?_
  · apply FailsOver.typeParameters
    exact (parameters_begins nestings false).ended.bind _ _
  · apply (typeParameters_alike nestings expected).bind
    intro typeParameters
    apply ((parameters_begins nestings false).alike expected).bind
    intro parameters
    apply ((expect_begins rfl).alike expected).bind
    intro _
    apply (nestings.type.alike expected).bind
    intro result
    apply (spanFrom_alike start expected).bind
    intro span
    exact .pure _

theorem parenthesizedType_begins (nestings : rerun.Nestings outer otherOuter) :
    rerun.Begins (parenthesizedType outer) (parenthesizedType otherOuter) := by
  refine .start (fun _ _ => (expect_over (by decide)).bind _ _) fun start => ?_
  apply (bracketed_begins rfl (fun expected => nestings.type.alike (_ :: expected)) ?_).alike
  intro inner expected
  exact (spanFrom_alike start expected).bind fun span => .pure _

theorem tupleType_begins (nestings : rerun.Nestings outer otherOuter) :
    rerun.Begins (tupleType outer) (tupleType otherOuter) := by
  refine .start (fun _ _ => (expect_over (by decide)).bind _ _) fun start => ?_
  apply (bracketed_begins rfl
    (fun _ => commaList_alike _ (requiredType_begins nestings).alike) ?_).alike
  intro elements expected
  exact (spanFrom_alike start expected).bind fun span => .pure _

/-! Members. -/

theorem typeMember_begins (nestings : rerun.Nestings outer otherOuter) :
    rerun.Begins (typeMember outer) (typeMember otherOuter) := by
  have property (start : Nat) (name : Identifier) (optional : Bool) :
      rerun.Alike (propertySignature outer start name optional)
        (propertySignature otherOuter start name optional) := by
    intro expected
    apply (declaredType?_alike nestings expected).bind
    intro declaredType
    exact (spanFrom_alike start expected).bind fun span => .pure _
  have method (start : Nat) (name : Identifier) (optional : Bool) :
      rerun.Alike (methodSignature outer start name optional)
        (methodSignature otherOuter start name optional) := by
    intro expected
    apply (typeParameters_alike nestings expected).bind
    intro typeParameters
    apply ((parameters_begins nestings false).alike expected).bind
    intro parameters
    apply (declaredType?_alike nestings expected).bind
    intro result
    exact (spanFrom_alike start expected).bind fun span => .pure _
  refine .start (fun _ _ => identifierName_begins.ended.bind _ _) fun start expected => ?_
  apply (identifierName_begins.alike expected).bind
  intro name
  apply (accept_alike rfl expected).bind
  intro optional left right related
  apply current_outcome related
  · intro token _ _
    change rerun.AlikeFrom expected left right _ _
    split
    · exact method start name optional expected related
    · exact method start name optional expected related
    · exact property start name optional expected related
  · intro _ last closer isEnd isCloser
    rw [isEnd, isCloser]
    exact property start name optional expected related

theorem memberSeparator_alike {closing : Punctuator} :
    rerun.AlikeAt (closing :: expected) memberSeparator memberSeparator := by
  intro left right related
  apply current_inside related.inside
  intro token seen otherSeen
  have taken (plain : token.kind.isBracket = false) :
      rerun.Outcome (rerun.Related (closing :: expected)) Eq
        ((do let _ ← take : Parse Unit) left) ((do let _ ← take : Parse Unit) right) := by
    rw [take_bind seen, take_bind otherSeen]
    exact .ok rfl (related.next seen otherSeen plain)
  change rerun.AlikeFrom (closing :: expected) left right _ _
  split
  · next kind => exact taken (by rw [kind]; rfl)
  · next kind => exact taken (by rw [kind]; rfl)
  · exact .ok rfl related
  · exact AlikeAt.branch (unexpected_alike _ _) (.pure _) related

theorem typeMembers_begins (nestings : rerun.Nestings outer otherOuter) :
    rerun.Begins (typeMembers outer) (typeMembers otherOuter) := by
  refine bracketed_begins rfl (fun expected => repeated_alike ?_) fun _ _ => .pure _
  intro left right related
  apply current_inside related.inside
  intro token _ _
  change rerun.AlikeFrom (.closeBrace :: expected) left right _ _
  split
  · exact .ok rfl related
  · exact unexpected_outcome related _ _
  · have member : rerun.AlikeAt (.closeBrace :: expected)
        (do let member ← typeMember outer; memberSeparator; return Turn.more member)
        (do let member ← typeMember otherOuter; memberSeparator; return Turn.more member) := by
      apply ((typeMember_begins nestings).alike _).bind
      intro member
      apply memberSeparator_alike.bind
      intro _
      exact .pure _
    exact member related

theorem objectType_begins (nestings : rerun.Nestings outer otherOuter) :
    rerun.Begins (objectType outer) (objectType otherOuter) := by
  refine .start (fun _ _ => (typeMembers_begins nestings).ended.bind _ _) fun start expected => ?_
  apply ((typeMembers_begins nestings).alike expected).bind
  intro members
  exact (spanFrom_alike start expected).bind fun span => .pure _

/-! All types. -/

theorem primaryType_begins (nestings : rerun.Nestings outer otherOuter) :
    rerun.Begins (primaryType outer) (primaryType otherOuter) := by
  apply Begins.current
  · intro last closer isEnd isCloser
    rw [isEnd, isCloser]
    exact typeExpected_over
  · intro expected left right token related seen otherSeen
    change rerun.AlikeFrom expected left right _ _
    split
    · next kind => exact nameType_outcome nestings related seen otherSeen kind
    · next kind => exact literalType_outcome related seen otherSeen (by rw [kind]; rfl)
    · next kind => exact literalType_outcome related seen otherSeen (by rw [kind]; rfl)
    · next kind =>
        apply (atFunctionType_outcome related seen otherSeen kind).bind
        rintro isFunction _ _ _ rfl later
        split
        · exact (functionType_begins nestings).alike expected later
        · exact (parenthesizedType_begins nestings).alike expected later
    · exact (functionType_begins nestings).alike expected related
    · exact (objectType_begins nestings).alike expected related
    · exact (tupleType_begins nestings).alike expected related
    · exact typeExpected_alike expected related

theorem arraySuffixes_alike (nestings : rerun.Nestings outer otherOuter) (start : Nat)
    (element : TypeExpr) :
    rerun.Alike (arraySuffixes outer start element) (arraySuffixes otherOuter start element) := by
  intro expected left right related
  apply current_outcome related
  · intro token seen otherSeen
    split
    · next isBracket =>
        simp only [Bool.and_eq_true] at isBracket
        have kind := Token.isMark_iff.mp isBracket.1
        have opened : rerun.Related (.closeBracket :: expected) left.next right.next :=
          related.next_open seen otherSeen (by rw [kind]; rfl)
        apply kindAhead_within 1 opened
        intro second secondSeen _
        split
        · next isCloser =>
            apply nestings.enter_outcome
            intro level other levels
            exact levels.arraySuffix start element
              ⟨related, ⟨token, seen, otherSeen, kind⟩, second, secondSeen, isCloser⟩
        · exact .ok rfl related
    · exact .ok rfl related
  · intro _ last closer isEnd isCloser
    rw [isMark_end isEnd, isMark_closer isCloser (by decide)]
    exact .ok rfl related

theorem arraySuffix_outcome (nestings : rerun.Nestings outer otherOuter) (start : Nat)
    (element : TypeExpr) (atBrackets : rerun.AtBrackets expected left right) :
    rerun.Outcome (rerun.Related expected) Eq (arraySuffix outer start element left)
      (arraySuffix otherOuter start element right) := by
  rcases atBrackets with ⟨related, ⟨token, seen, otherSeen, kind⟩, second, secondSeen, isCloser⟩
  have opened : rerun.Related (.closeBracket :: expected) left.next right.next :=
    related.next_open seen otherSeen (by rw [kind]; rfl)
  have otherSecondSeen := opened.inside.symm.trans secondSeen
  have closed := opened.next_close secondSeen otherSecondSeen (by rw [isCloser]; rfl) related.fits
  rw [arraySuffix, arraySuffix, take_bind seen, take_bind otherSeen, take_bind secondSeen,
    take_bind otherSecondSeen]
  exact ((spanFrom_alike start expected).bind fun span =>
    arraySuffixes_alike nestings start _ expected) closed

theorem postfixType_begins (nestings : rerun.Nestings outer otherOuter) :
    rerun.Begins (postfixType outer) (postfixType otherOuter) := by
  refine .start (fun _ _ => (primaryType_begins nestings).ended.bind _ _) fun start expected => ?_
  apply ((primaryType_begins nestings).alike expected).bind
  intro type
  exact arraySuffixes_alike nestings start type expected

theorem listType_begins {mark : Punctuator} {build : Span → List TypeExpr → TypeExpr}
    {member otherMember : Parse TypeExpr}
    (plain : (TokenKind.punctuator mark).isBracket = false)
    (begins : rerun.Begins member otherMember) :
    rerun.Begins (listType mark build member) (listType mark build otherMember) := by
  refine .start (fun _ _ => .accept plain (begins.ended.bind _ _)) fun start expected => ?_
  have turn : rerun.AlikeAt expected (markTurn mark member) (markTurn mark otherMember) := by
    apply (accept_alike plain expected).bind
    intro found
    exact .branch ((begins.alike expected).map _) (.pure _)
  apply (accept_alike plain expected).bind
  intro leading
  apply (begins.alike expected).bind
  intro first
  apply (atMark_alike (ne_closeParen plain) expected).bind
  intro found
  apply AlikeAt.branch
  · apply (repeated_alike turn).bind
    intro others
    exact (spanFrom_alike start expected).bind fun span => .pure _
  · exact .pure _

theorem unionType_begins (nestings : rerun.Nestings outer otherOuter) :
    rerun.Begins (unionType outer) (unionType otherOuter) :=
  listType_begins rfl (listType_begins rfl (postfixType_begins nestings))

end Rerun

end TypedScript
