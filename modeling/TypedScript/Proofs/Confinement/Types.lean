import TypedScript.Parser.Types
import TypedScript.Proofs.Confinement.Basic

/-!
How far the rules for types look. Braces stand around members and around the bodies of functions,
and only there may a semicolon stand within a type.
-/

namespace TypedScript

/-! Bodies. -/

theorem closes_of_bodyLength? {depth count outer : Nat} {tokens : List Token}
    (found : Parse.bodyLength? depth tokens = some count) :
    (Closes (outer + depth + 1) tokens ↔ Closes (outer + 1) (tokens.drop count)) ∧
      ∃ brace rest, tokens.drop count = brace :: rest ∧
        brace.kind = .punctuator .closeBrace := by
  fun_induction Parse.bodyLength? depth tokens generalizing count with
  | case1 => cases found
  | case2 depth token rest opens induction =>
      rcases Option.map_eq_some_iff.mp found with ⟨inner, innerFound, rfl⟩
      rw [closes_cons_open (Token.isMark_iff.mp opens), List.drop_succ_cons]
      exact induction innerFound
  | case3 token rest _ closes =>
      cases found
      exact ⟨Iff.rfl, token, rest, rfl, Token.isMark_iff.mp closes⟩
  | case4 token rest _ closes depth induction =>
      rcases Option.map_eq_some_iff.mp found with ⟨inner, innerFound, rfl⟩
      rw [Nat.add_succ, closes_cons_close (Token.isMark_iff.mp closes), List.drop_succ_cons]
      exact induction innerFound
  | case5 depth token rest noOpen noClose induction =>
      rcases Option.map_eq_some_iff.mp found with ⟨inner, innerFound, rfl⟩
      rw [closes_cons_other (noOpen ∘ Token.isMark_iff.mpr) (noClose ∘ Token.isMark_iff.mpr),
        List.drop_succ_cons]
      exact induction innerFound

theorem not_closes_of_bodyLength? {depth : Nat} {tokens : List Token}
    (missing : Parse.bodyLength? depth tokens = none) (outer : Nat) :
    ¬Closes (outer + depth + 1) tokens := by
  fun_induction Parse.bodyLength? depth tokens with
  | case1 => exact Nat.succ_ne_zero _
  | case2 depth token rest opens induction =>
      rw [closes_cons_open (Token.isMark_iff.mp opens)]
      exact induction (Option.map_eq_none_iff.mp missing)
  | case3 => cases missing
  | case4 token rest _ closes depth induction =>
      rw [Nat.add_succ, closes_cons_close (Token.isMark_iff.mp closes)]
      exact induction (Option.map_eq_none_iff.mp missing)
  | case5 depth token rest noOpen noClose induction =>
      rw [closes_cons_other (noOpen ∘ Token.isMark_iff.mpr) (noClose ∘ Token.isMark_iff.mpr)]
      exact induction (Option.map_eq_none_iff.mp missing)

namespace Confined

open Parse

variable {nesting : Nesting} {depth : Nat}

theorem functionBody : Confined (.within depth) (.within depth) functionBody := by
  refine currentStart.bind fun start => openBrace.bind fun brace before => ?_
  apply ConfinedAt.get_bind
  dsimp only
  split
  · next count found =>
      rcases @closes_of_bodyLength? 0 count depth _ found with ⟨closes, last, rest, shape, _⟩
      refine .modify_bind ?_ (closeBrace.bind (fun _ => (spanFrom start).bind fun _ => pure _) _)
      rw [Cursor.skip_ahead]
      refine ⟨closes, fun goesOn => ⟨closes.mp goesOn.1, goesOn.2.drop ?_⟩⟩
      simp [shape]
  · next missing =>
      have unclosed := not_closes_of_bodyLength? missing depth
      exact Stays.failed unexpected_ne_ok fun goesOn => unclosed goesOn.1

/-! Parts of functions. -/

theorem declaredType? (confined : nesting.Confined) :
    Confined (.within depth) (.within depth) (declaredType? nesting) :=
  afterMark rfl confined.type

theorem typeParameter (confined : nesting.Confined) :
    Confined (.within depth) (.within depth) (typeParameter nesting) :=
  currentStart.bind fun start => identifier.bind fun _ =>
    (afterWord "extends" confined.type).bind fun _ =>
    (afterMark rfl confined.type).bind fun _ => (spanFrom start).bind fun _ => pure _

theorem typeParameterTurn (confined : nesting.Confined) :
    Confined (.within depth) (.within depth) (typeParameterTurn nesting) := by
  refine (typeParameter confined).bind fun _ => (accept rfl).bind fun found => ?_
  split
  · refine (atMark .greaterThan).bind fun closing => ?_
    split <;> exact pure _
  · exact pure _

theorem typeParameters (confined : nesting.Confined) :
    Confined (.within depth) (.within depth) (typeParameters nesting) := by
  refine (accept rfl).bind fun found => ?_
  split
  · exact (repeated (typeParameterTurn confined)).bind fun _ => (expect rfl).bind fun _ => pure _
  · exact pure _

theorem initializer? (confined : nesting.Confined) (allowed : Bool) :
    Confined (.within depth) (.within depth) (initializer? nesting allowed) := by
  unfold Parse.initializer?
  split
  · exact afterMark rfl confined.expression
  · exact pure _

theorem parameter (confined : nesting.Confined) (allowInitializer : Bool) :
    Confined (.within depth) (.within depth) (parameter nesting allowInitializer) :=
  currentStart.bind fun start => (accept rfl).bind fun _ => identifier.bind fun _ =>
    (accept rfl).bind fun _ => (declaredType? confined).bind fun _ =>
    (initializer? confined allowInitializer).bind fun _ => (spanFrom start).bind fun _ => pure _

theorem parameters (confined : nesting.Confined) (allowInitializers : Bool) :
    Confined (.within depth) (.within depth) (parameters nesting allowInitializers) :=
  (expect rfl).bind fun _ =>
    (commaList .closeParen (parameter confined allowInitializers)).bind fun _ =>
    (expect rfl).bind fun _ => pure _

/-! Type arguments and references. -/

theorem requiredType (confined : nesting.Confined) :
    Confined (.within depth) (.within depth) (requiredType nesting) := by
  have start : Confined (.within depth) (.within depth) requireTypeStart := by
    refine current.bind fun token => ?_
    split
    · exact unexpected
    · exact pure _
  exact start.bind fun _ => confined.type

theorem typeArguments (confined : nesting.Confined) :
    Confined (.within depth) (.within depth) (typeArguments nesting) :=
  (expect rfl).bind fun _ => (repeated ((requiredType confined).bind commaTurn)).bind fun _ =>
    (expect rfl).bind fun _ => pure _

theorem typeArguments? (confined : nesting.Confined) :
    Confined (.within depth) (.within depth) (typeArguments? nesting) := by
  refine (atMark .lessThan).bind fun found => ?_
  split
  · exact (typeArguments confined).map
  · exact pure _

theorem typeArgumentsInExpression? (confined : nesting.Confined) :
    Confined (.within depth) (.within depth) (typeArgumentsInExpression? nesting) := by
  refine (atMark .lessThan).bind fun found => ?_
  split
  · refine speculate ((typeArguments confined).bind fun _ => current.bind fun token => ?_)
    intro before
    apply ConfinedAt.get_bind
    split
    · exact pure _ before
    · split <;> exact pure _ before
  · exact pure _

theorem namePart : Confined (.within depth) (.within depth) namePart := by
  intro before
  apply ConfinedAt.atMark_bind
  intro token found
  split
  · next isDot =>
      have one := PlainAhead.one found (Token.isMark_iff.mp isDot ▸ rfl)
      apply ConfinedAt.kindAhead_bind one
      intro second secondFound
      split
      · next isName =>
          apply ConfinedAt.take_bind (one.succ secondFound (isPlain_of_isName isName))
          intro _ between plain
          apply ConfinedAt.take_bind plain
          intro _ after _
          exact pure _ after
      · exact pure _ before
  · exact pure _ before

theorem nameSpan (start : Nat) (first : Token) (parts : List String) :
    Confined (.within depth) (.within depth) (nameSpan start first parts) := by
  unfold Parse.nameSpan
  split
  · exact pure _
  · exact spanFrom start

theorem typeReference (confined : nesting.Confined) :
    Confined (.within depth) (.within depth) (typeReference nesting) := by
  refine currentStart.bind fun start before => ?_
  apply ConfinedAt.current_bind
  intro token found
  split
  · next isName =>
      apply ConfinedAt.take_bind (.one found (isName ▸ rfl))
      intro first after _
      exact (repeated namePart).bind (fun parts => (nameSpan start first parts).bind fun _ =>
        (typeArguments? confined).bind fun _ => (spanFrom start).bind fun _ => pure _) after
  · exact typeExpected before

theorem literalType {before : Cursor} (plain : PlainAhead 1 before) :
    ConfinedAt before (.within depth) (.within depth) literalType := by
  apply ConfinedAt.take_bind plain
  intro token after _
  split
  · exact (spanFrom token.start).bind (fun _ => pure _) after
  · exact typeExpected after

theorem nameType (confined : nesting.Confined) {before : Cursor} (plain : PlainAhead 1 before) :
    ConfinedAt before (.within depth) (.within depth) (nameType nesting) := by
  apply ConfinedAt.current_bind
  intro token found
  split
  · exact literalType plain
  · split
    · exact typeReference confined before
    · apply ConfinedAt.kindAhead_bind plain
      intro second _
      split
      · exact typeReference confined before
      · apply ConfinedAt.take_bind plain
        intro _ after _
        exact (spanFrom token.start).bind (fun _ => pure _) after

/-! Functions, parentheses and tuples. -/

/-- Looking for the parameters of a function goes on only past names and closing parentheses. -/
theorem atFunctionType {before : Cursor} (plain : PlainAhead 1 before) :
    ConfinedAt before (.within depth) (.within depth) atFunctionType := by
  apply ConfinedAt.kindAhead_bind plain
  intro first found
  split
  · exact pure _ before
  · exact pure _ before
  · next isName =>
      have two := plain.succ found (isName ▸ rfl)
      apply ConfinedAt.kindAhead_bind two
      intro second secondFound
      split
      · exact pure _ before
      · exact pure _ before
      · exact pure _ before
      · exact pure _ before
      · next isClose =>
          apply ConfinedAt.kindAhead_bind (two.succ secondFound (isClose ▸ rfl))
          intro third _
          exact pure _ before
      · exact pure _ before
  · exact pure _ before

theorem functionType (confined : nesting.Confined) :
    Confined (.within depth) (.within depth) (functionType nesting) :=
  currentStart.bind fun start => (typeParameters confined).bind fun _ =>
    (parameters confined false).bind fun _ => (expect rfl).bind fun _ =>
    confined.type.bind fun _ => (spanFrom start).bind fun _ => pure _

theorem parenthesizedType (confined : nesting.Confined) :
    Confined (.within depth) (.within depth) (parenthesizedType nesting) :=
  currentStart.bind fun start => (expect rfl).bind fun _ => confined.type.bind fun _ =>
    (expect rfl).bind fun _ => (spanFrom start).bind fun _ => pure _

theorem tupleType (confined : nesting.Confined) :
    Confined (.within depth) (.within depth) (tupleType nesting) :=
  currentStart.bind fun start => (expect rfl).bind fun _ =>
    (commaList .closeBracket (requiredType confined)).bind fun _ => (expect rfl).bind fun _ =>
    (spanFrom start).bind fun _ => pure _

/-! Members. -/

theorem typeMember (confined : nesting.Confined) :
    Confined (.within depth) (.within depth) (typeMember nesting) := by
  have property (start : Nat) (name : Identifier) (optional : Bool) :
      Confined (.within depth) (.within depth) (propertySignature nesting start name optional) :=
    (declaredType? confined).bind fun _ => (spanFrom start).bind fun _ => pure _
  have method (start : Nat) (name : Identifier) (optional : Bool) :
      Confined (.within depth) (.within depth) (methodSignature nesting start name optional) :=
    (typeParameters confined).bind fun _ => (parameters confined false).bind fun _ =>
      (declaredType? confined).bind fun _ => (spanFrom start).bind fun _ => pure _
  refine currentStart.bind fun start => identifierName.bind fun name =>
    (accept rfl).bind fun optional => current.bind fun token => ?_
  split
  · exact method start name optional
  · exact method start name optional
  · exact property start name optional

/-- A semicolon between members is not the last token: the brace after them is still open. -/
theorem memberSeparator :
    Confined (.within (depth + 1)) (.within (depth + 1)) memberSeparator := by
  intro before
  apply ConfinedAt.current_bind
  intro token found
  split
  · next isSemicolon =>
      apply (ConfinedAt.take_of_moves found (by simp [isSemicolon]) fun _ =>
        .separator isSemicolon).bind
      intro _ after _
      exact pure _ after
  · next isComma =>
      apply ConfinedAt.take_bind (.one found (isComma ▸ rfl))
      intro _ after _
      exact pure _ after
  · exact pure _ before
  · split
    · exact unexpected before
    · exact pure _ before

theorem memberTurn (confined : nesting.Confined) :
    Confined (.within (depth + 1)) (.within (depth + 1)) (memberTurn nesting) := by
  refine current.bind fun token => ?_
  split
  · exact pure _
  · exact unexpected
  · exact (typeMember confined).bind fun _ => memberSeparator.bind fun _ => pure _

theorem typeMembers (confined : nesting.Confined) :
    Confined (.within depth) (.within depth) (typeMembers nesting) :=
  openBrace.bind fun _ => (repeated (memberTurn confined)).bind fun _ =>
    closeBrace.bind fun _ => pure _

theorem objectType (confined : nesting.Confined) :
    Confined (.within depth) (.within depth) (objectType nesting) :=
  currentStart.bind fun start => (typeMembers confined).bind fun _ =>
    (spanFrom start).bind fun _ => pure _

/-! All types. -/

theorem primaryType (confined : nesting.Confined) :
    Confined (.within depth) (.within depth) (primaryType nesting) := by
  intro before
  apply ConfinedAt.current_bind
  intro token found
  split
  · next isName => exact nameType confined (.one found (isName ▸ rfl))
  · next isString => exact literalType (.one found (isString ▸ rfl))
  · next isNumber => exact literalType (.one found (isNumber ▸ rfl))
  · next isOpen =>
      apply (atFunctionType (.one found (isOpen ▸ rfl))).bind
      intro isFunction after _
      split
      · exact functionType confined after
      · exact parenthesizedType confined after
  · exact functionType confined before
  · exact objectType confined before
  · exact tupleType confined before
  · exact typeExpected before

theorem arraySuffixes (confined : nesting.Confined) (start : Nat) (element : TypeExpr) :
    Confined (.within depth) (.within depth) (arraySuffixes nesting start element) := by
  intro before
  apply ConfinedAt.current_bind
  intro token found
  split
  · next opens =>
      have isOpen := Token.isMark_iff.mp (Bool.and_eq_true_iff.mp opens).1
      have one := PlainAhead.one found (isOpen ▸ rfl)
      apply ConfinedAt.kindAhead_bind one
      intro second secondFound
      split
      · next closes =>
          apply confined.enter
          intro level levelConfined
          exact levelConfined.arraySuffix (one.succ secondFound (closes ▸ rfl))
      · exact pure _ before
  · exact pure _ before

theorem arraySuffix (confined : nesting.Confined) {start : Nat} {element : TypeExpr}
    {before : Cursor} (plain : PlainAhead 2 before) :
    ConfinedAt before (.within depth) (.within depth) (arraySuffix nesting start element) := by
  apply ConfinedAt.take_bind plain
  intro _ between second
  apply ConfinedAt.take_bind second
  intro _ after _
  exact (spanFrom start).bind (fun _ => arraySuffixes confined start _) after

theorem listType {mark : Punctuator} {build : Span → List TypeExpr → TypeExpr}
    {member : Parse TypeExpr} (isPlain : (TokenKind.punctuator mark).isPlain = true)
    (confined : Confined (.within depth) (.within depth) member) :
    Confined (.within depth) (.within depth) (listType mark build member) := by
  have turn : Confined (.within depth) (.within depth) (markTurn mark member) := by
    refine (accept isPlain).bind fun found => ?_
    split
    · exact confined.map
    · exact pure _
  refine currentStart.bind fun start => (accept isPlain).bind fun _ =>
    confined.bind fun first => (atMark mark).bind fun found => ?_
  split
  · exact (repeated turn).bind fun _ => (spanFrom start).bind fun _ => pure _
  · exact pure _

theorem unionType (confined : nesting.Confined) :
    Confined (.within depth) (.within depth) (unionType nesting) := by
  have postfixType : Confined (.within depth) (.within depth) (postfixType nesting) :=
    currentStart.bind fun start => (primaryType confined).bind fun type =>
      arraySuffixes confined start type
  exact listType rfl (listType rfl postfixType)

end Confined

end TypedScript
