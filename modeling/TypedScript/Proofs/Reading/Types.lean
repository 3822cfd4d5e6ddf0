import TypedScript.Parser.Types
import TypedScript.Proofs.Reading.Functions

/-!
What the rules for types read.
-/

namespace TypedScript

namespace Parse

variable {before between after : Cursor} {nesting : Nesting}

theorem requireTypeStart_eq_ok {done : Unit} (parsed : requireTypeStart before = .ok done after) :
    before = after := by
  simp only [requireTypeStart, bind_eq_ok, current_eq_ok] at parsed
  rcases parsed with ⟨token, _, ⟨_, rfl⟩, parsed⟩
  split at parsed
  · exact absurd parsed unexpected_ne_ok
  · exact (pure_eq_ok.mp parsed).2

theorem requiredType_reads (reading : nesting.Reading) :
    Reads (requiredType nesting) (TypeExpr.Spelled .type) fun type => [.type type] := by
  intro before value after parsed
  rcases bind_eq_ok.mp parsed with ⟨_, _, required, parsed⟩
  rcases requireTypeStart_eq_ok required with rfl
  exact reading.type parsed

/-! Type arguments. -/

theorem typeArguments_reads (reading : nesting.Reading) :
    Reads (typeArguments nesting)
      (fun values => Arguments (TypeExpr.Spelled .type) (some values)) (List.map .type) := by
  intro before values after parsed
  simp only [typeArguments, bind_eq_ok, pure_eq_ok] at parsed
  rcases parsed with ⟨_, _, opened, arguments, _, turnsParsed, _, _, closed, rfl, rfl⟩
  rcases repeated_commaTurn_reads (requiredType_reads reading) turnsParsed with
    ⟨lexemes, separated, piece⟩
  have whole := ((expect_piece opened).append piece).append (expect_piece closed)
  exact ⟨_, .present separated, by simpa using whole⟩

theorem typeArguments?_reads (reading : nesting.Reading) :
    Reads (typeArguments? nesting) (Arguments (TypeExpr.Spelled .type))
      fun arguments => (arguments.getD []).map .type := by
  intro before value after parsed
  simp only [typeArguments?, bind_eq_ok, atMark_eq_ok] at parsed
  rcases parsed with ⟨_, _, ⟨_, rfl⟩, parsed⟩
  split at parsed
  · rcases map_eq_ok.mp parsed with ⟨arguments, argumentsParsed, rfl⟩
    exact typeArguments_reads reading argumentsParsed
  · rcases pure_eq_ok.mp parsed with ⟨rfl, rfl⟩
    exact ⟨[], .absent, .nil before⟩

theorem typeArgumentsInExpression?_reads (reading : nesting.Reading) :
    Reads (typeArgumentsInExpression? nesting) (Arguments (TypeExpr.Spelled .type))
      fun arguments => (arguments.getD []).map .type := by
  intro before value after parsed
  simp only [typeArgumentsInExpression?, bind_eq_ok, atMark_eq_ok] at parsed
  rcases parsed with ⟨_, _, ⟨_, rfl⟩, parsed⟩
  split at parsed
  · rcases speculate_eq_ok parsed with ⟨arguments, rfl, attempted⟩ | ⟨rfl, rfl⟩
    · simp only [bind_eq_ok, current_eq_ok, get_eq_ok] at attempted
      rcases attempted with ⟨_, _, argumentsParsed, token, _, ⟨_, rfl⟩, _, _, ⟨rfl, rfl⟩, decided⟩
      split at decided
      · cases decided
      · split at decided
        · cases decided
          exact typeArguments_reads reading argumentsParsed
        · cases decided
    · exact ⟨[], .absent, .nil before⟩
  · rcases pure_eq_ok.mp parsed with ⟨rfl, rfl⟩
    exact ⟨[], .absent, .nil before⟩

/-! Names. -/

theorem namePart_leads {turned : Turn String} (parsed : namePart before = .ok turned after) :
    turned.Leads (fun parts before after => ∃ lexemes, DottedParts parts lexemes ∧
      Piece before after lexemes []) before after := by
  simp only [namePart, bind_eq_ok, atMark_eq_ok] at parsed
  rcases parsed with ⟨_, _, ⟨⟨dot, peeked, rfl⟩, rfl⟩, parsed⟩
  split at parsed
  · next isDot =>
      simp only [bind_eq_ok, kindAhead_eq_ok] at parsed
      rcases parsed with ⟨_, _, ⟨⟨second, peekedSecond, rfl⟩, rfl⟩, parsed⟩
      split at parsed
      · next isName =>
          simp only [bind_eq_ok, take_eq_ok, pure_eq_ok] at parsed
          rcases parsed with ⟨_, _, ⟨_, rfl⟩, part, _, ⟨found, rfl⟩, rfl, rfl⟩
          have dotMore := Token.isMark_ne_end isDot
          rw [Cursor.next_peek, peekedSecond] at found
          rcases Except.ok.inj found with rfl
          rw [← Cursor.next_peek] at peekedSecond
          rcases Piece.next peeked dotMore with ⟨dotWellFormed, dotPiece⟩
          rcases Piece.next peekedSecond (Token.isName_ne_end isName) with
            ⟨nameWellFormed, namePiece⟩
          rw [Token.lexeme_of_isMark dotWellFormed isDot] at dotPiece
          have piece := dotPiece.append namePiece
          refine ⟨piece.length_lt (by simp), ?_⟩
          rintro parts later ⟨others, dotted, rest⟩
          refine ⟨_, .cons (Token.freeName_lexeme nameWellFormed isName) dotted, ?_⟩
          exact piece.append rest
      · rcases pure_eq_ok.mp parsed with ⟨rfl, rfl⟩
        exact ⟨[], .nil, .nil before⟩
  · rcases pure_eq_ok.mp parsed with ⟨rfl, rfl⟩
    exact ⟨[], .nil, .nil before⟩

theorem nameSpan_whole {start : Nat} {token : Token} {parts : List String} {lexemes : List Lexeme}
    {between : Cursor} {span : Span} (kind : token.kind = .identifier)
    (peeked : before.peek 0 = .ok token) (starts : before.StartsAt start)
    (dotted : DottedParts parts lexemes)
    (piece : Piece before between (.word token.text :: lexemes) [])
    (closed : nameSpan start token parts between = .ok span after) :
    after = between ∧ Whole before between (.word token.text :: lexemes)
      (.identifier ⟨span, String.intercalate "." (token.text :: parts)⟩) := by
  cases dotted with
  | nil =>
      rcases pure_eq_ok.mp closed with ⟨rfl, rfl⟩
      have whole : Whole before before.next [token.lexeme]
          (.identifier ⟨token.span, String.intercalate "." [token.text]⟩) :=
        .next peeked (by simp [kind]) rfl rfl
      rw [Token.lexeme_of_identifier kind] at whole
      exact ⟨rfl, piece.eq_skip ▸ whole⟩
  | cons =>
      rcases spanFrom_eq_ok.mp closed with ⟨rfl, rfl⟩
      exact ⟨rfl, piece.whole starts (by simp) rfl rfl⟩

theorem typeReference_forms (reading : nesting.Reading) :
    Forms (typeReference nesting) (TypeExpr.Spelled .intersectionMember) .type := by
  intro before value after parsed
  simp only [typeReference, bind_eq_ok, currentStart_eq_ok, current_eq_ok] at parsed
  rcases parsed with ⟨start, _, ⟨starts, rfl⟩, token, _, ⟨peeked, rfl⟩, parsed⟩
  split at parsed
  · next kind =>
      simp only [bind_eq_ok, take_eq_ok, spanFrom_eq_ok, pure_eq_ok] at parsed
      rcases parsed with ⟨first, _, ⟨found, rfl⟩, parts, _, partsParsed, span, _, closed,
        arguments, _, argumentsParsed, _, _, ⟨rfl, rfl⟩, rfl, rfl⟩
      rw [peeked] at found
      rcases Except.ok.inj found with rfl
      rcases Piece.next peeked (by simp [kind]) with ⟨_, firstPiece⟩
      rw [Token.lexeme_of_identifier kind] at firstPiece
      rcases repeated_induction (fun _ _ _ parsed => namePart_leads parsed) partsParsed with
        ⟨_, dotted, partsPiece⟩
      rcases nameSpan_whole kind peeked starts dotted (firstPiece.append partsPiece) closed with
        ⟨rfl, name⟩
      rcases typeArguments?_reads reading argumentsParsed with ⟨_, argumentsSpelled, argumentsPiece⟩
      refine ⟨_, .named (.intro dotted) argumentsSpelled, ?_⟩
      exact (name.piece.append argumentsPiece).whole starts (by simp) rfl rfl
  · exact absurd parsed typeExpected_ne_ok

/-! Literals and primitives. -/

theorem literalType_forms :
    Forms literalType (TypeExpr.Spelled .intersectionMember) .type := by
  intro before value after parsed
  simp only [literalType, bind_eq_ok, take_eq_ok] at parsed
  rcases parsed with ⟨token, _, ⟨peeked, rfl⟩, parsed⟩
  cases found : literalOf? token with
  | none =>
      rw [found] at parsed
      exact absurd parsed typeExpected_ne_ok
  | some literal =>
      simp only [found, bind_eq_ok, spanFrom_eq_ok, pure_eq_ok] at parsed
      rcases parsed with ⟨_, _, ⟨rfl, rfl⟩, rfl, rfl⟩
      have more := literalOf?_ne_end found
      rcases literalOf?_spec (Piece.next peeked more).1 found with ⟨span, spelled⟩
      have inner : Whole before before.next _ (.literal literal) :=
        .next peeked more span rfl
      exact ⟨_, .literal spelled, inner.piece.whole ⟨token, peeked, rfl⟩ (by simp) rfl rfl⟩

theorem ofSpelling?_spelling {text : String} {primitive : Primitive}
    (found : Primitive.ofSpelling? text = some primitive) : text = primitive.spelling := by
  have matched := List.find?_some found
  exact (beq_iff_eq.mp matched).symm

theorem nameType_forms (reading : nesting.Reading) {before after : Cursor} {value : TypeExpr}
    {token : Token} (peeked : before.peek 0 = .ok token) (kind : token.kind = .identifier)
    (parsed : nameType nesting before = .ok value after) :
    Formed before after (value.Spelled .intersectionMember) (.type value) := by
  simp only [nameType, bind_eq_ok, current_eq_ok] at parsed
  rcases parsed with ⟨_, _, ⟨found, rfl⟩, parsed⟩
  rw [peeked] at found
  rcases Except.ok.inj found with rfl
  split at parsed
  · exact literalType_forms parsed
  · cases primitiveFound : Primitive.ofSpelling? token.text with
    | none =>
        rw [primitiveFound] at parsed
        exact typeReference_forms reading parsed
    | some primitive =>
        simp only [primitiveFound, bind_eq_ok, kindAhead_eq_ok] at parsed
        rcases parsed with ⟨_, _, ⟨_, rfl⟩, parsed⟩
        split at parsed
        · exact typeReference_forms reading parsed
        · simp only [bind_eq_ok, take_eq_ok, spanFrom_eq_ok, pure_eq_ok] at parsed
          rcases parsed with ⟨_, _, ⟨_, rfl⟩, _, _, ⟨rfl, rfl⟩, rfl, rfl⟩
          rcases Piece.next peeked (by simp [kind]) with ⟨_, piece⟩
          rw [Token.lexeme_of_identifier kind, ofSpelling?_spelling primitiveFound] at piece
          exact ⟨_, .primitive, piece.whole ⟨token, peeked, rfl⟩ (by simp) rfl rfl⟩

/-! Types in brackets, and functions. -/

theorem functionType_forms (reading : nesting.Reading) :
    Forms (functionType nesting) (TypeExpr.Spelled .intersectionMember) .type := by
  intro before value after parsed
  simp only [functionType, bind_eq_ok, currentStart_eq_ok, spanFrom_eq_ok, pure_eq_ok] at parsed
  rcases parsed with ⟨start, _, ⟨starts, rfl⟩, typeParameters, _, typeParametersParsed,
    parameters, _, parametersParsed, _, _, arrowParsed, result, _, resultParsed, _, _,
    ⟨rfl, rfl⟩, rfl, rfl⟩
  rcases typeParameters_reads reading typeParametersParsed with
    ⟨_, typeParametersSpelled, typeParametersPiece⟩
  rcases parameters_reads reading false parametersParsed with
    ⟨_, ⟨listed, parametersSpelled, rfl⟩, parametersPiece⟩
  rcases reading.type resultParsed with ⟨_, resultSpelled, resultPiece⟩
  have piece := ((typeParametersPiece.append parametersPiece).append
    (expect_piece arrowParsed)).append resultPiece
  refine ⟨_, .function typeParametersSpelled parametersSpelled resultSpelled, ?_⟩
  have whole : Whole before _ _ (.type (.function ⟨start, _⟩ typeParameters parameters result)) :=
    piece.whole starts (by simp) (by simp [Node.children, TypeExpr.children]) rfl
  simpa using whole

theorem parenthesizedType_forms (reading : nesting.Reading) :
    Forms (parenthesizedType nesting) (TypeExpr.Spelled .intersectionMember) .type := by
  intro before value after parsed
  simp only [parenthesizedType, bind_eq_ok, currentStart_eq_ok, spanFrom_eq_ok, pure_eq_ok]
    at parsed
  rcases parsed with ⟨start, _, ⟨starts, rfl⟩, _, _, opened, inner, _, innerParsed, _, _, closed,
    _, _, ⟨rfl, rfl⟩, rfl, rfl⟩
  rcases reading.type innerParsed with ⟨_, innerSpelled, innerPiece⟩
  have piece := ((expect_piece opened).append innerPiece).append (expect_piece closed)
  exact ⟨_, .parenthesized innerSpelled, piece.whole starts (by simp) rfl rfl⟩

theorem tupleType_forms (reading : nesting.Reading) :
    Forms (tupleType nesting) (TypeExpr.Spelled .intersectionMember) .type := by
  intro before value after parsed
  simp only [tupleType, bind_eq_ok, currentStart_eq_ok, spanFrom_eq_ok, pure_eq_ok] at parsed
  rcases parsed with ⟨start, _, ⟨starts, rfl⟩, _, _, opened, elements, _, elementsParsed, _, _,
    closed, _, _, ⟨rfl, rfl⟩, rfl, rfl⟩
  rcases commaList_reads (requiredType_reads reading) elementsParsed with
    ⟨_, elementsSpelled, elementsPiece⟩
  have piece := ((expect_piece opened).append elementsPiece).append (expect_piece closed)
  refine ⟨_, .tuple elementsSpelled, piece.whole starts (by simp) ?_ rfl⟩
  simp [Node.children, TypeExpr.children]

/-! Members. -/

structure MemberStart (origin now : Cursor) (name : Identifier) (optional : Bool)
    (lexemes : List Lexeme) : Prop where
  spelled : name.SpelledFreely lexemes
  piece : Piece origin now (lexemes ++ Lexeme.flag optional .question) [.identifier name]
  notEmpty : lexemes ≠ []

theorem propertySignature_forms (reading : nesting.Reading) {origin : Cursor} {start : Nat}
    {name : Identifier} {optional : Bool} {lexemes : List Lexeme} {value : TypeMember}
    (starts : origin.StartsAt start) (member : MemberStart origin before name optional lexemes)
    (parsed : propertySignature nesting start name optional before = .ok value after) :
    Formed origin after value.Spelled (.typeMember value) := by
  simp only [propertySignature, bind_eq_ok, spanFrom_eq_ok, pure_eq_ok] at parsed
  rcases parsed with ⟨declaredType, _, typeParsed, _, _, ⟨rfl, rfl⟩, rfl, rfl⟩
  rcases declaredType?_reads reading typeParsed with ⟨_, typeSpelled, typePiece⟩
  refine ⟨_, .property member.spelled typeSpelled, ?_⟩
  exact (member.piece.append typePiece).whole starts (by simp [member.notEmpty]) rfl rfl

theorem methodSignature_forms (reading : nesting.Reading) {origin : Cursor} {start : Nat}
    {name : Identifier} {optional : Bool} {lexemes : List Lexeme} {value : TypeMember}
    (starts : origin.StartsAt start) (member : MemberStart origin before name optional lexemes)
    (parsed : methodSignature nesting start name optional before = .ok value after) :
    Formed origin after value.Spelled (.typeMember value) := by
  simp only [methodSignature, bind_eq_ok, spanFrom_eq_ok, pure_eq_ok] at parsed
  rcases parsed with ⟨typeParameters, _, typeParametersParsed, parameters, _, parametersParsed,
    result, _, resultParsed, _, _, ⟨rfl, rfl⟩, rfl, rfl⟩
  rcases typeParameters_reads reading typeParametersParsed with
    ⟨_, typeParametersSpelled, typeParametersPiece⟩
  rcases parameters_reads reading false parametersParsed with
    ⟨_, ⟨listed, parametersSpelled, rfl⟩, parametersPiece⟩
  rcases declaredType?_reads reading resultParsed with ⟨_, resultSpelled, resultPiece⟩
  have piece := ((member.piece.append typeParametersPiece).append parametersPiece).append
    resultPiece
  refine ⟨_, .method member.spelled typeParametersSpelled parametersSpelled resultSpelled, ?_⟩
  have whole : Whole origin _ _
      (.typeMember (.method ⟨start, _⟩ name optional typeParameters parameters result)) :=
    piece.whole starts (by simp) rfl rfl
  simpa using whole

theorem typeMember_forms (reading : nesting.Reading) :
    Forms (typeMember nesting) TypeMember.Spelled .typeMember := by
  intro before value after parsed
  simp only [typeMember, bind_eq_ok, currentStart_eq_ok, current_eq_ok] at parsed
  rcases parsed with ⟨start, _, ⟨starts, rfl⟩, name, _, nameParsed, optional, _, optionalParsed,
    token, _, ⟨_, rfl⟩, parsed⟩
  rcases identifierName_forms nameParsed with ⟨_, nameSpelled, nameWhole⟩
  have piece := nameWhole.piece.append (accept_piece optionalParsed)
  have member : MemberStart before _ name optional _ := ⟨nameSpelled, piece, nameWhole.ne_nil⟩
  rcases exists_branch parsed with ⟨branch, chosen, parsed⟩
  split at chosen <;> subst chosen
  · exact methodSignature_forms reading starts member parsed
  · exact methodSignature_forms reading starts member parsed
  · exact propertySignature_forms reading starts member parsed

theorem memberSeparator_piece {done : Unit} (parsed : memberSeparator before = .ok done after) :
    ∃ separator, (Perhaps .semicolon separator ∨ Perhaps .comma separator) ∧
      Piece before after separator [] := by
  simp only [memberSeparator, bind_eq_ok, current_eq_ok] at parsed
  rcases parsed with ⟨token, _, ⟨peeked, rfl⟩, parsed⟩
  rcases exists_branch parsed with ⟨branch, chosen, parsed⟩
  split at chosen <;> subst chosen
  · next kind =>
      simp only [bind_eq_ok, take_eq_ok, pure_eq_ok] at parsed
      rcases parsed with ⟨_, _, ⟨_, rfl⟩, _, rfl⟩
      exact ⟨_, .inl .present, .nextMark peeked (Token.isMark_iff.mpr kind)⟩
  · next kind =>
      simp only [bind_eq_ok, take_eq_ok, pure_eq_ok] at parsed
      rcases parsed with ⟨_, _, ⟨_, rfl⟩, _, rfl⟩
      exact ⟨_, .inr .present, .nextMark peeked (Token.isMark_iff.mpr kind)⟩
  · rcases pure_eq_ok.mp parsed with ⟨_, rfl⟩
    exact ⟨[], .inl .absent, .nil before⟩
  · split at parsed
    · exact absurd parsed unexpected_ne_ok
    · rcases pure_eq_ok.mp parsed with ⟨_, rfl⟩
      exact ⟨[], .inl .absent, .nil before⟩

theorem memberTurn_leads (reading : nesting.Reading) {turned : Turn TypeMember}
    (parsed : memberTurn nesting before = .ok turned after) :
    turned.Leads (fun values before after => ∃ lexemes,
      Members TypeMember.Spelled values lexemes ∧
        Piece before after lexemes (values.map .typeMember)) before after := by
  simp only [memberTurn, bind_eq_ok, current_eq_ok] at parsed
  rcases parsed with ⟨token, _, ⟨_, rfl⟩, parsed⟩
  rcases exists_branch parsed with ⟨branch, chosen, parsed⟩
  split at chosen <;> subst chosen
  · rcases pure_eq_ok.mp parsed with ⟨rfl, rfl⟩
    exact ⟨[], .empty, .nil before⟩
  · exact absurd parsed unexpected_ne_ok
  · simp only [bind_eq_ok, pure_eq_ok] at parsed
    rcases parsed with ⟨member, _, memberParsed, _, _, separatorParsed, rfl, rfl⟩
    rcases typeMember_forms reading memberParsed with ⟨_, memberSpelled, memberWhole⟩
    rcases memberSeparator_piece separatorParsed with ⟨_, separator, separatorPiece⟩
    have piece := memberWhole.piece.append separatorPiece
    refine ⟨piece.length_lt (by simp [memberWhole.ne_nil]), ?_⟩
    rintro values later ⟨others, members, rest⟩
    exact ⟨_, .cons memberSpelled separator members, piece.append rest⟩

theorem typeMembers_reads (reading : nesting.Reading) :
    Reads (typeMembers nesting)
      (fun values lexemes => ∃ inner, Members TypeMember.Spelled values inner ∧
        lexemes = .mark .openBrace :: inner ++ [.mark .closeBrace])
      (List.map .typeMember) := by
  intro before values after parsed
  simp only [typeMembers, bind_eq_ok, pure_eq_ok] at parsed
  rcases parsed with ⟨_, _, opened, members, _, turnsParsed, _, _, closed, rfl, rfl⟩
  rcases repeated_induction (fun _ _ _ parsed => memberTurn_leads reading parsed) turnsParsed with
    ⟨inner, membersSpelled, membersPiece⟩
  have piece := ((expect_piece opened).append membersPiece).append (expect_piece closed)
  exact ⟨_, ⟨inner, membersSpelled, rfl⟩, by simpa using piece⟩

theorem objectType_forms (reading : nesting.Reading) :
    Forms (objectType nesting) (TypeExpr.Spelled .intersectionMember) .type := by
  intro before value after parsed
  simp only [objectType, bind_eq_ok, currentStart_eq_ok, spanFrom_eq_ok, pure_eq_ok] at parsed
  rcases parsed with ⟨start, _, ⟨starts, rfl⟩, members, _, membersParsed, _, _, ⟨rfl, rfl⟩, rfl,
    rfl⟩
  rcases typeMembers_reads reading membersParsed with ⟨_, ⟨inner, spelled, rfl⟩, piece⟩
  exact ⟨_, .object spelled, piece.whole starts (by simp) rfl rfl⟩

/-! All types. -/

theorem atFunctionType_eq_ok {found : Bool} (parsed : atFunctionType before = .ok found after) :
    before = after := by
  simp only [atFunctionType, bind_eq_ok, kindAhead_eq_ok] at parsed
  rcases parsed with ⟨_, _, ⟨_, rfl⟩, parsed⟩
  rcases exists_branch parsed with ⟨branch, chosen, parsed⟩
  split at chosen <;> subst chosen
  · exact (pure_eq_ok.mp parsed).2
  · exact (pure_eq_ok.mp parsed).2
  · simp only [bind_eq_ok, kindAhead_eq_ok] at parsed
    rcases parsed with ⟨_, _, ⟨_, rfl⟩, parsed⟩
    rcases exists_branch parsed with ⟨branch, chosen, parsed⟩
    split at chosen <;> subst chosen
    · exact (pure_eq_ok.mp parsed).2
    · exact (pure_eq_ok.mp parsed).2
    · exact (pure_eq_ok.mp parsed).2
    · exact (pure_eq_ok.mp parsed).2
    · simp only [bind_eq_ok, kindAhead_eq_ok, pure_eq_ok] at parsed
      rcases parsed with ⟨_, _, ⟨_, rfl⟩, _, rfl⟩
      rfl
    · exact (pure_eq_ok.mp parsed).2
  · exact (pure_eq_ok.mp parsed).2

theorem primaryType_forms (reading : nesting.Reading) :
    Forms (primaryType nesting) (TypeExpr.Spelled .intersectionMember) .type := by
  intro before value after parsed
  simp only [primaryType, bind_eq_ok, current_eq_ok] at parsed
  rcases parsed with ⟨token, _, ⟨peeked, rfl⟩, parsed⟩
  rcases exists_branch parsed with ⟨branch, chosen, parsed⟩
  split at chosen <;> subst chosen
  · next kind => exact nameType_forms reading peeked kind parsed
  · exact literalType_forms parsed
  · exact literalType_forms parsed
  · rcases bind_eq_ok.mp parsed with ⟨found, _, looked, parsed⟩
    rcases atFunctionType_eq_ok looked with rfl
    split at parsed
    · exact functionType_forms reading parsed
    · exact parenthesizedType_forms reading parsed
  · exact functionType_forms reading parsed
  · exact objectType_forms reading parsed
  · exact tupleType_forms reading parsed
  · exact absurd parsed typeExpected_ne_ok

/-- A type has been read since `origin`, and the brackets after it make arrays of it. -/
theorem arraySuffixes_since (reading : nesting.Reading) {origin : Cursor} {start : Nat}
    {element value : TypeExpr} (starts : origin.StartsAt start)
    (since : TypeSince origin before element)
    (parsed : arraySuffixes nesting start element before = .ok value after) :
    TypeSince origin after value := by
  simp only [arraySuffixes, bind_eq_ok, current_eq_ok] at parsed
  rcases parsed with ⟨first, _, ⟨peeked, rfl⟩, parsed⟩
  split at parsed
  · next opens =>
      simp only [bind_eq_ok, kindAhead_eq_ok] at parsed
      rcases parsed with ⟨_, _, ⟨⟨second, peekedSecond, rfl⟩, rfl⟩, parsed⟩
      split at parsed
      · next closes =>
          simp only [bind_eq_ok, Nesting.enter_eq_ok] at parsed
          rcases parsed with ⟨level, _, ⟨inner, rfl⟩, parsed⟩
          have isMark := (Bool.and_eq_true_iff.mp opens).1
          exact (reading level inner).arraySuffix starts since
            ⟨first, second, peeked, isMark, peekedSecond, closes⟩ parsed
      · rcases pure_eq_ok.mp parsed with ⟨rfl, rfl⟩
        exact since
  · rcases pure_eq_ok.mp parsed with ⟨rfl, rfl⟩
    exact since

theorem arraySuffix_since (reading : nesting.Reading) {origin : Cursor} {start : Nat}
    {element value : TypeExpr} (starts : origin.StartsAt start)
    (since : TypeSince origin before element) (brackets : before.AtBrackets)
    (parsed : arraySuffix nesting start element before = .ok value after) :
    TypeSince origin after value := by
  rcases brackets with ⟨first, second, peeked, opens, peekedSecond, closes⟩
  simp only [arraySuffix, bind_eq_ok, take_eq_ok, spanFrom_eq_ok] at parsed
  rcases parsed with ⟨_, _, ⟨_, rfl⟩, _, _, ⟨_, rfl⟩, _, _, ⟨rfl, rfl⟩, parsed⟩
  rw [← Cursor.next_peek] at peekedSecond
  have opening := Piece.nextMark peeked opens
  have closing := Piece.nextMark peekedSecond (Token.isMark_iff.mpr closes)
  rcases since with ⟨_, spelled, whole⟩
  have piece := whole.piece.append (opening.append closing)
  exact arraySuffixes_since reading starts
    ⟨_, .array spelled, piece.whole starts (by simp) rfl rfl⟩ parsed

theorem postfixType_forms (reading : nesting.Reading) :
    Forms (postfixType nesting) (TypeExpr.Spelled .intersectionMember) .type := by
  intro before value after parsed
  simp only [postfixType, bind_eq_ok, currentStart_eq_ok] at parsed
  rcases parsed with ⟨start, _, ⟨starts, rfl⟩, type, _, typeParsed, parsed⟩
  exact arraySuffixes_since reading starts (primaryType_forms reading typeParsed) parsed

/-! Unions and intersections. -/

section Lists

variable {mark : Punctuator} {member : Parse TypeExpr} {inner : TypeExpr → List Lexeme → Prop}

theorem markTurn_leads (reads : Reads member inner fun type => [.type type])
    {turned : Turn TypeExpr} (parsed : markTurn mark member before = .ok turned after) :
    turned.Leads (fun values before after => ∃ lexemes,
      (∀ first own, inner first own → Separated mark inner (first :: values) (own ++ lexemes)) ∧
        Piece before after lexemes (values.map .type)) before after := by
  simp only [markTurn, bind_eq_ok] at parsed
  rcases parsed with ⟨found, _, accepted, parsed⟩
  have lead := accept_piece accepted
  cases found with
  | false =>
      rcases pure_eq_ok.mp parsed with ⟨rfl, rfl⟩
      refine ⟨_, fun first own spelled => ?_, lead⟩
      rw [Lexeme.flag, if_neg Bool.false_ne_true, List.append_nil]
      exact .single spelled
  | true =>
      rcases map_eq_ok.mp parsed with ⟨value, memberParsed, rfl⟩
      rcases reads memberParsed with ⟨lexemes, spelled, piece⟩
      have both := lead.append piece
      refine ⟨both.length_lt (by simp [Lexeme.flag]), ?_⟩
      rintro values later ⟨others, separated, rest⟩
      refine ⟨.mark mark :: (lexemes ++ others), fun first own firstSpelled => ?_, ?_⟩
      · exact .cons firstSpelled (separated value lexemes spelled)
      · simpa [Lexeme.flag] using both.append rest

theorem perhaps_flag (found : Bool) : Perhaps mark (Lexeme.flag found mark) := by
  cases found with
  | false => exact .absent
  | true => exact .present

theorem listType_reads {build : Span → List TypeExpr → TypeExpr}
    {outer : TypeExpr → List Lexeme → Prop} (reads : Reads member inner fun type => [.type type])
    (single : ∀ {type lead lexemes}, Perhaps mark lead → inner type lexemes →
      outer type (lead ++ lexemes))
    (list : ∀ {span members lead lexemes}, Perhaps mark lead →
      Separated mark inner members lexemes → outer (build span members) (lead ++ lexemes))
    (children : ∀ span members, (build span members).children = members.map .type)
    (range : ∀ span members, (build span members).span = span) :
    Reads (listType mark build member) outer fun type => [.type type] := by
  intro before value after parsed
  simp only [listType, bind_eq_ok, currentStart_eq_ok, atMark_eq_ok] at parsed
  rcases parsed with ⟨start, _, ⟨starts, rfl⟩, leads, _, leadParsed, first, _, firstParsed, _, _,
    ⟨_, rfl⟩, parsed⟩
  have lead := accept_piece leadParsed
  rcases reads firstParsed with ⟨_, firstSpelled, firstPiece⟩
  split at parsed
  · simp only [bind_eq_ok, spanFrom_eq_ok, pure_eq_ok] at parsed
    rcases parsed with ⟨others, _, othersParsed, _, _, ⟨rfl, rfl⟩, rfl, rfl⟩
    rcases repeated_induction (fun _ _ _ parsed => markTurn_leads reads parsed) othersParsed with
      ⟨_, separated, othersPiece⟩
    have piece := lead.append (firstPiece.append othersPiece)
    refine ⟨_, list (perhaps_flag leads) (separated first _ firstSpelled), ?_⟩
    refine (piece.whole starts ?_ ?_ ?_).piece
    · simp [firstPiece.ne_nil]
    · simp [Node.children, children]
    · simp [Node.span, range]
  · rcases pure_eq_ok.mp parsed with ⟨rfl, rfl⟩
    exact ⟨_, single (perhaps_flag leads) firstSpelled, lead.append firstPiece⟩

end Lists

theorem intersectionType_reads (reading : nesting.Reading) :
    Reads (intersectionType nesting) (TypeExpr.Spelled .unionMember) fun type => [.type type] :=
  listType_reads (postfixType_forms reading).reads .singleMember .intersection
    (fun _ _ => rfl) (fun _ _ => rfl)

theorem unionType_reads (reading : nesting.Reading) :
    Reads (unionType nesting) (TypeExpr.Spelled .type) fun type => [.type type] :=
  listType_reads (intersectionType_reads reading) .single .union (fun _ _ => rfl) (fun _ _ => rfl)

end Parse

end TypedScript
