import TypedScript.Parser.Expressions
import TypedScript.Proofs.Reading.Types

/-!
What the rules for expressions read, and with them the rules of every level.
-/

namespace TypedScript

namespace Parse

variable {before between after origin : Cursor} {nesting : Nesting}

/-! Arguments. -/

theorem arguments_reads (reading : nesting.Reading) :
    Reads (arguments nesting)
      (fun values lexemes => ∃ listed, Listed Expression.Spelled values listed ∧
        lexemes = .mark .openParen :: listed ++ [.mark .closeParen])
      (List.map .expression) := by
  intro before values after parsed
  simp only [arguments, bind_eq_ok, pure_eq_ok] at parsed
  rcases parsed with ⟨_, _, opened, arguments, _, listParsed, _, _, closed, rfl, rfl⟩
  rcases commaList_reads reading.expression.reads listParsed with ⟨listed, spelled, listPiece⟩
  have piece := ((expect_piece opened).append listPiece).append (expect_piece closed)
  exact ⟨_, ⟨listed, spelled, rfl⟩, by simpa using piece⟩

theorem arguments?_reads (reading : nesting.Reading) :
    Reads (arguments? nesting)
      (fun values lexemes => match values with
        | none => lexemes = []
        | some values => ∃ listed, Listed Expression.Spelled values listed ∧
            lexemes = .mark .openParen :: listed ++ [.mark .closeParen])
      fun values => (values.getD []).map .expression := by
  intro before values after parsed
  simp only [arguments?, bind_eq_ok, atMark_eq_ok] at parsed
  rcases parsed with ⟨_, _, ⟨_, rfl⟩, parsed⟩
  split at parsed
  · rcases map_eq_ok.mp parsed with ⟨arguments, argumentsParsed, rfl⟩
    exact arguments_reads reading argumentsParsed
  · rcases pure_eq_ok.mp parsed with ⟨rfl, rfl⟩
    exact ⟨[], rfl, .nil before⟩

/-! Objects and arrays. -/

theorem literalKey_forms : Forms literalKey PropertyKey.Spelled .propertyKey := by
  intro before key after parsed
  simp only [literalKey, bind_eq_ok, take_eq_ok] at parsed
  rcases parsed with ⟨token, _, ⟨peeked, rfl⟩, parsed⟩
  cases found : literalOf? token with
  | none =>
      rw [found] at parsed
      exact absurd parsed identifierExpected_ne_ok
  | some literal =>
      rw [found] at parsed
      rcases pure_eq_ok.mp parsed with ⟨rfl, rfl⟩
      have more := literalOf?_ne_end found
      rcases literalOf?_spec (Piece.next peeked more).1 found with ⟨span, spelled⟩
      have inner : Whole before before.next _ (.literal literal) := .next peeked more span rfl
      exact ⟨_, spelled, inner.wrap rfl rfl⟩

theorem propertyKey_forms : Forms propertyKey PropertyKey.Spelled .propertyKey := by
  intro before key after parsed
  simp only [propertyKey, bind_eq_ok, current_eq_ok] at parsed
  rcases parsed with ⟨token, _, ⟨_, rfl⟩, parsed⟩
  have name {value after} (parsed : (.identifier <$> identifierName : Parse PropertyKey) before =
      .ok value after) : Formed before after value.Spelled (.propertyKey value) := by
    rcases map_eq_ok.mp parsed with ⟨name, nameParsed, rfl⟩
    rcases identifierName_forms nameParsed with ⟨_, spelled, whole⟩
    exact ⟨_, spelled, whole.wrap rfl rfl⟩
  rcases exists_branch parsed with ⟨branch, chosen, parsed⟩
  split at chosen <;> subst chosen
  · exact name parsed
  · exact name parsed
  · exact literalKey_forms parsed
  · exact literalKey_forms parsed
  · exact absurd parsed identifierExpected_ne_ok

theorem freeName_plain {text : String} {lexemes : List Lexeme} {nodes : List Node} {token : Token}
    (free : FreeName text lexemes) (piece : Piece before after lexemes nodes)
    (peeked : before.peek 0 = .ok token) (kind : token.kind = .identifier) :
    lexemes = [.word text] := by
  cases free with
  | plain => rfl
  | reserved =>
      have reserved := congrArg Lexeme.kind (piece.head_eq peeked)
      rw [Token.lexeme, kind] at reserved
      cases reserved

theorem objectProperty_forms (reading : nesting.Reading) :
    Forms (objectProperty nesting) ObjectProperty.Spelled .objectProperty := by
  intro before value after parsed
  simp only [objectProperty, bind_eq_ok, current_eq_ok] at parsed
  rcases parsed with ⟨token, _, ⟨peeked, rfl⟩, key, _, keyParsed, found, _, accepted, parsed⟩
  rcases propertyKey_forms keyParsed with ⟨_, keySpelled, keyWhole⟩
  have lead := keyWhole.piece.append (accept_piece accepted)
  split at parsed
  · next isColon =>
      simp only [bind_eq_ok, spanFrom_eq_ok, pure_eq_ok] at parsed
      rcases parsed with ⟨inner, _, valueParsed, _, _, ⟨rfl, rfl⟩, rfl, rfl⟩
      rcases reading.expression valueParsed with ⟨_, valueSpelled, valueWhole⟩
      have piece := lead.append valueWhole.piece
      rw [isColon] at piece
      refine ⟨_, .assignment keySpelled valueSpelled, ?_⟩
      have whole : Whole before _ _ (.objectProperty (.assignment ⟨token.start, _⟩ key inner)) :=
        piece.whole ⟨token, peeked, rfl⟩ (by simp [keyWhole.ne_nil]) rfl rfl
      simpa [Lexeme.flag] using whole
  · next noColon =>
      rw [Bool.not_eq_true] at noColon
      cases key with
      | literal constant => exact absurd parsed unexpected_ne_ok
      | identifier name =>
          simp only at parsed
          split at parsed
          · next kind =>
              simp only [bind_eq_ok, spanFrom_eq_ok, pure_eq_ok] at parsed
              rcases parsed with ⟨_, _, ⟨rfl, rfl⟩, rfl, rfl⟩
              have plain := freeName_plain keySpelled keyWhole.piece peeked kind
              have nameWhole : Whole before _ _ (.identifier name) := keyWhole.leaf rfl rfl
              have piece := nameWhole.piece.append (accept_piece accepted)
              rw [noColon, Lexeme.flag, if_neg Bool.false_ne_true, List.append_nil] at piece
              exact ⟨_, .shorthand plain,
                piece.whole ⟨token, peeked, rfl⟩ keyWhole.ne_nil rfl rfl⟩
          · exact absurd parsed unexpected_ne_ok

theorem objectLiteral_forms (reading : nesting.Reading) :
    Forms (objectLiteral nesting) Expression.Spelled .expression := by
  intro before value after parsed
  simp only [objectLiteral, bind_eq_ok, currentStart_eq_ok, spanFrom_eq_ok, pure_eq_ok] at parsed
  rcases parsed with ⟨start, _, ⟨starts, rfl⟩, _, _, opened, properties, _, listParsed, _, _,
    closed, _, _, ⟨rfl, rfl⟩, rfl, rfl⟩
  rcases commaList_reads (objectProperty_forms reading).reads listParsed with
    ⟨_, listSpelled, listPiece⟩
  have piece := ((expect_piece opened).append listPiece).append (expect_piece closed)
  refine ⟨_, .object listSpelled, piece.whole starts (by simp) ?_ rfl⟩
  simp [Node.children, Expression.children]

theorem arrayLiteral_forms (reading : nesting.Reading) :
    Forms (arrayLiteral nesting) Expression.Spelled .expression := by
  intro before value after parsed
  simp only [arrayLiteral, bind_eq_ok, currentStart_eq_ok, spanFrom_eq_ok, pure_eq_ok] at parsed
  rcases parsed with ⟨start, _, ⟨starts, rfl⟩, _, _, opened, elements, _, listParsed, _, _,
    closed, _, _, ⟨rfl, rfl⟩, rfl, rfl⟩
  rcases commaList_reads reading.expression.reads listParsed with ⟨_, listSpelled, listPiece⟩
  have piece := ((expect_piece opened).append listPiece).append (expect_piece closed)
  refine ⟨_, .array listSpelled, piece.whole starts (by simp) ?_ rfl⟩
  simp [Node.children, Expression.children]

theorem parenthesizedExpression_forms (reading : nesting.Reading) :
    Forms (parenthesizedExpression nesting) Expression.Spelled .expression := by
  intro before value after parsed
  simp only [parenthesizedExpression, bind_eq_ok, currentStart_eq_ok, spanFrom_eq_ok, pure_eq_ok]
    at parsed
  rcases parsed with ⟨start, _, ⟨starts, rfl⟩, _, _, opened, inner, _, innerParsed, _, _, closed,
    _, _, ⟨rfl, rfl⟩, rfl, rfl⟩
  rcases reading.expression innerParsed with ⟨_, innerSpelled, innerWhole⟩
  have piece := ((expect_piece opened).append innerWhole.piece).append (expect_piece closed)
  exact ⟨_, .parenthesized innerSpelled, piece.whole starts (by simp) rfl rfl⟩

theorem literalOrName_forms {token : Token} {value : Expression}
    (peeked : before.peek 0 = .ok token)
    (kind : token.kind ∈ [.identifier, .numericLiteral, .stringLiteral])
    (parsed : literalOrName before = .ok value after) :
    Formed before after value.Spelled (.expression value) := by
  simp only [literalOrName, bind_eq_ok, take_eq_ok] at parsed
  rcases parsed with ⟨_, _, ⟨found, rfl⟩, parsed⟩
  rw [peeked] at found
  rcases Except.ok.inj found with rfl
  have more : token.kind ≠ .endOfFile := by
    intro isEnd
    simp [isEnd] at kind
  cases found : literalOf? token with
  | some literal =>
      rw [found] at parsed
      rcases pure_eq_ok.mp parsed with ⟨rfl, rfl⟩
      rcases literalOf?_spec (Piece.next peeked more).1 found with ⟨span, spelled⟩
      exact ⟨_, .literal spelled, .next peeked more span rfl⟩
  | none =>
      rw [found] at parsed
      rcases pure_eq_ok.mp parsed with ⟨rfl, rfl⟩
      have isName : token.kind = .identifier := by
        simp only [List.mem_cons, List.not_mem_nil, or_false] at kind
        rcases kind with kind | kind | kind
        · exact kind
        · simp [literalOf?, kind] at found
        · simp [literalOf?, kind] at found
      refine ⟨_, .identifier ?_, .next peeked more rfl rfl⟩
      rw [Token.lexeme_of_identifier isName]
      rfl

theorem primaryExpression_forms (reading : nesting.Reading) :
    Forms (primaryExpression nesting) Expression.Spelled .expression := by
  intro before value after parsed
  simp only [primaryExpression, bind_eq_ok, current_eq_ok] at parsed
  rcases parsed with ⟨token, _, ⟨peeked, rfl⟩, parsed⟩
  rcases exists_branch parsed with ⟨branch, chosen, parsed⟩
  split at chosen <;> subst chosen
  · next kind => exact literalOrName_forms peeked (by simp [kind]) parsed
  · next kind => exact literalOrName_forms peeked (by simp [kind]) parsed
  · next kind => exact literalOrName_forms peeked (by simp [kind]) parsed
  · exact parenthesizedExpression_forms reading parsed
  · exact objectLiteral_forms reading parsed
  · exact arrayLiteral_forms reading parsed
  · exact absurd parsed unexpected_ne_ok

/-! Accesses and calls. -/

theorem suffixes_since (reading : nesting.Reading) {start : Nat} {allowCalls : Bool}
    {base value : Expression} (starts : origin.StartsAt start)
    (since : ExpressionSince origin before base)
    (parsed : suffixes nesting start allowCalls base before = .ok value after) :
    ExpressionSince origin after value := by
  simp only [suffixes, bind_eq_ok, current_eq_ok] at parsed
  rcases parsed with ⟨token, _, ⟨peeked, rfl⟩, parsed⟩
  have goesOn {mark : Punctuator} {value after} (kind : token.kind = .punctuator mark)
      (suffix : mark ∈ [.dot, .questionDot, .openBracket, .openParen])
      (parsed : (nesting.enter .expression >>= fun level => level.suffix start allowCalls base)
        before = .ok value after) : ExpressionSince origin after value := by
    simp only [bind_eq_ok, Nesting.enter_eq_ok] at parsed
    rcases parsed with ⟨level, _, ⟨inner, rfl⟩, parsed⟩
    exact (reading level inner).suffix starts since ⟨token, mark, peeked, kind, suffix⟩ parsed
  rcases exists_branch parsed with ⟨branch, chosen, parsed⟩
  split at chosen <;> subst chosen
  · next kind => exact goesOn kind (by simp) parsed
  · next kind => exact goesOn kind (by simp) parsed
  · next kind => exact goesOn kind (by simp) parsed
  · next kind =>
      split at parsed
      · exact goesOn kind (by simp) parsed
      · rcases pure_eq_ok.mp parsed with ⟨rfl, rfl⟩
        exact since
  · split at parsed
    · rcases bind_eq_ok.mp parsed with ⟨found, _, argumentsParsed, parsed⟩
      have arguments := typeArgumentsInExpression?_reads reading argumentsParsed
      cases found with
      | some typeArguments =>
          simp only [bind_eq_ok, Nesting.enter_eq_ok] at parsed
          rcases parsed with ⟨level, _, ⟨inner, rfl⟩, parsed⟩
          exact (reading level inner).typedSuffix starts since arguments parsed
      | none =>
          rcases pure_eq_ok.mp parsed with ⟨rfl, rfl⟩
          rcases arguments with ⟨_, spelled, piece⟩
          cases spelled
          exact piece.eq_of_nil ▸ since
    · rcases pure_eq_ok.mp parsed with ⟨rfl, rfl⟩
      exact since
  · rcases pure_eq_ok.mp parsed with ⟨rfl, rfl⟩
    exact since

theorem suffix_since (reading : nesting.Reading) {start : Nat} {allowCalls : Bool}
    {base value : Expression} (starts : origin.StartsAt start)
    (since : ExpressionSince origin before base) (atSuffix : before.AtSuffix)
    (parsed : suffix nesting start allowCalls base before = .ok value after) :
    ExpressionSince origin after value := by
  rcases atSuffix with ⟨token, mark, peeked, kind, isSuffix⟩
  rcases since with ⟨_, baseSpelled, baseWhole⟩
  simp only [suffix, bind_eq_ok, current_eq_ok] at parsed
  rcases parsed with ⟨_, _, ⟨found, rfl⟩, parsed⟩
  rw [peeked] at found
  rcases Except.ok.inj found with rfl
  rcases exists_branch parsed with ⟨branch, chosen, parsed⟩
  split at chosen <;> subst chosen
  · next isBracket =>
      simp only [bind_eq_ok, take_eq_ok, spanFrom_eq_ok] at parsed
      rcases parsed with ⟨_, _, ⟨_, rfl⟩, index, _, indexParsed, _, _, closed, _, _, ⟨rfl, rfl⟩,
        parsed⟩
      rcases reading.expression indexParsed with ⟨_, indexSpelled, indexWhole⟩
      have opening := Piece.nextMark peeked (Token.isMark_iff.mpr isBracket)
      have piece := baseWhole.piece.append ((opening.append indexWhole.piece).append
        (expect_piece closed))
      refine suffixes_since reading starts ⟨_, .element baseSpelled indexSpelled, ?_⟩ parsed
      have whole : Whole origin _ _ (.expression (.element ⟨start, _⟩ base index)) :=
        piece.whole starts (by simp) rfl rfl
      simpa using whole
  · simp only [bind_eq_ok, spanFrom_eq_ok] at parsed
    rcases parsed with ⟨arguments, _, argumentsParsed, _, _, ⟨rfl, rfl⟩, parsed⟩
    rcases arguments_reads reading argumentsParsed with
      ⟨_, ⟨listed, argumentsSpelled, rfl⟩, argumentsPiece⟩
    have piece := baseWhole.piece.append argumentsPiece
    refine suffixes_since reading starts ⟨_, .call baseSpelled .absent argumentsSpelled, ?_⟩ parsed
    have whole : Whole origin _ _ (.expression (.call ⟨start, _⟩ base none arguments)) :=
      piece.whole starts (by simp) rfl rfl
    simpa using whole
  · next notBracket notParen =>
      simp only [bind_eq_ok, take_eq_ok, spanFrom_eq_ok] at parsed
      rcases parsed with ⟨_, _, ⟨found, rfl⟩, name, _, nameParsed, _, _, ⟨rfl, rfl⟩, parsed⟩
      rw [peeked] at found
      rcases Except.ok.inj found with rfl
      have dot :
          token.isMark (if token.isMark .questionDot then .questionDot else .dot) = true := by
        simp only [List.mem_cons, List.not_mem_nil, or_false] at isSuffix
        rcases isSuffix with rfl | rfl | rfl | rfl
        · simp [Token.isMark, kind]
        · simp [Token.isMark, kind]
        · exact absurd kind notBracket
        · exact absurd kind notParen
      rcases identifierName_forms nameParsed with ⟨_, nameSpelled, nameWhole⟩
      have piece := baseWhole.piece.append ((Piece.nextMark peeked dot).append nameWhole.piece)
      exact suffixes_since reading starts ⟨_, .property baseSpelled nameSpelled,
        piece.whole starts (by simp) rfl rfl⟩ parsed

theorem typedSuffix_since (reading : nesting.Reading) {start : Nat} {allowCalls : Bool}
    {base value : Expression} {typeArguments : List TypeExpr} (starts : origin.StartsAt start)
    (since : ExpressionSince origin between base)
    (arguments : ArgumentsSince between before (some typeArguments))
    (parsed : typedSuffix nesting start allowCalls base typeArguments before = .ok value after) :
    ExpressionSince origin after value := by
  rcases since with ⟨_, baseSpelled, baseWhole⟩
  rcases arguments with ⟨_, typeArgumentsSpelled, typeArgumentsPiece⟩
  have lead := baseWhole.piece.append typeArgumentsPiece
  simp only [typedSuffix, bind_eq_ok, atMark_eq_ok] at parsed
  rcases parsed with ⟨_, _, ⟨_, rfl⟩, parsed⟩
  split at parsed
  · simp only [bind_eq_ok, spanFrom_eq_ok] at parsed
    rcases parsed with ⟨arguments, _, argumentsParsed, _, _, ⟨rfl, rfl⟩, parsed⟩
    rcases arguments_reads reading argumentsParsed with
      ⟨_, ⟨listed, argumentsSpelled, rfl⟩, argumentsPiece⟩
    have piece := lead.append argumentsPiece
    refine suffixes_since reading starts
      ⟨_, .call baseSpelled typeArgumentsSpelled argumentsSpelled, ?_⟩ parsed
    have whole : Whole origin _ _
        (.expression (.call ⟨start, _⟩ base (some typeArguments) arguments)) :=
      piece.whole starts (by simp) rfl rfl
    simpa using whole
  · simp only [bind_eq_ok, spanFrom_eq_ok] at parsed
    rcases parsed with ⟨_, _, ⟨rfl, rfl⟩, parsed⟩
    exact suffixes_since reading starts ⟨_, .instantiation baseSpelled typeArgumentsSpelled,
      lead.whole starts (by simp [baseWhole.ne_nil]) rfl rfl⟩ parsed

/-! Instances. -/

theorem newBase_forms (reading : nesting.Reading) :
    Forms (newBase nesting) Expression.Spelled .expression := by
  intro before value after parsed
  simp only [newBase, bind_eq_ok, current_eq_ok] at parsed
  rcases parsed with ⟨token, _, ⟨_, rfl⟩, parsed⟩
  split at parsed
  · simp only [bind_eq_ok, Nesting.enter_eq_ok] at parsed
    rcases parsed with ⟨level, _, ⟨inner, rfl⟩, parsed⟩
    exact (reading level inner).newExpression parsed
  · exact primaryExpression_forms reading parsed

theorem newExpression_forms (reading : nesting.Reading) :
    Forms (newExpression nesting) Expression.Spelled .expression := by
  intro before value after parsed
  simp only [newExpression, bind_eq_ok, currentStart_eq_ok, spanFrom_eq_ok, pure_eq_ok] at parsed
  rcases parsed with ⟨start, _, ⟨starts, rfl⟩, _, _, newParsed, baseStart, _, ⟨baseStarts, rfl⟩,
    base, _, baseParsed, callee, _, calleeParsed, typeArguments, _, typeArgumentsParsed,
    arguments, _, argumentsParsed, _, _, ⟨rfl, rfl⟩, rfl, rfl⟩
  rcases suffixes_since reading baseStarts (newBase_forms reading baseParsed) calleeParsed with
    ⟨_, calleeSpelled, calleeWhole⟩
  rcases typeArgumentsInExpression?_reads reading typeArgumentsParsed with
    ⟨_, typeArgumentsSpelled, typeArgumentsPiece⟩
  rcases arguments?_reads reading argumentsParsed with ⟨_, argumentsSpelled, argumentsPiece⟩
  have piece := (((expectKeyword_piece newParsed).append calleeWhole.piece).append
    typeArgumentsPiece).append argumentsPiece
  have whole : Whole before _ _
      (.expression (.new ⟨start, _⟩ callee typeArguments arguments)) :=
    piece.whole starts (by simp) rfl rfl
  cases arguments with
  | none =>
      rcases argumentsSpelled with rfl
      exact ⟨_, .newPlain calleeSpelled typeArgumentsSpelled, by simpa using whole⟩
  | some arguments =>
      rcases argumentsSpelled with ⟨listed, argumentsSpelled, rfl⟩
      exact ⟨_, .newCall calleeSpelled typeArgumentsSpelled argumentsSpelled,
        by simpa using whole⟩

theorem leftHandBase_forms (reading : nesting.Reading) :
    Forms (leftHandBase nesting) Expression.Spelled .expression := by
  intro before value after parsed
  simp only [leftHandBase, bind_eq_ok, current_eq_ok] at parsed
  rcases parsed with ⟨token, _, ⟨_, rfl⟩, parsed⟩
  split at parsed
  · exact newExpression_forms reading parsed
  · exact primaryExpression_forms reading parsed

theorem leftHandSide_forms (reading : nesting.Reading) :
    Forms (leftHandSide nesting) Expression.Spelled .expression := by
  intro before value after parsed
  simp only [leftHandSide, bind_eq_ok, currentStart_eq_ok] at parsed
  rcases parsed with ⟨start, _, ⟨starts, rfl⟩, base, _, baseParsed, parsed⟩
  exact suffixes_since reading starts (leftHandBase_forms reading baseParsed) parsed

/-! Operators. -/

theorem unary_forms (reading : nesting.Reading) :
    Forms (unary nesting) Expression.Spelled .expression := by
  intro before value after parsed
  simp only [unary, bind_eq_ok, current_eq_ok] at parsed
  rcases parsed with ⟨token, _, ⟨peeked, rfl⟩, parsed⟩
  rcases exists_branch parsed with ⟨branch, chosen, parsed⟩
  split at chosen <;> subst chosen
  · next mark kind =>
      split at parsed
      · simp only [bind_eq_ok, take_eq_ok, Nesting.enter_eq_ok, spanFrom_eq_ok, pure_eq_ok]
          at parsed
        rcases parsed with ⟨_, _, ⟨_, rfl⟩, level, _, ⟨inner, rfl⟩, operand, _, operandParsed, _,
          _, ⟨rfl, rfl⟩, rfl, rfl⟩
        rcases (reading level inner).unary operandParsed with ⟨_, operandSpelled, operandWhole⟩
        have piece := (Piece.nextMark peeked (Token.isMark_iff.mpr kind)).append operandWhole.piece
        exact ⟨_, .unary operandSpelled, piece.whole ⟨token, peeked, rfl⟩ (by simp) rfl rfl⟩
      · exact leftHandSide_forms reading parsed
  · exact leftHandSide_forms reading parsed

theorem atOperator_one {token : Token} {mark : Punctuator} (peeked : before.peek 0 = .ok token)
    (kind : token.kind = .punctuator mark) : before.AtOperator mark 1 := by
  have lexed := (Piece.next peeked (by simp [kind])).1.lexed mark kind
  have single : mark.operatorLexemes = [.mark mark] := by
    cases mark with
    | greaterThanEquals => exact absurd lexed (by decide)
    | _ => rfl
  rw [Cursor.AtOperator, single]
  exact .nextMark peeked (Token.isMark_iff.mpr kind)

theorem atOperator_two {first second : Token} (peeked : before.peek 0 = .ok first)
    (isAngle : first.isMark .greaterThan = true) (peekedSecond : before.peek 1 = .ok second)
    (isEquals : second.isMark .equals = true) : before.AtOperator .greaterThanEquals 2 := by
  rw [← Cursor.next_peek] at peekedSecond
  exact (Piece.nextMark peeked isAngle).append (Piece.nextMark peekedSecond isEquals)

theorem binaryOperator?_eq_ok {found : Option BinaryOperator}
    (parsed : binaryOperator? before = .ok found after) :
    before = after ∧ ∀ operator ∈ found, before.AtOperator operator.mark operator.width := by
  simp only [binaryOperator?, bind_eq_ok, current_eq_ok] at parsed
  rcases parsed with ⟨token, _, ⟨peeked, rfl⟩, parsed⟩
  have plain : ∀ operator ∈ token.kind.punctuator?.bind (fun mark =>
      mark.precedence?.map fun precedence => BinaryOperator.mk mark 1 precedence),
      before.AtOperator operator.mark operator.width := by
    intro operator member
    rcases Option.bind_eq_some_iff.mp member with ⟨mark, isMark, member⟩
    rcases Option.map_eq_some_iff.mp member with ⟨precedence, _, rfl⟩
    exact atOperator_one peeked (TokenKind.punctuator?_eq_some_iff.mp isMark)
  split at parsed
  · next isAngle =>
      simp only [bind_eq_ok, peek_eq_ok] at parsed
      rcases parsed with ⟨second, _, ⟨peekedSecond, rfl⟩, parsed⟩
      split at parsed
      · next joined =>
          rcases pure_eq_ok.mp parsed with ⟨rfl, rfl⟩
          refine ⟨rfl, fun operator member => ?_⟩
          rcases Option.map_eq_some_iff.mp member with ⟨precedence, _, rfl⟩
          have isEquals := (Bool.and_eq_true_iff.mp joined).1
          exact atOperator_two peeked isAngle peekedSecond isEquals
      · rcases pure_eq_ok.mp parsed with ⟨rfl, rfl⟩
        exact ⟨rfl, plain⟩
  · rcases pure_eq_ok.mp parsed with ⟨rfl, rfl⟩
    exact ⟨rfl, plain⟩

theorem operators_since (reading : nesting.Reading) {start minimum : Nat}
    {left value : Expression} (starts : origin.StartsAt start)
    (since : ExpressionSince origin before left)
    (parsed : operators nesting start minimum left before = .ok value after) :
    ExpressionSince origin after value := by
  simp only [operators, bind_eq_ok] at parsed
  rcases parsed with ⟨found, _, operatorParsed, parsed⟩
  rcases binaryOperator?_eq_ok operatorParsed with ⟨rfl, atOperator⟩
  cases found with
  | none =>
      rcases pure_eq_ok.mp parsed with ⟨rfl, rfl⟩
      exact since
  | some operator =>
      simp only at parsed
      split at parsed
      · rcases pure_eq_ok.mp parsed with ⟨rfl, rfl⟩
        exact since
      · simp only [bind_eq_ok, Nesting.enter_eq_ok] at parsed
        rcases parsed with ⟨level, _, ⟨inner, rfl⟩, parsed⟩
        exact (reading level inner).operator starts since (atOperator operator rfl) parsed

theorem binary_forms (reading : nesting.Reading) (minimum : Nat) :
    Forms (binary nesting minimum) Expression.Spelled .expression := by
  intro before value after parsed
  simp only [binary, bind_eq_ok, currentStart_eq_ok] at parsed
  rcases parsed with ⟨start, _, ⟨starts, rfl⟩, left, _, leftParsed, parsed⟩
  exact operators_since reading starts (unary_forms reading leftParsed) parsed

theorem operator_since (reading : nesting.Reading) {start minimum width precedence : Nat}
    {left value : Expression} {mark : Punctuator} (starts : origin.StartsAt start)
    (since : ExpressionSince origin before left) (atOperator : before.AtOperator mark width)
    (parsed : operator nesting start minimum left mark width precedence before = .ok value after) :
    ExpressionSince origin after value := by
  simp only [operator, bind_eq_ok, modify_eq_ok, spanFrom_eq_ok] at parsed
  rcases parsed with ⟨_, _, rfl, right, _, rightParsed, _, _, ⟨rfl, rfl⟩, parsed⟩
  rcases since with ⟨_, leftSpelled, leftWhole⟩
  rcases binary_forms reading precedence rightParsed with ⟨_, rightSpelled, rightWhole⟩
  have piece := (leftWhole.piece.append atOperator).append rightWhole.piece
  exact operators_since reading starts ⟨_, .binary leftSpelled rightSpelled,
    piece.whole starts (by simp [leftWhole.ne_nil]) rfl rfl⟩ parsed

theorem conditional_forms (reading : nesting.Reading) :
    Forms (conditional nesting) Expression.Spelled .expression := by
  intro before value after parsed
  simp only [conditional, bind_eq_ok, currentStart_eq_ok] at parsed
  rcases parsed with ⟨start, _, ⟨starts, rfl⟩, condition, _, conditionParsed, found, _, accepted,
    parsed⟩
  rcases binary_forms reading 0 conditionParsed with ⟨_, conditionSpelled, conditionWhole⟩
  have lead := conditionWhole.piece.append (accept_piece accepted)
  cases found with
  | false =>
      rcases pure_eq_ok.mp parsed with ⟨rfl, rfl⟩
      have same := (accept_piece accepted).eq_of_nil
      exact ⟨_, conditionSpelled, same ▸ conditionWhole⟩
  | true =>
      simp only [if_true, bind_eq_ok, spanFrom_eq_ok, pure_eq_ok] at parsed
      rcases parsed with ⟨whenTrue, _, trueParsed, _, _, colonParsed, whenFalse, _, falseParsed, _,
        _, ⟨rfl, rfl⟩, rfl, rfl⟩
      rcases reading.expression trueParsed with ⟨_, trueSpelled, trueWhole⟩
      rcases reading.expression falseParsed with ⟨_, falseSpelled, falseWhole⟩
      have piece := ((lead.append trueWhole.piece).append (expect_piece colonParsed)).append
        falseWhole.piece
      refine ⟨_, .conditional conditionSpelled trueSpelled falseSpelled, ?_⟩
      have whole : Whole before _ _
          (.expression (.conditional ⟨start, _⟩ condition whenTrue whenFalse)) :=
        piece.whole starts (by simp) rfl rfl
      simpa [Lexeme.flag] using whole

/-! Arrow functions. -/

abbrev bodyNode : ArrowBody → Node
  | .block body => .functionBody body
  | .expression value => .expression value

theorem arrowBody_forms (reading : nesting.Reading) :
    Forms (arrowBody nesting) ArrowBody.Spelled bodyNode := by
  intro before value after parsed
  simp only [arrowBody, bind_eq_ok, atMark_eq_ok] at parsed
  rcases parsed with ⟨_, _, ⟨_, rfl⟩, parsed⟩
  split at parsed
  · rcases map_eq_ok.mp parsed with ⟨body, bodyParsed, rfl⟩
    rcases functionBody_forms bodyParsed with ⟨_, spelled, whole⟩
    exact ⟨_, .block spelled, whole⟩
  · rcases map_eq_ok.mp parsed with ⟨inner, innerParsed, rfl⟩
    rcases reading.expression innerParsed with ⟨_, spelled, whole⟩
    exact ⟨_, .expression spelled, whole⟩

theorem simpleArrow_forms (reading : nesting.Reading) {token : Token} {value : Expression}
    (peeked : before.peek 0 = .ok token) (kind : token.kind = .identifier)
    (parsed : simpleArrow nesting before = .ok value after) :
    Formed before after value.Spelled (.expression value) := by
  simp only [simpleArrow, bind_eq_ok, take_eq_ok, spanFrom_eq_ok, pure_eq_ok] at parsed
  rcases parsed with ⟨_, _, ⟨found, rfl⟩, _, _, arrowParsed, body, _, bodyParsed, _, _,
    ⟨rfl, rfl⟩, rfl, rfl⟩
  rw [peeked] at found
  rcases Except.ok.inj found with rfl
  have more : token.kind ≠ .endOfFile := by simp [kind]
  have name : Whole before before.next _ (.identifier (identifierOf token)) :=
    .next peeked more rfl rfl
  have parameter : Whole before before.next _
      (.parameter ⟨token.span, false, identifierOf token, false, none, none⟩) := name.wrap rfl rfl
  rcases arrowBody_forms reading bodyParsed with ⟨_, bodySpelled, bodyWhole⟩
  have piece := (parameter.piece.append (expect_piece arrowParsed)).append bodyWhole.piece
  have plain : (identifierOf token).Spelled [token.lexeme] := by
    rw [Token.lexeme_of_identifier kind]
    rfl
  exact ⟨_, .simpleArrow plain bodySpelled,
    piece.whole ⟨token, peeked, rfl⟩ (by simp) (by cases body <;> rfl) rfl⟩

theorem parenthesizedArrow_forms (reading : nesting.Reading) :
    Forms (parenthesizedArrow nesting) Expression.Spelled .expression := by
  intro before value after parsed
  simp only [parenthesizedArrow, bind_eq_ok, currentStart_eq_ok, spanFrom_eq_ok, pure_eq_ok]
    at parsed
  rcases parsed with ⟨start, _, ⟨starts, rfl⟩, parameters, _, parametersParsed, result, _,
    resultParsed, _, _, arrowParsed, body, _, bodyParsed, _, _, ⟨rfl, rfl⟩, rfl, rfl⟩
  rcases parameters_reads reading true parametersParsed with
    ⟨_, ⟨listed, parametersSpelled, rfl⟩, parametersPiece⟩
  rcases declaredType?_reads reading resultParsed with ⟨_, resultSpelled, resultPiece⟩
  rcases arrowBody_forms reading bodyParsed with ⟨_, bodySpelled, bodyWhole⟩
  have piece := ((parametersPiece.append resultPiece).append (expect_piece arrowParsed)).append
    bodyWhole.piece
  refine ⟨_, .arrow parametersSpelled resultSpelled bodySpelled, ?_⟩
  have whole : Whole before _ _ (.expression (.arrow ⟨start, _⟩ parameters result body)) :=
    piece.whole starts (by simp) (by cases body <;> simp [Node.children, Expression.children]) rfl
  simpa using whole

theorem arrow?_eq_ok (reading : nesting.Reading) {found : Option Expression}
    (parsed : arrow? nesting before = .ok found after) :
    (∃ arrow, found = some arrow ∧ Formed before after arrow.Spelled (.expression arrow)) ∨
      found = none ∧ before = after := by
  simp only [arrow?, bind_eq_ok, current_eq_ok] at parsed
  rcases parsed with ⟨token, _, ⟨peeked, rfl⟩, parsed⟩
  rcases exists_branch parsed with ⟨branch, chosen, parsed⟩
  split at chosen <;> subst chosen
  · next kind =>
      simp only [bind_eq_ok, kindAhead_eq_ok] at parsed
      rcases parsed with ⟨_, _, ⟨_, rfl⟩, parsed⟩
      split at parsed
      · rcases map_eq_ok.mp parsed with ⟨arrow, arrowParsed, rfl⟩
        exact .inl ⟨arrow, rfl, simpleArrow_forms reading peeked kind arrowParsed⟩
      · rcases pure_eq_ok.mp parsed with ⟨rfl, rfl⟩
        exact .inr ⟨rfl, rfl⟩
  · simp only [bind_eq_ok, get_eq_ok] at parsed
    rcases parsed with ⟨_, _, ⟨rfl, rfl⟩, parsed⟩
    rcases exists_branch parsed with ⟨branch, chosen, parsed⟩
    split at chosen <;> subst chosen
    · rcases map_eq_ok.mp parsed with ⟨arrow, arrowParsed, rfl⟩
      exact .inl ⟨arrow, rfl, parenthesizedArrow_forms reading arrowParsed⟩
    · rcases speculate_eq_ok parsed with ⟨arrow, rfl, attempted⟩ | ⟨rfl, rfl⟩
      · rcases map_eq_ok.mp attempted with ⟨_, arrowParsed, same⟩
        rcases Option.some.inj same with rfl
        exact .inl ⟨_, rfl, parenthesizedArrow_forms reading arrowParsed⟩
      · exact .inr ⟨rfl, rfl⟩
    · rcases pure_eq_ok.mp parsed with ⟨rfl, rfl⟩
      exact .inr ⟨rfl, rfl⟩
  · rcases pure_eq_ok.mp parsed with ⟨rfl, rfl⟩
    exact .inr ⟨rfl, rfl⟩

/-! All expressions. -/

theorem assignment_forms (reading : nesting.Reading) :
    Forms (assignment nesting) Expression.Spelled .expression := by
  intro before value after parsed
  simp only [assignment, bind_eq_ok] at parsed
  rcases parsed with ⟨found, _, arrowParsed, parsed⟩
  rcases arrow?_eq_ok reading arrowParsed with ⟨arrow, rfl, formed⟩ | ⟨rfl, rfl⟩
  · rcases pure_eq_ok.mp parsed with ⟨rfl, rfl⟩
    exact formed
  · simp only [bind_eq_ok, currentStart_eq_ok, current_eq_ok] at parsed
    rcases parsed with ⟨start, _, ⟨starts, rfl⟩, left, _, leftParsed, token, _, ⟨peeked, rfl⟩,
      parsed⟩
    have leftFormed := conditional_forms reading leftParsed
    rcases exists_branch parsed with ⟨branch, chosen, parsed⟩
    split at chosen <;> subst chosen
    · next mark kind =>
        split at parsed
        · next isAssignment =>
            simp only [bind_eq_ok, take_eq_ok, spanFrom_eq_ok, pure_eq_ok] at parsed
            rcases parsed with ⟨_, _, ⟨_, rfl⟩, right, _, rightParsed, _, _, ⟨rfl, rfl⟩, rfl,
              rfl⟩
            rcases leftFormed with ⟨_, leftSpelled, leftWhole⟩
            rcases reading.expression rightParsed with ⟨_, rightSpelled, rightWhole⟩
            have atOperator := atOperator_one peeked kind
            have piece := (leftWhole.piece.append atOperator).append rightWhole.piece
            exact ⟨_, .binary leftSpelled rightSpelled,
              piece.whole starts (by simp [leftWhole.ne_nil]) rfl rfl⟩
        · rcases pure_eq_ok.mp parsed with ⟨rfl, rfl⟩
          exact leftFormed
    · rcases pure_eq_ok.mp parsed with ⟨rfl, rfl⟩
      exact leftFormed

end Parse

/-! The levels, by induction on how many there are. -/

theorem Level.ofNesting_reading {nesting : Nesting} (reading : nesting.Reading) :
    (Level.ofNesting nesting).Reading where
  type := Parse.unionType_reads reading
  arraySuffix := Parse.arraySuffix_since reading
  assignment := Parse.assignment_forms reading
  unary := Parse.unary_forms reading
  newExpression := Parse.newExpression_forms reading
  operator := Parse.operator_since reading
  suffix := Parse.suffix_since reading
  typedSuffix := Parse.typedSuffix_since reading

theorem Nesting.ofRoom_reading (rules : Rules) (room : Nat) :
    (Nesting.ofRoom rules room).Reading := by
  induction room with
  | zero =>
      intro level found
      cases found
  | succ room induction =>
      intro level found
      rcases Option.some.inj found with rfl
      exact Level.ofNesting_reading induction

end TypedScript
