import TypedScript.Parser.Statements
import TypedScript.Proofs.Reading.Expressions

/-!
What the rules for statements read.
-/

namespace TypedScript

namespace Parse

variable {before after : Cursor} {nesting : Nesting}

/-! The ends of statements. -/

theorem atStatementEnd_eq_ok {found : Bool} (parsed : atStatementEnd before = .ok found after) :
    before = after := by
  simp only [atStatementEnd, bind_eq_ok, current_eq_ok, pure_eq_ok] at parsed
  rcases parsed with ⟨_, _, ⟨_, rfl⟩, _, rfl⟩
  rfl

theorem statementEnd_piece {done : Unit} (parsed : statementEnd before = .ok done after) :
    ∃ semicolon, Perhaps .semicolon semicolon ∧ Piece before after semicolon [] := by
  simp only [statementEnd, bind_eq_ok] at parsed
  rcases parsed with ⟨found, _, accepted, parsed⟩
  have lead := accept_piece accepted
  cases found with
  | true =>
      rcases pure_eq_ok.mp parsed with ⟨_, rfl⟩
      exact ⟨_, .present, lead⟩
  | false =>
      simp only [Bool.false_eq_true, if_false, bind_eq_ok] at parsed
      rcases parsed with ⟨_, _, looked, parsed⟩
      rcases atStatementEnd_eq_ok looked with rfl
      split at parsed
      · rcases pure_eq_ok.mp parsed with ⟨_, rfl⟩
        exact ⟨_, .absent, lead⟩
      · exact absurd parsed unexpected_ne_ok

/-! Imports. -/

theorem moduleName_forms : Forms moduleName ModuleName.Spelled .moduleName := by
  intro before value after parsed
  simp only [moduleName, bind_eq_ok, expectKind_eq_ok, pure_eq_ok] at parsed
  rcases parsed with ⟨token, _, ⟨peeked, kind, rfl⟩, rfl, rfl⟩
  have more : token.kind ≠ .endOfFile := by simp [kind]
  have wellFormed := (Piece.next peeked more).1
  rcases Option.isSome_iff_exists.mp (wellFormed.denotes kind) with ⟨text, denotes⟩
  refine ⟨_, ?_, .next peeked more rfl rfl⟩
  simp only [ModuleName.Spelled, Token.lexeme, denotes, kind, Option.getD_some]
  exact .string

theorem specifier_forms {node : Specifier → Node} (span : ∀ value, (node value).span = value.span)
    (children : ∀ value, (node value).children =
      value.propertyName.toList.map .identifier ++ [.identifier value.name]) :
    Forms specifier Specifier.Spelled node := by
  intro before value after parsed
  simp only [specifier, bind_eq_ok, currentStart_eq_ok] at parsed
  rcases parsed with ⟨start, _, ⟨starts, rfl⟩, first, _, firstParsed, found, _, accepted, parsed⟩
  rcases identifierName_forms firstParsed with ⟨_, firstSpelled, firstWhole⟩
  have lead := firstWhole.piece.append (acceptWord_piece accepted)
  cases found with
  | true =>
      simp only [if_true, bind_eq_ok, spanFrom_eq_ok, pure_eq_ok] at parsed
      rcases parsed with ⟨name, _, nameParsed, _, _, ⟨rfl, rfl⟩, rfl, rfl⟩
      rcases identifierName_forms nameParsed with ⟨_, nameSpelled, nameWhole⟩
      have piece := lead.append nameWhole.piece
      refine ⟨_, .renamed firstSpelled nameSpelled, ?_⟩
      have whole := piece.whole starts (by simp) (children ⟨_, some first, name⟩) (span _)
      simpa using whole
  | false =>
      simp only [Bool.false_eq_true, if_false, bind_eq_ok, spanFrom_eq_ok, pure_eq_ok] at parsed
      rcases parsed with ⟨_, _, ⟨rfl, rfl⟩, rfl, rfl⟩
      refine ⟨_, .plain firstSpelled, ?_⟩
      have whole := lead.whole starts (by simp [firstWhole.ne_nil]) (children ⟨_, none, first⟩)
        (span _)
      simpa using whole

theorem specifiers_reads {node : Specifier → Node}
    (forms : Forms specifier Specifier.Spelled node) :
    Reads specifiers
      (fun values lexemes => ∃ listed, Listed Specifier.Spelled values listed ∧
        lexemes = .mark .openBrace :: listed ++ [.mark .closeBrace])
      (List.map node) := by
  intro before values after parsed
  simp only [specifiers, bind_eq_ok, pure_eq_ok] at parsed
  rcases parsed with ⟨_, _, opened, specifiers, _, listParsed, _, _, closed, rfl, rfl⟩
  rcases commaList_reads forms.reads listParsed with ⟨listed, spelled, listPiece⟩
  have piece := ((expect_piece opened).append listPiece).append (expect_piece closed)
  exact ⟨_, ⟨listed, spelled, rfl⟩, by simpa using piece⟩

theorem importSpecifier_forms : Forms specifier Specifier.Spelled .importSpecifier :=
  specifier_forms (fun _ => rfl) (fun _ => rfl)

theorem exportSpecifier_forms : Forms specifier Specifier.Spelled .exportSpecifier :=
  specifier_forms (fun _ => rfl) (fun _ => rfl)

def ImportClause.nodes (clause : ImportClause) : List Node :=
  clause.defaultBinding.toList.map .identifier ++ clause.namespaceBinding.toList.map .identifier ++
    clause.namedBindings.map .importSpecifier

def ImportClause.Spelled (clause : ImportClause) (lexemes : List Lexeme) : Prop :=
  BindingsSpelled clause.defaultBinding clause.namespaceBinding clause.namedBindings lexemes

theorem importedNames_since {origin : Cursor} {default : Option Identifier}
    {defaultLexemes : List Lexeme} {clause : ImportClause}
    (leading : LeadingDefault default defaultLexemes)
    (lead : Piece origin before defaultLexemes (default.toList.map .identifier))
    (parsed : importedNames default before = .ok clause after) :
    ∃ lexemes, clause.Spelled lexemes ∧ Piece origin after lexemes clause.nodes := by
  simp only [importedNames, bind_eq_ok, current_eq_ok] at parsed
  rcases parsed with ⟨token, _, ⟨peeked, rfl⟩, parsed⟩
  rcases exists_branch parsed with ⟨branch, chosen, parsed⟩
  split at chosen <;> subst chosen
  · simp only [bind_eq_ok, pure_eq_ok] at parsed
    rcases parsed with ⟨specifiers, _, namesParsed, rfl, rfl⟩
    rcases specifiers_reads importSpecifier_forms namesParsed with
      ⟨_, ⟨listed, spelled, rfl⟩, piece⟩
    exact ⟨_, .names leading spelled, by simpa [ImportClause.nodes] using lead.append piece⟩
  · next kind =>
      simp only [bind_eq_ok, take_eq_ok, pure_eq_ok] at parsed
      rcases parsed with ⟨_, _, ⟨_, rfl⟩, _, _, asParsed, name, _, nameParsed, rfl, rfl⟩
      rcases identifier_forms nameParsed with ⟨_, nameSpelled, nameWhole⟩
      have star := Piece.nextMark peeked (Token.isMark_iff.mpr kind)
      have piece := lead.append ((star.append (expectWord_piece asParsed)).append nameWhole.piece)
      exact ⟨_, .space leading nameSpelled, by simpa [ImportClause.nodes] using piece⟩
  · exact absurd parsed identifierExpected_ne_ok

theorem importClause_reads : Reads importClause ImportClause.Spelled ImportClause.nodes := by
  intro before clause after parsed
  simp only [importClause, bind_eq_ok, current_eq_ok] at parsed
  rcases parsed with ⟨token, _, ⟨_, rfl⟩, parsed⟩
  split at parsed
  · simp only [bind_eq_ok] at parsed
    rcases parsed with ⟨name, _, nameParsed, found, _, accepted, parsed⟩
    rcases identifier_forms nameParsed with ⟨_, nameSpelled, nameWhole⟩
    have lead := nameWhole.piece.append (accept_piece accepted)
    cases found with
    | true => exact importedNames_since (.present nameSpelled) lead parsed
    | false =>
        rcases pure_eq_ok.mp parsed with ⟨rfl, rfl⟩
        exact ⟨_, .default nameSpelled, by simpa [Lexeme.flag, ImportClause.nodes] using lead⟩
  · exact importedNames_since .absent (.nil before) parsed

theorem importBindings_eq_ok {clause : ImportClause}
    (parsed : importBindings before = .ok clause after) :
    clause = ⟨none, none, []⟩ ∧ before = after ∨
      ∃ lexemes, clause.Spelled lexemes ∧
        Piece before after (lexemes ++ [.word "from"]) clause.nodes := by
  simp only [importBindings, bind_eq_ok, current_eq_ok] at parsed
  rcases parsed with ⟨token, _, ⟨_, rfl⟩, parsed⟩
  split at parsed
  · rcases pure_eq_ok.mp parsed with ⟨rfl, rfl⟩
    exact .inl ⟨rfl, rfl⟩
  · simp only [bind_eq_ok, pure_eq_ok] at parsed
    rcases parsed with ⟨clause, _, clauseParsed, _, _, fromParsed, rfl, rfl⟩
    rcases importClause_reads clauseParsed with ⟨lexemes, spelled, piece⟩
    have all := piece.append (expectWord_piece fromParsed)
    exact .inr ⟨lexemes, spelled, by simpa using all⟩

theorem importDeclaration_forms :
    Forms importDeclaration Statement.Spelled .statement := by
  intro before value after parsed
  simp only [importDeclaration, bind_eq_ok, currentStart_eq_ok, spanFrom_eq_ok, pure_eq_ok]
    at parsed
  rcases parsed with ⟨start, _, ⟨starts, rfl⟩, _, _, importParsed, clause, _, clauseParsed,
    source, _, sourceParsed, _, _, endParsed, _, _, ⟨rfl, rfl⟩, rfl, rfl⟩
  have lead := expectKeyword_piece importParsed
  rcases moduleName_forms sourceParsed with ⟨_, sourceSpelled, sourceWhole⟩
  rcases statementEnd_piece endParsed with ⟨_, semicolon, semicolonPiece⟩
  rcases importBindings_eq_ok clauseParsed with ⟨rfl, rfl⟩ | ⟨_, clauseSpelled, clausePiece⟩
  · have piece := (lead.append sourceWhole.piece).append semicolonPiece
    exact ⟨_, .importing (.bare sourceSpelled semicolon), piece.whole starts (by simp) rfl rfl⟩
  · have piece := ((lead.append clausePiece).append sourceWhole.piece).append semicolonPiece
    refine ⟨_, .importing (.bindings clauseSpelled sourceSpelled semicolon), ?_⟩
    have whole : Whole before _ _ (.statement (.importing ⟨⟨start, _⟩, clause.defaultBinding,
        clause.namespaceBinding, clause.namedBindings, source⟩)) :=
      piece.whole starts (by simp)
        (by simp [Node.children, Statement.children, ImportClause.nodes]) rfl
    simpa using whole

/-! Declarations. -/

theorem extendedTypes_reads (reading : nesting.Reading) :
    Reads (extendedTypes nesting) ExtendedSpelled (List.map .type) := by
  intro before values after parsed
  simp only [extendedTypes, bind_eq_ok] at parsed
  rcases parsed with ⟨found, _, accepted, parsed⟩
  have lead := acceptWord_piece accepted
  cases found with
  | true =>
      rcases repeated_commaTurn_reads (typeReference_forms reading).reads parsed with
        ⟨_, separated, piece⟩
      exact ⟨_, .present separated, lead.append piece⟩
  | false =>
      rcases pure_eq_ok.mp parsed with ⟨rfl, rfl⟩
      exact ⟨_, .absent, lead⟩

theorem interfaceDeclaration_forms (reading : nesting.Reading) :
    Forms (interfaceDeclaration nesting) Statement.Spelled .statement := by
  intro before value after parsed
  simp only [interfaceDeclaration, bind_eq_ok, currentStart_eq_ok, spanFrom_eq_ok, pure_eq_ok]
    at parsed
  rcases parsed with ⟨start, _, ⟨starts, rfl⟩, _, _, wordParsed, name, _, nameParsed,
    typeParameters, _, typeParametersParsed, extended, _, extendedParsed, members, _,
    membersParsed, _, _, ⟨rfl, rfl⟩, rfl, rfl⟩
  rcases identifier_forms nameParsed with ⟨_, nameSpelled, nameWhole⟩
  rcases typeParameters_reads reading typeParametersParsed with
    ⟨_, typeParametersSpelled, typeParametersPiece⟩
  rcases extendedTypes_reads reading extendedParsed with ⟨_, extendedSpelled, extendedPiece⟩
  rcases typeMembers_reads reading membersParsed with
    ⟨_, ⟨inner, membersSpelled, rfl⟩, membersPiece⟩
  have piece := ((((expectKeyword_piece wordParsed).append nameWhole.piece).append
    typeParametersPiece).append extendedPiece).append membersPiece
  refine ⟨_, .interface (.intro nameSpelled typeParametersSpelled extendedSpelled membersSpelled),
    ?_⟩
  have whole : Whole before _ _
      (.statement (.interface ⟨⟨start, _⟩, name, typeParameters, extended, members⟩)) :=
    piece.whole starts (by simp) rfl rfl
  simpa using whole

theorem typeAlias_forms (reading : nesting.Reading) :
    Forms (typeAlias nesting) Statement.Spelled .statement := by
  intro before value after parsed
  simp only [typeAlias, bind_eq_ok, currentStart_eq_ok, spanFrom_eq_ok, pure_eq_ok] at parsed
  rcases parsed with ⟨start, _, ⟨starts, rfl⟩, _, _, wordParsed, name, _, nameParsed,
    typeParameters, _, typeParametersParsed, _, _, equalsParsed, aliased, _, aliasedParsed, _, _,
    endParsed, _, _, ⟨rfl, rfl⟩, rfl, rfl⟩
  rcases identifier_forms nameParsed with ⟨_, nameSpelled, nameWhole⟩
  rcases typeParameters_reads reading typeParametersParsed with
    ⟨_, typeParametersSpelled, typeParametersPiece⟩
  rcases reading.type aliasedParsed with ⟨_, aliasedSpelled, aliasedPiece⟩
  rcases statementEnd_piece endParsed with ⟨_, semicolon, semicolonPiece⟩
  have piece := (((((expectKeyword_piece wordParsed).append nameWhole.piece).append
    typeParametersPiece).append (expect_piece equalsParsed)).append aliasedPiece).append
    semicolonPiece
  refine ⟨_, .typeAlias (.intro nameSpelled typeParametersSpelled aliasedSpelled semicolon), ?_⟩
  have whole : Whole before _ _
      (.statement (.typeAlias ⟨⟨start, _⟩, name, typeParameters, aliased⟩)) :=
    piece.whole starts (by simp) (by simp [Node.children, Statement.children]) rfl
  simpa using whole

theorem bodyOrEnd_reads :
    Reads bodyOrEnd BodySpelled fun body => body.toList.map .functionBody := by
  intro before value after parsed
  simp only [bodyOrEnd, bind_eq_ok, atMark_eq_ok] at parsed
  rcases parsed with ⟨_, _, ⟨_, rfl⟩, parsed⟩
  split at parsed
  · rcases map_eq_ok.mp parsed with ⟨body, bodyParsed, rfl⟩
    rcases functionBody_forms bodyParsed with ⟨_, spelled, whole⟩
    exact ⟨_, .present spelled, whole.piece⟩
  · simp only [bind_eq_ok] at parsed
    rcases parsed with ⟨_, _, looked, parsed⟩
    rcases atStatementEnd_eq_ok looked with rfl
    split at parsed
    · simp only [bind_eq_ok, pure_eq_ok] at parsed
      rcases parsed with ⟨_, _, endParsed, rfl, rfl⟩
      rcases statementEnd_piece endParsed with ⟨_, semicolon, piece⟩
      exact ⟨_, .absent semicolon, piece⟩
    · exact absurd parsed unexpected_ne_ok

theorem functionDeclaration_forms (reading : nesting.Reading) :
    Forms (functionDeclaration nesting) Statement.Spelled .statement := by
  intro before value after parsed
  simp only [functionDeclaration, bind_eq_ok, currentStart_eq_ok, spanFrom_eq_ok, pure_eq_ok]
    at parsed
  rcases parsed with ⟨start, _, ⟨starts, rfl⟩, _, _, wordParsed, name, _, nameParsed,
    typeParameters, _, typeParametersParsed, parameters, _, parametersParsed, result, _,
    resultParsed, body, _, bodyParsed, _, _, ⟨rfl, rfl⟩, rfl, rfl⟩
  rcases identifier_forms nameParsed with ⟨_, nameSpelled, nameWhole⟩
  rcases typeParameters_reads reading typeParametersParsed with
    ⟨_, typeParametersSpelled, typeParametersPiece⟩
  rcases parameters_reads reading true parametersParsed with
    ⟨_, ⟨listed, parametersSpelled, rfl⟩, parametersPiece⟩
  rcases declaredType?_reads reading resultParsed with ⟨_, resultSpelled, resultPiece⟩
  rcases bodyOrEnd_reads bodyParsed with ⟨_, bodySpelled, bodyPiece⟩
  have piece := (((((expectKeyword_piece wordParsed).append nameWhole.piece).append
    typeParametersPiece).append parametersPiece).append resultPiece).append bodyPiece
  refine ⟨_, .function (.intro nameSpelled typeParametersSpelled parametersSpelled resultSpelled
    bodySpelled), ?_⟩
  have whole : Whole before _ _ (.statement
      (.function ⟨⟨start, _⟩, name, typeParameters, parameters, result, body⟩)) :=
    piece.whole starts (by simp) rfl rfl
  simpa using whole

theorem variableValue?_reads (reading : nesting.Reading) (kind : VariableKind) :
    Reads (variableValue? nesting kind) (After (.mark .equals) Expression.Spelled)
      fun value => value.toList.map .expression := by
  intro before value after parsed
  simp only [variableValue?, bind_eq_ok] at parsed
  rcases parsed with ⟨found, _, accepted, parsed⟩
  have lead := accept_piece accepted
  cases found with
  | true =>
      rcases map_eq_ok.mp parsed with ⟨inner, innerParsed, rfl⟩
      rcases reading.expression innerParsed with ⟨_, spelled, whole⟩
      exact ⟨_, .present spelled, lead.append whole.piece⟩
  | false =>
      cases kind with
      | constant => exact absurd parsed unexpected_ne_ok
      | mutable =>
          rcases pure_eq_ok.mp parsed with ⟨rfl, rfl⟩
          exact ⟨_, .absent, lead⟩

theorem variableDeclaration_forms (reading : nesting.Reading) {kind : VariableKind}
    {value : Statement} (word : Piece before before.next [kind.lexeme] [])
    (parsed : variableDeclaration nesting kind before = .ok value after) :
    Formed before after value.Spelled (.statement value) := by
  simp only [variableDeclaration, bind_eq_ok, currentStart_eq_ok, take_eq_ok, spanFrom_eq_ok,
    pure_eq_ok] at parsed
  rcases parsed with ⟨start, _, ⟨starts, rfl⟩, _, _, ⟨_, rfl⟩, name, _, nameParsed, declaredType,
    _, typeParsed, initializer, _, valueParsed, _, _, endParsed, _, _, ⟨rfl, rfl⟩, rfl, rfl⟩
  rcases identifier_forms nameParsed with ⟨_, nameSpelled, nameWhole⟩
  rcases declaredType?_reads reading typeParsed with ⟨_, typeSpelled, typePiece⟩
  rcases variableValue?_reads reading kind valueParsed with ⟨_, valueSpelled, valuePiece⟩
  rcases statementEnd_piece endParsed with ⟨_, semicolon, semicolonPiece⟩
  have piece := (((word.append nameWhole.piece).append typePiece).append valuePiece).append
    semicolonPiece
  refine ⟨_, .binding (.intro nameSpelled typeSpelled valueSpelled semicolon), ?_⟩
  exact piece.whole starts (by simp) (by simp [Node.children, Statement.children]) rfl

theorem atLet_eq_ok {found : Bool} (parsed : atLet before = .ok found after) :
    before = after ∧ (found = true → Piece before before.next [.word "let"] []) := by
  simp only [atLet, bind_eq_ok, atWord_eq_ok] at parsed
  rcases parsed with ⟨_, _, ⟨⟨token, peeked, rfl⟩, rfl⟩, parsed⟩
  split at parsed
  · next isLet =>
      simp only [bind_eq_ok, kindAhead_eq_ok, pure_eq_ok] at parsed
      rcases parsed with ⟨_, _, ⟨_, rfl⟩, _, rfl⟩
      rcases Piece.next peeked (Token.isWord_ne_end isLet) with ⟨_, piece⟩
      rw [Token.lexeme_of_isWord isLet] at piece
      exact ⟨rfl, fun _ => piece⟩
  · rcases pure_eq_ok.mp parsed with ⟨rfl, rfl⟩
    exact ⟨rfl, fun impossible => absurd impossible Bool.false_ne_true⟩

theorem declaration?_eq_ok (reading : nesting.Reading) {found : Option Statement}
    (parsed : declaration? nesting before = .ok found after) :
    (∃ declaration, found = some declaration ∧
      Formed before after declaration.Spelled (.statement declaration)) ∨
      found = none ∧ before = after := by
  simp only [declaration?, bind_eq_ok, current_eq_ok] at parsed
  rcases parsed with ⟨token, _, ⟨peeked, rfl⟩, parsed⟩
  rcases exists_branch parsed with ⟨branch, chosen, parsed⟩
  split at chosen <;> subst chosen
  · rcases map_eq_ok.mp parsed with ⟨declaration, inner, rfl⟩
    exact .inl ⟨_, rfl, interfaceDeclaration_forms reading inner⟩
  · rcases map_eq_ok.mp parsed with ⟨declaration, inner, rfl⟩
    exact .inl ⟨_, rfl, typeAlias_forms reading inner⟩
  · rcases map_eq_ok.mp parsed with ⟨declaration, inner, rfl⟩
    exact .inl ⟨_, rfl, functionDeclaration_forms reading inner⟩
  · next kind =>
      rcases map_eq_ok.mp parsed with ⟨declaration, inner, rfl⟩
      rcases Piece.next peeked (by simp [kind]) with ⟨wellFormed, word⟩
      rw [Token.lexeme_of_keyword wellFormed kind] at word
      have constant : Piece before before.next [VariableKind.constant.lexeme] [] := word
      exact .inl ⟨_, rfl, variableDeclaration_forms reading constant inner⟩
  · rcases bind_eq_ok.mp parsed with ⟨isLet, _, looked, parsed⟩
    rcases atLet_eq_ok looked with ⟨rfl, word⟩
    split at parsed
    · next isLet =>
        rcases map_eq_ok.mp parsed with ⟨declaration, inner, rfl⟩
        have mutable : Piece before before.next [VariableKind.mutable.lexeme] [] := word isLet
        exact .inl ⟨_, rfl, variableDeclaration_forms reading mutable inner⟩
    · rcases pure_eq_ok.mp parsed with ⟨rfl, rfl⟩
      exact .inr ⟨rfl, rfl⟩
  · rcases pure_eq_ok.mp parsed with ⟨rfl, rfl⟩
    exact .inr ⟨rfl, rfl⟩

/-! Exports. -/

theorem exportedNames_since {origin : Cursor} {start : Nat} {value : Statement}
    (starts : origin.StartsAt start) (word : Piece origin before [.keyword .exportWord] [])
    (parsed : exportedNames start before = .ok value after) :
    Formed origin after value.Spelled (.statement value) := by
  simp only [exportedNames, bind_eq_ok, spanFrom_eq_ok, pure_eq_ok] at parsed
  rcases parsed with ⟨specifiers, _, namesParsed, source, _, sourceParsed, _, _, endParsed, _, _,
    ⟨rfl, rfl⟩, rfl, rfl⟩
  rcases specifiers_reads exportSpecifier_forms namesParsed with
    ⟨_, ⟨listed, namesSpelled, rfl⟩, namesPiece⟩
  rcases afterWord_reads moduleName_forms.reads sourceParsed with ⟨_, sourceSpelled, sourcePiece⟩
  rcases statementEnd_piece endParsed with ⟨_, semicolon, semicolonPiece⟩
  have piece := ((word.append namesPiece).append sourcePiece).append semicolonPiece
  refine ⟨_, .exportingNames namesSpelled sourceSpelled semicolon, ?_⟩
  have whole : Whole origin _ _ (.statement (.exportingNames ⟨start, _⟩ specifiers source)) :=
    piece.whole starts (by simp) (by simp [Node.children, Statement.children]) rfl
  simpa using whole

theorem exportDeclaration_forms (reading : nesting.Reading) :
    Forms (exportDeclaration nesting) Statement.Spelled .statement := by
  intro before value after parsed
  simp only [exportDeclaration, bind_eq_ok, currentStart_eq_ok, atMark_eq_ok] at parsed
  rcases parsed with ⟨start, _, ⟨starts, rfl⟩, _, _, wordParsed, _, _, ⟨_, rfl⟩, parsed⟩
  have word := expectKeyword_piece wordParsed
  split at parsed
  · exact exportedNames_since starts word parsed
  · simp only [bind_eq_ok] at parsed
    rcases parsed with ⟨isDefault, _, accepted, parsed⟩
    have lead := word.append (acceptWord_piece accepted)
    cases isDefault with
    | true =>
        simp only [if_true, bind_eq_ok, spanFrom_eq_ok, pure_eq_ok] at parsed
        rcases parsed with ⟨expression, _, expressionParsed, _, _, endParsed, _, _, ⟨rfl, rfl⟩,
          rfl, rfl⟩
        rcases reading.expression expressionParsed with ⟨_, spelled, whole⟩
        rcases statementEnd_piece endParsed with ⟨_, semicolon, semicolonPiece⟩
        have piece := (lead.append whole.piece).append semicolonPiece
        exact ⟨_, .exportingDefault spelled semicolon, piece.whole starts (by simp) rfl rfl⟩
    | false =>
        simp only [Bool.false_eq_true, if_false, bind_eq_ok] at parsed
        rcases parsed with ⟨found, _, declarationParsed, parsed⟩
        rcases declaration?_eq_ok reading declarationParsed with
          ⟨declaration, rfl, _, spelled, whole⟩ | ⟨rfl, rfl⟩
        · simp only [bind_eq_ok, spanFrom_eq_ok, pure_eq_ok] at parsed
          rcases parsed with ⟨_, _, ⟨rfl, rfl⟩, rfl, rfl⟩
          have piece := lead.append whole.piece
          exact ⟨_, .exporting spelled, piece.whole starts (by simp) rfl rfl⟩
        · exact absurd parsed unexpected_ne_ok

/-! Other statements. -/

theorem returnStatement_forms (reading : nesting.Reading) :
    Forms (returnStatement nesting) Statement.Spelled .statement := by
  intro before value after parsed
  simp only [returnStatement, returned?, bind_eq_ok, currentStart_eq_ok, spanFrom_eq_ok,
    pure_eq_ok] at parsed
  rcases parsed with ⟨start, _, ⟨starts, rfl⟩, _, _, wordParsed, found, _,
    ⟨atEnd, _, looked, returned⟩, _, _, endParsed, _, _, ⟨rfl, rfl⟩, rfl, rfl⟩
  have word := expectKeyword_piece wordParsed
  rcases atStatementEnd_eq_ok looked with rfl
  rcases statementEnd_piece endParsed with ⟨_, semicolon, semicolonPiece⟩
  split at returned
  · rcases pure_eq_ok.mp returned with ⟨rfl, rfl⟩
    have piece := word.append semicolonPiece
    exact ⟨_, .returningNothing semicolon, piece.whole starts (by simp) rfl rfl⟩
  · rcases map_eq_ok.mp returned with ⟨expression, expressionParsed, rfl⟩
    rcases reading.expression expressionParsed with ⟨_, spelled, whole⟩
    have piece := (word.append whole.piece).append semicolonPiece
    exact ⟨_, .returning spelled semicolon, piece.whole starts (by simp) rfl rfl⟩

theorem emptyStatement_forms {token : Token} {value : Statement}
    (peeked : before.peek 0 = .ok token) (kind : token.kind = .punctuator .semicolon)
    (parsed : emptyStatement before = .ok value after) :
    Formed before after value.Spelled (.statement value) := by
  simp only [emptyStatement, bind_eq_ok, currentStart_eq_ok, take_eq_ok, spanFrom_eq_ok,
    pure_eq_ok] at parsed
  rcases parsed with ⟨start, _, ⟨starts, rfl⟩, _, _, ⟨_, rfl⟩, _, _, ⟨rfl, rfl⟩, rfl, rfl⟩
  have piece := Piece.nextMark peeked (Token.isMark_iff.mpr kind)
  exact ⟨_, .empty, piece.whole starts (by simp) rfl rfl⟩

theorem expressionStatement_forms (reading : nesting.Reading) :
    Forms (expressionStatement nesting) Statement.Spelled .statement := by
  intro before value after parsed
  simp only [expressionStatement, bind_eq_ok, current_eq_ok] at parsed
  rcases parsed with ⟨token, _, ⟨peeked, rfl⟩, parsed⟩
  split at parsed
  · simp only [bind_eq_ok, spanFrom_eq_ok, pure_eq_ok] at parsed
    rcases parsed with ⟨expression, _, expressionParsed, _, _, endParsed, _, _, ⟨rfl, rfl⟩, rfl,
      rfl⟩
    rcases reading.expression expressionParsed with ⟨_, spelled, whole⟩
    rcases statementEnd_piece endParsed with ⟨_, semicolon, semicolonPiece⟩
    have piece := whole.piece.append semicolonPiece
    exact ⟨_, .expression spelled semicolon,
      piece.whole ⟨token, peeked, rfl⟩ (by simp [whole.ne_nil]) rfl rfl⟩
  · exact absurd parsed unexpected_ne_ok

theorem statement_forms (reading : nesting.Reading) :
    Forms (statement nesting) Statement.Spelled .statement := by
  intro before value after parsed
  simp only [statement, bind_eq_ok, current_eq_ok] at parsed
  rcases parsed with ⟨token, _, ⟨peeked, rfl⟩, parsed⟩
  rcases exists_branch parsed with ⟨branch, chosen, parsed⟩
  split at chosen <;> subst chosen
  · exact importDeclaration_forms parsed
  · exact exportDeclaration_forms reading parsed
  · exact returnStatement_forms reading parsed
  · next kind => exact emptyStatement_forms peeked kind parsed
  · rcases bind_eq_ok.mp parsed with ⟨found, _, declarationParsed, parsed⟩
    rcases declaration?_eq_ok reading declarationParsed with
      ⟨declaration, rfl, formed⟩ | ⟨rfl, rfl⟩
    · rcases pure_eq_ok.mp parsed with ⟨rfl, rfl⟩
      exact formed
    · exact expressionStatement_forms reading parsed

/-- One turn of a program reads a statement, unless the text is over. -/
theorem statementTurn_eq_ok {turned : Turn Statement}
    (parsed : statementTurn nesting before = .ok turned after) :
    turned = .stop ∧ before = after ∧ before.ahead = [] ∧
        (∃ token, before.ending = .endOfFile token) ∨
      ∃ value, turned = .more value ∧ statement nesting before = .ok value after := by
  simp only [statementTurn, bind_eq_ok, current_eq_ok] at parsed
  rcases parsed with ⟨token, _, ⟨peeked, rfl⟩, parsed⟩
  split at parsed
  · next isEnd =>
      rcases pure_eq_ok.mp parsed with ⟨rfl, rfl⟩
      rcases Cursor.ahead_of_end peeked isEnd with ⟨atEnd, ending⟩
      exact .inl ⟨rfl, rfl, atEnd, token, ending⟩
  · rcases map_eq_ok.mp parsed with ⟨value, read, rfl⟩
    exact .inr ⟨value, rfl, read⟩

theorem statementTurn_leads (reading : nesting.Reading) {turned : Turn Statement}
    (parsed : statementTurn nesting before = .ok turned after) :
    turned.Leads (fun values before after =>
      after.ahead = [] ∧ (∃ token, after.ending = .endOfFile token) ∧ ∃ lexemes,
        StatementsSpelled values lexemes ∧
          Piece before after lexemes (values.map .statement)) before after := by
  rcases statementTurn_eq_ok parsed with ⟨rfl, rfl, atEnd, ending⟩ | ⟨statement, rfl, read⟩
  · exact ⟨atEnd, ending, [], .nil, .nil before⟩
  · rcases statement_forms reading read with ⟨_, spelled, whole⟩
    refine ⟨whole.length_lt, ?_⟩
    rintro values later ⟨atEnd, ending, others, othersSpelled, rest⟩
    exact ⟨atEnd, ending, _, .cons spelled othersSpelled, whole.piece.append rest⟩

theorem statements_eq_ok (reading : nesting.Reading) {values : List Statement}
    (parsed : statements nesting before = .ok values after) :
    (∃ token, before.ending = .endOfFile token) ∧
      StatementsSpelled values (before.ahead.map Token.lexeme) ∧
      Node.Among (values.map .statement) before.ahead := by
  rcases repeated_induction (fun _ _ _ parsed => statementTurn_leads reading parsed) parsed with
    ⟨atEnd, ending, _, spelled, ⟨takes, among⟩⟩
  have all := takes.ahead
  rw [atEnd, List.append_nil] at all
  rw [all, ← takes.ending]
  exact ⟨ending, spelled, among⟩

end Parse

end TypedScript
