import TypedScript.Proofs.Acceptance.Basic
import TypedScript.Proofs.ErrorPlaces
import TypedScript.Proofs.Lexing.Shift
import TypedScript.Proofs.Lexing.Writing

/-!
The ways of reading a text agree. What reads as one expression is a program of one statement, and
what reads as one type is what a declaration may give a name to.
-/

namespace TypedScript

def Statement.IsAlias (name : String) (type : TypeExpr) (statement : Statement) : Prop :=
  ∃ declaration, statement = .typeAlias declaration ∧ declaration.name.text = name ∧
    declaration.typeParameters = [] ∧ declaration.aliased = type

namespace Cursor

def AtExpression (cursor : Cursor) : Prop :=
  ∃ token, cursor.peek 0 = .ok token ∧ token.kind.startsExpression = true

end Cursor

namespace Parse

variable {nesting : Nesting} {before after cursor : Cursor} {value : Expression} {token : Token}

/-! Where an expression has been read one can begin. -/

theorem primaryExpression_starts (parsed : primaryExpression nesting before = .ok value after) :
    before.AtExpression := by
  simp only [primaryExpression, bind_eq_ok, current_eq_ok] at parsed
  rcases parsed with ⟨token, _, ⟨seen, rfl⟩, parsed⟩
  rcases exists_branch parsed with ⟨branch, chosen, parsed⟩
  split at chosen
  · next kind => exact ⟨token, seen, by rw [kind]; rfl⟩
  · next kind => exact ⟨token, seen, by rw [kind]; rfl⟩
  · next kind => exact ⟨token, seen, by rw [kind]; rfl⟩
  · next kind => exact ⟨token, seen, by rw [kind]; rfl⟩
  · next kind => exact ⟨token, seen, by rw [kind]; rfl⟩
  · next kind => exact ⟨token, seen, by rw [kind]; rfl⟩
  · subst chosen
    exact absurd parsed unexpected_ne_ok

theorem leftHandSide_starts (parsed : leftHandSide nesting before = .ok value after) :
    before.AtExpression := by
  simp only [leftHandSide, leftHandBase, bind_eq_ok, currentStart_eq_ok, current_eq_ok] at parsed
  rcases parsed with ⟨_, _, ⟨_, rfl⟩, base, _, ⟨token, _, ⟨seen, rfl⟩, parsed⟩, _⟩
  split at parsed
  · next kind => exact ⟨token, seen, by rw [kind]; rfl⟩
  · exact primaryExpression_starts parsed

theorem unary_starts (parsed : unary nesting before = .ok value after) : before.AtExpression := by
  simp only [unary, bind_eq_ok, current_eq_ok] at parsed
  rcases parsed with ⟨token, _, ⟨seen, rfl⟩, parsed⟩
  rcases exists_branch parsed with ⟨branch, chosen, parsed⟩
  split at chosen
  · next mark kind =>
      split at chosen
      · next isUnary => exact ⟨token, seen, by simp [kind, TokenKind.startsExpression, isUnary]⟩
      · subst chosen
        exact leftHandSide_starts parsed
  · subst chosen
    exact leftHandSide_starts parsed

theorem conditional_starts (parsed : conditional nesting before = .ok value after) :
    before.AtExpression := by
  simp only [conditional, binary, bind_eq_ok, currentStart_eq_ok] at parsed
  rcases parsed with ⟨_, _, ⟨_, rfl⟩, _, _, ⟨_, _, ⟨_, rfl⟩, _, _, parsed, _⟩, _⟩
  exact unary_starts parsed

theorem assignment_starts (parsed : assignment nesting before = .ok value after) :
    before.AtExpression := by
  simp only [assignment, arrow?, bind_eq_ok, current_eq_ok] at parsed
  rcases parsed with ⟨found, _, ⟨token, _, ⟨seen, rfl⟩, looked⟩, parsed⟩
  rcases exists_branch looked with ⟨branch, chosen, looked⟩
  split at chosen
  · next kind => exact ⟨token, seen, by rw [kind]; rfl⟩
  · next kind => exact ⟨token, seen, by rw [kind]; rfl⟩
  · subst chosen
    rcases pure_eq_ok.mp looked with ⟨rfl, rfl⟩
    simp only [bind_eq_ok, currentStart_eq_ok] at parsed
    rcases parsed with ⟨_, _, ⟨_, rfl⟩, _, _, parsed, _⟩
    exact conditional_starts parsed

/-! A name before another name is an expression by itself. -/

theorem suffixes_before_name (seen : cursor.peek 0 = .ok token) (plain : token.kind = .identifier)
    (start : Nat) (allowCalls : Bool) (base : Expression) :
    Reaches (suffixes nesting start allowCalls base) cursor cursor fun _ => True := by
  apply (current_reaches seen).bindEq
  rw [plain]
  exact .pure trivial

theorem operators_before_name (seen : cursor.peek 0 = .ok token)
    (plain : token.kind = .identifier) (start minimum : Nat) (left : Expression) :
    Reaches (operators nesting start minimum left) cursor cursor fun _ => True := by
  have none : Reaches binaryOperator? cursor cursor (· = none) := by
    apply (current_reaches seen).bindEq
    simp only [Token.isMark, plain, TokenKind.punctuator?]
    exact .pure rfl
  exact none.bindEq (.pure trivial)

theorem conditional_of_names {first second : Token} (seen : cursor.peek 0 = .ok first)
    (seenNext : cursor.peek 1 = .ok second) (plain : first.kind = .identifier)
    (plainNext : second.kind = .identifier) :
    Reaches (conditional nesting) cursor cursor.next fun _ => True := by
  rw [← Cursor.next_peek] at seenNext
  have name : Reaches (leftHandSide nesting) cursor cursor.next fun _ => True := by
    apply (currentStart_reaches seen).bindEq
    have base : Reaches (leftHandBase nesting) cursor cursor.next fun _ => True := by
      apply (current_reaches seen).bindEq
      rw [if_neg (by simp [plain])]
      apply (current_reaches seen).bindEq
      rw [plain]
      apply (take_reaches seen).bindEq
      cases literalOf? first with
      | some literal => exact .pure trivial
      | none => exact .pure trivial
    apply base.bind
    intro value _
    exact suffixes_before_name seenNext plainNext _ _ _
  have operand : Reaches (unary nesting) cursor cursor.next fun _ => True := by
    apply (current_reaches seen).bindEq
    rw [plain]
    exact name
  have whole : Reaches (binary nesting 0) cursor cursor.next fun _ => True := by
    apply (currentStart_reaches seen).bindEq
    apply operand.bind
    intro value _
    exact operators_before_name seenNext plainNext _ _ _
  apply (currentStart_reaches seen).bindEq
  apply whole.bind
  intro value _
  apply (accept_absent seenNext (by simp [Token.isMark, plainNext])).bindEq
  exact .pure trivial

theorem assignment_of_names {first second : Token} (seen : cursor.peek 0 = .ok first)
    (seenNext : cursor.peek 1 = .ok second) (plain : first.kind = .identifier)
    (plainNext : second.kind = .identifier) :
    Reaches (assignment nesting) cursor cursor.next fun _ => True := by
  have noArrow : Reaches (arrow? nesting) cursor cursor (· = none) := by
    apply (current_reaches seen).bindEq
    rw [plain]
    apply (kindAhead_reaches seenNext).bindEq
    rw [if_neg (by simp [plainNext])]
    exact .pure rfl
  apply noArrow.bindEq
  apply (currentStart_reaches seen).bindEq
  apply (conditional_of_names seen seenNext plain plainNext).bind
  intro value _
  rw [← Cursor.next_peek] at seenNext
  apply (current_reaches seenNext).bindEq
  rw [plainNext]
  exact .pure trivial

theorem expression_eq_ok {rules : Rules} {room : Nat}
    (parsed : (Nesting.ofRoom rules room).expression before = .ok value after) :
    ∃ inner, assignment inner before = .ok value after := by
  cases room with
  | zero =>
      simp only [Nesting.expression, bind_eq_ok, Nesting.enter_eq_ok, Nesting.ofRoom] at parsed
      rcases parsed with ⟨_, _, ⟨impossible, _⟩, _⟩
      cases impossible
  | succ room =>
      simp only [Nesting.expression, bind_eq_ok, Nesting.enter_eq_ok, Nesting.ofRoom] at parsed
      rcases parsed with ⟨_, _, ⟨entered, rfl⟩, parsed⟩
      cases entered
      exact ⟨_, parsed⟩

/-! Statements at the end of a text. -/

theorem statementEnd_at_end (seen : cursor.peek 0 = .ok token) (isEnd : token.kind = .endOfFile) :
    Reaches statementEnd cursor cursor fun _ => True := by
  apply (accept_absent seen (by simp [Token.isMark, isEnd])).bindEq
  have finished : Reaches atStatementEnd cursor cursor (· = true) := by
    apply (current_reaches seen).bindEq
    simp only [isEnd]
    exact .pure (by simp)
  exact finished.bindEq (.pure trivial)

theorem statements_of_one {first last : Token} {holds : Statement → Prop}
    (seen : before.peek 0 = .ok first) (more : first.kind ≠ .endOfFile)
    (seenLast : after.peek 0 = .ok last) (isEnd : last.kind = .endOfFile)
    (shorter : after.ahead.length < before.ahead.length)
    (one : Reaches (statement nesting) before after holds) :
    Reaches (statements nesting) before after fun statements =>
      ∃ statement, statements = [statement] ∧ holds statement := by
  have turn : Reaches (statementTurn nesting) before after fun turned =>
      ∃ statement, turned = .more statement ∧ holds statement := by
    apply (current_reaches seen).bindEq
    rw [if_neg more]
    exact one.map fun statement satisfied => ⟨statement, rfl, satisfied⟩
  have finished : Reaches (repeated (statementTurn nesting)) after after (· = []) := by
    apply repeated_stop
    apply (current_reaches seenLast).bindEq
    rw [if_pos isEnd]
    exact .pure rfl
  apply (repeated_more shorter turn finished).imp
  rintro statements ⟨statement, later, rfl, satisfied, rfl⟩
  exact ⟨statement, rfl, satisfied⟩

/-! Expressions as statements. -/

theorem declaration?_at_expression {first second : Token} (seen : cursor.peek 0 = .ok first)
    (starts : first.kind.startsExpression = true) (seenNext : cursor.peek 1 = .ok second)
    (noName : first.kind = .identifier → second.kind ≠ .identifier) :
    Reaches (declaration? nesting) cursor cursor (· = none) := by
  apply (current_reaches seen).bindEq
  cases kind : first.kind with
  | identifier =>
      have noLet : Reaches atLet cursor cursor (· = false) := by
        apply (atWord_reaches seen "let").bindEq
        cases first.isWord "let" with
        | false => exact .pure rfl
        | true =>
            apply (kindAhead_reaches seenNext).bindEq
            exact .pure (by simp [noName kind])
      exact noLet.bindEq (.pure rfl)
  | keyword word =>
      rw [kind] at starts
      cases word with
      | newWord => exact .pure rfl
      | _ => cases starts
  | endOfFile => exact .pure rfl
  | numericLiteral => exact .pure rfl
  | stringLiteral => exact .pure rfl
  | punctuator mark => exact .pure rfl

/-- No other statement begins where an expression does, unless it is a declaration. -/
theorem statement_at_expression {first second : Token} {holds : Statement → Prop}
    (seen : before.peek 0 = .ok first) (starts : first.kind.startsExpression = true)
    (seenNext : before.peek 1 = .ok second)
    (noName : first.kind = .identifier → second.kind ≠ .identifier)
    (one : Reaches (expressionStatement nesting) before after holds) :
    Reaches (statement nesting) before after holds := by
  have noDeclaration : Reaches (declaration? nesting) before before (· = none) :=
    declaration?_at_expression seen starts seenNext noName
  apply (current_reaches seen).bindEq
  cases kind : first.kind with
  | keyword word =>
      rw [kind] at starts
      cases word with
      | newWord => exact noDeclaration.bindEq one
      | _ => cases starts
  | punctuator mark =>
      rw [kind] at starts
      cases mark with
      | semicolon => cases starts
      | _ => exact noDeclaration.bindEq one
  | identifier => exact noDeclaration.bindEq one
  | endOfFile => exact noDeclaration.bindEq one
  | numericLiteral => exact noDeclaration.bindEq one
  | stringLiteral => exact noDeclaration.bindEq one

/-! Whole texts. -/

theorem statements_of_expression {rules : Rules} {room : Nat} {last : Token}
    (inOrder : InOrder before.ahead)
    (parsed : (Nesting.ofRoom rules room).expression before = .ok value after)
    (seenLast : after.peek 0 = .ok last) (isEnd : last.kind = .endOfFile) :
    Reaches (statements (.ofRoom rules room)) before after
      (· = [.expression value.span value]) := by
  rcases (Nesting.ofRoom_reading rules room).expression parsed with ⟨_, _, whole⟩
  have shorter := whole.length_lt
  rcases whole with ⟨takes, covers⟩
  cases covers with
  | @intro _ first rest span _ =>
      have seen : before.peek 0 = .ok first := Cursor.peek_of_ahead takes.ahead
      have wellFormed : first.WellFormed := takes.wellFormed (List.mem_cons_self ..)
      rcases expression_eq_ok parsed with ⟨inner, read⟩
      rcases assignment_starts read with ⟨_, again, starts⟩
      cases seen.symm.trans again
      have ending : before.ending = .endOfFile last := by
        rw [← takes.ending]
        exact (Cursor.ahead_of_end seenLast isEnd).2
      have seenNext : ∃ second, before.peek 1 = .ok second := by
        rw [Cursor.peek, ending]
        cases before.ahead[1]? with
        | some second => exact ⟨second, rfl⟩
        | none => exact ⟨last, rfl⟩
      rcases seenNext with ⟨second, seenNext⟩
      have noName : first.kind = .identifier → second.kind ≠ .identifier := by
        intro plain plainNext
        have alone : Reaches (assignment inner) before before.next fun _ => True :=
          assignment_of_names seen seenNext plain plainNext
        rcases alone with ⟨_, alone, _⟩
        rw [read] at alone
        cases alone
        rw [Cursor.next_peek, seenNext] at seenLast
        cases seenLast
        rw [isEnd] at plainNext
        cases plainNext
      have one : Reaches (expressionStatement (.ofRoom rules room)) before after
          (· = .expression value.span value) := by
        apply (current_reaches seen).bindEq
        rw [if_pos starts]
        have expression : Reaches (Nesting.ofRoom rules room).expression before after (· = value) :=
          ⟨value, parsed, rfl⟩
        apply expression.bindEq
        apply (statementEnd_at_end seenLast isEnd).bind
        intro _ _
        apply (spanFrom_reaches first.start).bindEq
        refine .pure ?_
        have firstOrder : InOrder (first :: rest) :=
          inOrder.of_sublist (takes.ahead ▸ List.sublist_append_left _ _)
        have nonempty := firstOrder.nonempty first (by simp)
        have firstBound := firstOrder.stopAfter_spec.2 first (by simp)
        have same : value.span = ⟨first.start, stopAfter first.stop rest⟩ := span.eq firstOrder
        rw [takes.lastStop, stopAfter_cons, same, Nat.max_eq_left (by omega)]
      apply (statements_of_one seen wellFormed.notEnd seenLast isEnd shorter
        (statement_at_expression seen starts seenNext noName one)).imp
      rintro _ ⟨_, rfl, rfl⟩
      rfl

/-! Types under a name. -/

section Alias

variable {name : String} {tokens : List Token} {type : TypeExpr} {first second third : Token}

theorem typeAlias_reaches (ahead : before.ahead = first :: second :: third :: tokens)
    (isType : first.lexeme = .keyword .typeWord) (isName : second.lexeme = .word name)
    (isEquals : third.lexeme = .mark .equals)
    (read : nesting.type (before.skip 3) = .ok type after) (seenLast : after.peek 0 = .ok token)
    (isEnd : token.kind = .endOfFile) :
    Reaches (typeAlias nesting) before after (Statement.IsAlias name type) := by
  have seen : before.peek 0 = .ok first := Cursor.peek_of_ahead ahead
  have aheadNext : before.next.ahead = second :: third :: tokens := (Cursor.next_of_ahead ahead).1
  have seenName : before.next.peek 0 = .ok second := Cursor.peek_of_ahead aheadNext
  have seenEquals : before.next.next.peek 0 = .ok third :=
    Cursor.peek_of_ahead (Cursor.next_of_ahead aheadNext).1
  have equalsKind : third.kind = .punctuator .equals := congrArg Lexeme.kind isEquals
  have plain : Reaches (typeParameters nesting) before.next.next before.next.next (· = []) := by
    apply (accept_absent seenEquals (by simp [Token.isMark, equalsKind])).bindEq
    exact .pure rfl
  have aliased : Reaches nesting.type before.next.next.next after (· = type) := ⟨type, read, rfl⟩
  apply (currentStart_reaches seen).bindEq
  apply (expectKind_reaches seen (congrArg Lexeme.kind isType)).bindEq
  apply (identifier_reaches seenName (congrArg Lexeme.kind isName)).bindEq
  apply plain.bindEq
  apply (expectKind_reaches seenEquals equalsKind).bindEq
  apply aliased.bindEq
  apply (statementEnd_at_end seenLast isEnd).bind
  intro _ _
  apply (spanFrom_reaches _).bindEq
  exact .pure ⟨_, rfl, congrArg Lexeme.text isName, rfl, rfl⟩

/-- A type that a text ends with is read after the beginning of a declaration too. -/
theorem statements_of_alias (ahead : before.ahead = first :: second :: third :: tokens)
    (isType : first.lexeme = .keyword .typeWord) (isName : second.lexeme = .word name)
    (isEquals : third.lexeme = .mark .equals)
    (read : nesting.type (before.skip 3) = .ok type after) (seenLast : after.peek 0 = .ok token)
    (isEnd : token.kind = .endOfFile) :
    Reaches (statements nesting) before after fun statements =>
      ∃ statement, statements = [statement] ∧ statement.IsAlias name type := by
  have seen : before.peek 0 = .ok first := Cursor.peek_of_ahead ahead
  have kind : first.kind = .keyword .typeWord := congrArg Lexeme.kind isType
  have shorter : after.ahead.length < before.ahead.length := by
    rw [(Cursor.ahead_of_end seenLast isEnd).1, ahead]
    exact Nat.zero_lt_succ _
  have declared : Reaches (declaration? nesting) before after fun found =>
      ∃ statement, found = some statement ∧ statement.IsAlias name type := by
    apply (current_reaches seen).bindEq
    rw [kind]
    apply (typeAlias_reaches ahead isType isName isEquals read seenLast isEnd).map
    intro statement isAlias
    exact ⟨statement, rfl, isAlias⟩
  have one : Reaches (statement nesting) before after (Statement.IsAlias name type) := by
    apply (current_reaches seen).bindEq
    rw [kind]
    apply declared.bind
    rintro _ ⟨statement, rfl, isAlias⟩
    exact .pure isAlias
  exact statements_of_one seen (by simp [kind]) seenLast isEnd shorter one

end Alias

end Parse

theorem parseProgram_of_parseExpression {options : ParseOptions} {source : String}
    {value : Expression} (parsed : parseExpression options source = .ok value) :
    parseProgram options source =
      .ok ⟨⟨0, source.utf8ByteSize⟩, [.expression value.span value]⟩ := by
  rcases Parse.run_eq_ok parsed with ⟨after, parsed⟩
  rcases Parse.whole_eq_ok parsed with ⟨read, last, seen, isEnd⟩
  rw [parseProgram, Parse.run_reaches
    (Parse.statements_of_expression (lex_inOrder _ _) read seen isEnd)]
  rfl

theorem lex_alias {keywords : KeywordSet} {source : String}
    (reserved : keywords.reserves .typeWord = true) (noShebang : ¬['#', '!'] <+: source.toList) :
    ∃ first second third tokens,
      (lex keywords ("type T = " ++ source)).tokens = first :: second :: third :: tokens ∧
      first.lexeme = .keyword .typeWord ∧ second.lexeme = .word "T" ∧
      third.lexeme = .mark .equals ∧ third.stop ≤ 9 ∧
      GoOnAlike (Later 9) False (lex keywords source).tokens (lex keywords source).ending tokens
        (lex keywords ("type T = " ++ source)).ending := by
  have whole : Lexer.ofSource keywords ("type T = " ++ source) =
      ⟨keywords, Lexeme.write [.keyword .typeWord, .word "T", .mark .equals] ++ source.toList,
        .origin⟩ := by
    rw [Lexer.ofSource, String.toList_append]
    rfl
  have plain := Lexer.ofSource_plain keywords noShebang
  have readable : ∀ lexeme ∈ [Lexeme.keyword .typeWord, .word "T", .mark .equals],
      lexeme.Readable keywords := by
    have noKeyword : Keyword.ofSpelling? "T" = none := by decide
    simp only [List.forall_mem_cons, List.not_mem_nil, false_implies, implies_true, and_true]
    exact ⟨Lexeme.keyword_readable reserved,
      Lexeme.word_readable (by decide) (by simp [KeywordSet.lookup, noKeyword]),
      Lexeme.mark_readable (by decide)⟩
  have read := @Lexer.passes_of_lexemes _ (Lexer.ofSource keywords ("type T = " ++ source))
    source.toList (by rw [whole]; exact readable) (by rw [whole])
  rcases read with ⟨tokens, position, passes, lexemes, _, distance⟩
  rcases tokens with _ | ⟨first, _ | ⟨second, _ | ⟨third, _ | ⟨_, _⟩⟩⟩⟩
  case cons.cons.cons.nil =>
    have offset : position.offset = 9 := by
      rw [distance, whole]
      rfl
    simp only [List.map_cons, List.map_nil, List.cons.injEq, and_true] at lexemes
    refine ⟨first, second, third, _, passes.tokens, lexemes.1, lexemes.2.1, lexemes.2.2, ?_, ?_⟩
    · rw [← offset]
      exact passes.stops third (by simp)
    · rw [lex, lex, passes.ending, plain]
      refine Lexer.run_later _ 9 False _ ?_ rfl ?_
      · rw [whole]
      · rw [Later, offset]
        rfl
  all_goals simp at lexemes

theorem parseProgram_of_parseType {options : ParseOptions} {source : String} {type : TypeExpr}
    (reserved : options.keywords.reserves .typeWord = true)
    (noShebang : ¬['#', '!'] <+: source.toList) (parsed : parseType options source = .ok type) :
    ∃ statement, parseProgram options ("type T = " ++ source) =
        .ok ⟨⟨0, ("type T = " ++ source).utf8ByteSize⟩, [statement]⟩ ∧
      statement.IsAlias "T" (type.relocate (· + 9)) := by
  rcases lex_alias reserved noShebang with
    ⟨first, second, third, tokens, split, isType, isName, isEquals, stop, goOn⟩
  rcases Parse.run_eq_ok parsed with ⟨after, parsed⟩
  rcases Parse.whole_eq_ok parsed with ⟨read, last, seen, isEnd⟩
  let limit := options.nestingLimit
  let right := lex options.keywords ("type T = " ++ source)
  have stopBefore : ((Cursor.ofLexed right).skip 3).lastStop ≤ 9 := by
    have ahead : (Cursor.ofLexed right).ahead = first :: second :: third :: tokens := split
    have enough : 3 ≤ (Cursor.ofLexed right).ahead.length := by
      rw [ahead]
      exact Nat.le_add_left 3 tokens.length
    rw [(Cursor.skip_takes _ enough).lastStop, ahead]
    exact stop
  have rest : right.tokens.drop 3 = tokens := by
    rw [split]
    rfl
  rw [← rest] at goOn
  let runs := TwoRuns.ofLater limit 3 goOn stopBefore
  have nestings : runs.Nestings (.outermost (.ofLimit limit)) (.outermost (.ofLimit limit)) :=
    TwoRuns.nestings_outermost
  have outcome := nestings.type runs.related_beginning
  change runs.Outcome runs.Related _ ((Nesting.outermost (.ofLimit limit)).type
    (.ofLexed (lex options.keywords source))) _ at outcome
  rw [read] at outcome
  rcases outcome.exists_ok with ⟨otherType, otherAfter, otherRead, same, related⟩
  have moved : otherType = type.relocate (· + 9) :=
    (TypeExpr.relocate_id otherType).symm.trans same.symm
  rcases related.peek 0 with ⟨_, otherLast, _, again, otherSeen, alike, _⟩ | ⟨_, _, failed, _⟩ |
    ⟨_, failed, _⟩
  · cases seen.symm.trans again
    have otherEnd : otherLast.kind = .endOfFile := alike.kind.symm.trans isEnd
    rcases Parse.statements_of_alias split isType isName isEquals otherRead otherSeen otherEnd with
      ⟨_, parsed, statement, rfl, isAlias⟩
    refine ⟨statement, ?_, moved ▸ isAlias⟩
    rw [parseProgram, Parse.run_reaches ⟨_, parsed, rfl⟩]
    rfl
  · cases seen.symm.trans failed
  · cases seen.symm.trans failed

/-- A text that is one expression is a program of one statement, with the range and the tree of the
expression. A text that is one type may stand in a declaration, where every range is the one that
it has by itself, moved by the text before it. -/
theorem entries_agree (options : ParseOptions) (source : String) :
    (∀ value, parseExpression options source = .ok value →
      parseProgram options source =
        .ok ⟨⟨0, source.utf8ByteSize⟩, [.expression value.span value]⟩) ∧
    (options.keywords.reserves .typeWord = true → ¬['#', '!'] <+: source.toList →
      ∀ type, parseType options source = .ok type →
        ∃ statement, parseProgram options ("type T = " ++ source) =
            .ok ⟨⟨0, ("type T = " ++ source).utf8ByteSize⟩, [statement]⟩ ∧
          statement.IsAlias "T" (type.relocate (· + 9))) :=
  ⟨fun _ => parseProgram_of_parseExpression, fun reserved noShebang _ =>
    parseProgram_of_parseType reserved noShebang⟩

/-- A word that may begin a declaration begins an expression here, and a type with a line break in
it stands in a declaration. -/
theorem entries_agree_let :
    (∃ value, parseExpression .default "let [0] = x" = .ok value ∧
      parseProgram .default "let [0] = x" = .ok ⟨⟨0, 11⟩, [.expression value.span value]⟩) ∧
    ParseOptions.default.keywords.reserves .typeWord = true ∧
    ¬['#', '!'] <+: "A &\n \x7bb(): C[]\x7d".toList ∧
    ∃ type statement, parseType .default "A &\n \x7bb(): C[]\x7d" = .ok type ∧
      parseProgram .default "type T = A &\n \x7bb(): C[]\x7d" = .ok ⟨⟨0, 24⟩, [statement]⟩ ∧
      statement.IsAlias "T" (type.relocate (· + 9)) := by
  have expression : (parseExpression .default "let [0] = x").isOk = true := by decide +kernel
  have type : (parseType .default "A &\n \x7bb(): C[]\x7d").isOk = true := by decide +kernel
  have reserved : ParseOptions.default.keywords.reserves .typeWord = true := by decide
  have noShebang : ¬['#', '!'] <+: "A &\n \x7bb(): C[]\x7d".toList := by decide +kernel
  rcases exists_of_isOk expression with ⟨value, parsed⟩
  rcases exists_of_isOk type with ⟨type, typeParsed⟩
  refine ⟨⟨value, parsed, (entries_agree .default _).1 value parsed⟩, reserved, noShebang, type, ?_⟩
  rcases (entries_agree .default _).2 reserved noShebang type typeParsed with
    ⟨statement, program, isAlias⟩
  exact ⟨statement, typeParsed, program, isAlias⟩

end TypedScript
