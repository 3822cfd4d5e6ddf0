import TypedScript.Proofs.Angles.Expressions
import TypedScript.Proofs.Coordinates
import TypedScript.Proofs.EntryPoints
import TypedScript.Proofs.Lexing.Writing
import TypedScript.Proofs.Shape.Programs

/-!
Closing angle brackets in whole texts. Main statement: in the tree of a text, where the bracket that
closes the type arguments of an expression touches an equals sign, a comparison for equality comes
next, and nothing else that begins with an equals sign.
-/

namespace TypedScript

/-! What begins with an equals sign. -/

theorem Punctuator.equals_cases (mark : Punctuator)
    (begins : mark.spelling.toList.head? = some '=') :
    mark ∈ [Punctuator.equals, .arrow, .equalsEquals, .equalsEqualsEquals] := by
  have all : ∀ mark ∈ Punctuator.all, mark.spelling.toList.head? = some '=' →
      mark ∈ [Punctuator.equals, .arrow, .equalsEquals, .equalsEqualsEquals] := by
    decide +kernel
  exact all mark mark.mem_all begins

theorem Scan.scan_equals (keywords : KeywordSet) (rest : List Char) (here : Position) :
    ∃ scanned, scan keywords '=' rest here = .ok scanned ∧
      ∃ mark ∈ [Punctuator.equals, .arrow, .equalsEquals, .equalsEqualsEquals],
        scanned.kind = .punctuator mark := by
  have noQuote : isQuote '=' = false := by decide
  have noName : isIdentifierStart '=' = false := by decide +kernel
  have noNumber : (splitNumber ('=' :: rest)).1 = [] := rfl
  cases found : scan keywords '=' rest here with
  | error fault =>
      rw [scan_eq, if_neg (by simp [noQuote]), if_neg (by simp [noName])] at found
      simp only [noNumber, List.isEmpty_nil, if_true] at found
      split at found
      · next none =>
          have unfit := List.find?_eq_none.mp none .equals (by decide)
          exact absurd rfl unfit
      · cases found
  | ok scanned =>
      refine ⟨scanned, rfl, ?_⟩
      rcases scan_mark_or_number found noQuote noName with
        ⟨mark, after, _, fitting, rfl⟩ | ⟨_, number, _⟩
      · refine ⟨mark, mark.equals_cases ?_, rfl⟩
        have spelled := (scan_ok found).1
        have notEmpty := (scan_ok found).2
        simp only [plain] at spelled notEmpty
        cases shape : mark.spelling.toList with
        | nil => exact absurd shape notEmpty
        | cons first others =>
            rw [shape, List.cons_append] at spelled
            rw [List.head?_cons, (List.cons.inj spelled).1]
      · exact absurd noNumber number

def StandsAt (char : Char) (source : String) (offset : Nat) : Prop :=
  ∃ before after, source.toList = before ++ char :: after ∧ byteLength before = offset

theorem Lexer.run_touching {lexer : Lexer} {source : String} {read opening : List Char}
    (stands : lexer.Stands source read opening) {earlier later : List Token} {token : Token}
    (split : lexer.run.tokens = earlier ++ token :: later)
    (equals : StandsAt '=' source token.stop) :
    ∃ next ∈ later.head?, next.start = token.stop ∧ next.afterLineBreak = false ∧
      ∃ mark ∈ [Punctuator.equals, .arrow, .equalsEquals, .equalsEqualsEquals],
        next.kind = .punctuator mark := by
  induction lexer using Lexer.induction generalizing read opening earlier with
  | last lexer last =>
      have none : lexer.run.tokens = [] := by
        cases found : lexer.next with
        | error error => exact (run_of_fault found).1
        | ok step => exact (run_of_end found (last _ _ found)).1
      rw [none] at split
      simp at split
  | step lexer after first found more induction =>
      rcases stands.next found with ⟨_, passed, stop, standsAfter⟩
      rw [(run_of_token found more).1] at split
      cases earlier with
      | cons other earlier =>
          rcases List.cons.inj split with ⟨_, split⟩
          exact induction standsAfter split
      | nil =>
          rcases List.cons.inj split with ⟨rfl, rfl⟩
          rcases equals with ⟨before, rest, whole, length⟩
          have shape : after.rest = '=' :: rest := by
            have sameText := standsAfter.whole.symm.trans whole
            rw [List.nil_append] at sameText
            exact (eq_of_byteLength sameText (by rw [length, stop])).2
          have gap : after.gap = ⟨'=' :: rest, after.position, false⟩ := by
            rw [Lexer.gap, shape]
            exact Trivia.skip_solid (by decide) _ _ _
          rcases Scan.scan_equals after.keywords rest after.position with
            ⟨scanned, scans, mark, isMark, kind⟩
          have scansAtGap : Scan.scan after.keywords '=' rest after.gap.position = .ok scanned := by
            rw [gap]
            exact scans
          have next := next_of_scan (congrArg Trivia.Gap.rest gap) scansAtGap
          have tokens := (run_of_token next (Scan.scan_kind scans)).1
          rw [tokens]
          refine ⟨_, rfl, ?_, congrArg Trivia.Gap.brokeLine gap, mark, isMark, kind⟩
          have offset := standsAfter.offset
          rw [Token.start, gap, stop, offset, byteLength_nil, Nat.add_zero]

/-! Statements. -/

open Node

attribute [local grind =] Node.children Statement.children

attribute [local grind .] closed_identifier closed_moduleName closed_functionBody

namespace Parse

variable {lexed : Lexed} {nesting : Nesting} {before after : Cursor}

theorem statementEnd_not_atArrow {done : Unit} (parsed : statementEnd before = .ok done after) :
    ¬ before.AtArrow := by
  simp only [statementEnd, accept, bind_eq_ok, atMark_eq_ok] at parsed
  rcases parsed with ⟨found, between, ⟨_, _, ⟨⟨token, peeked, rfl⟩, rfl⟩, accepted⟩, parsed⟩
  split at accepted
  · next isSemicolon =>
      exact Cursor.not_atArrow_of_kind peeked (Token.isMark_iff.mp isSemicolon) (by decide)
  · rcases pure_eq_ok.mp accepted with ⟨rfl, rfl⟩
    simp only [Bool.false_eq_true, if_false, atStatementEnd, bind_eq_ok, current_eq_ok,
      pure_eq_ok] at parsed
    rcases parsed with ⟨_, _, ⟨_, _, ⟨again, rfl⟩, rfl, rfl⟩, parsed⟩
    cases peeked.symm.trans again
    split at parsed
    · next ends =>
        simp only [Bool.or_eq_true, decide_eq_true_eq] at ends
        rcases ends with ((isSemicolon | isBrace) | isEnd) | onNewLine
        · exact Cursor.not_atArrow_of_kind peeked (Token.isMark_iff.mp isSemicolon) (by decide)
        · exact Cursor.not_atArrow_of_kind peeked (Token.isMark_iff.mp isBrace) (by decide)
        · exact Cursor.not_atArrow_of_kind peeked isEnd (by decide)
        · exact Cursor.not_atArrow_of_break peeked onNewLine
    · exact absurd parsed unexpected_ne_ok

theorem closed_specifier {node : Node} (noExpression : node.isExpression = false)
    (children : ∃ specifier : Specifier, node.children =
      specifier.propertyName.toList.map .identifier ++ [.identifier specifier.name]) :
    node.Everywhere (AnglesClosed lexed) := by
  rcases children with ⟨specifier, children⟩
  refine closed_of_children noExpression fun child member => ?_
  rw [children] at member
  grind

theorem closed_importSpecifier (specifier : Specifier) :
    Closed lexed .importSpecifier specifier :=
  closed_specifier rfl ⟨specifier, rfl⟩

theorem closed_exportSpecifier (specifier : Specifier) :
    Closed lexed .exportSpecifier specifier :=
  closed_specifier rfl ⟨specifier, rfl⟩

theorem importDeclaration_closed : Yields importDeclaration (Closed lexed .statement) := by
  apply Yields.andThen
  intro start
  apply Yields.andThen
  intro word
  apply Yields.andThen
  intro clause
  apply Yields.andThen
  intro source
  apply Yields.andThen
  intro ended
  apply Yields.andThen
  intro span
  apply Yields.pure
  refine closed_of_children rfl fun child member => ?_
  grind [closed_importSpecifier]

theorem exportedNames_closed {start : Nat} :
    Yields (exportedNames start) (Closed lexed .statement) := by
  apply Yields.andThen
  intro specifiers
  apply Yields.andThen
  intro source
  apply Yields.andThen
  intro ended
  apply Yields.andThen
  intro span
  apply Yields.pure
  refine closed_of_children rfl fun child member => ?_
  grind [closed_exportSpecifier]

theorem interfaceDeclaration_closed (yields : nesting.YieldsTypes) :
    Yields (interfaceDeclaration nesting) (Closed lexed .statement) := by
  have extended : Yields (extendedTypes nesting) fun extended =>
      ∀ type ∈ extended, Typing .type type := by
    apply Yields.andThen
    intro found
    split
    · exact .repeated ((typeReference_typing yields).bind fun _ => Yields.commaTurn)
    · exact .pure (by simp)
  apply Yields.andThen
  intro start
  apply Yields.andThen
  intro word
  apply Yields.andThen
  intro name
  apply (typeParameters_typing yields).bind
  intro typeParameters typeParametersTyping
  apply extended.bind
  intro types typesTyping
  apply (typeMembers_typing yields).bind
  intro members membersTyping
  apply Yields.andThen
  intro span
  apply Yields.pure
  refine closed_of_children rfl fun child member => ?_
  grind [Expressionless.closed]

theorem typeAlias_closed (yields : nesting.YieldsTypes) :
    Yields (typeAlias nesting) (Closed lexed .statement) := by
  apply Yields.andThen
  intro start
  apply Yields.andThen
  intro word
  apply Yields.andThen
  intro name
  apply (typeParameters_typing yields).bind
  intro typeParameters typeParametersTyping
  apply Yields.andThen
  intro equals
  apply yields.type.bind
  intro aliased aliasedTyping
  apply Yields.andThen
  intro ended
  apply Yields.andThen
  intro span
  apply Yields.pure
  refine closed_of_children rfl fun child member => ?_
  grind [Expressionless.closed]

theorem functionDeclaration_closed (closes : nesting.ClosesAngles lexed) (on : before.On lexed)
    {value : Statement} (parsed : functionDeclaration nesting before = .ok value after) :
    Closed lexed .statement value := by
  simp only [functionDeclaration, bind_eq_ok, currentStart_eq_ok, spanFrom_eq_ok, pure_eq_ok]
    at parsed
  rcases parsed with ⟨_, _, ⟨_, rfl⟩, _, _, word, name, _, nameParsed, typeParameters, _,
    typeParametersParsed, list, _, listParsed, result, _, resultParsed, body, _, _, _, _, _, rfl, _⟩
  have reached := ((on.piece (expectKeyword_piece word)).formed (identifier_forms nameParsed)).reads
    (typeParameters_reads closes.reading) typeParametersParsed
  have typeParametersClosed : ∀ parameter ∈ typeParameters,
      Closed lexed .typeParameter parameter := fun parameter member =>
    ((typeParameters_typing closes.types).of_ok typeParametersParsed parameter member).closed
  have listClosed := (parameters_closed closes reached listParsed).1
  have resultClosed := (Yields.afterMark .colon closes.type).of_ok resultParsed
  refine closed_of_children rfl fun child member => ?_
  grind

theorem variableDeclaration_closed (closes : nesting.ClosesAngles lexed) {kind : VariableKind}
    (on : before.On lexed) {value : Statement}
    (parsed : variableDeclaration nesting kind before = .ok value after) :
    Closed lexed .statement value := by
  simp only [variableDeclaration, bind_eq_ok, currentStart_eq_ok, take_eq_ok, spanFrom_eq_ok,
    pure_eq_ok] at parsed
  rcases parsed with ⟨_, _, ⟨_, rfl⟩, _, _, ⟨_, rfl⟩, name, _, nameParsed, declaredType, _,
    typeParsed, initializer, _, initializerParsed, _, _, ended, _, _, _, rfl, _⟩
  have reached := (on.next.formed (identifier_forms nameParsed)).reads
    (declaredType?_reads closes.reading) typeParsed
  have typeClosed := (Yields.afterMark .colon closes.type).of_ok typeParsed
  have initializerClosed : ∀ value ∈ initializer, Closed lexed .expression value := by
    simp only [variableValue?, bind_eq_ok] at initializerParsed
    rcases initializerParsed with ⟨found, _, accepted, initializerParsed⟩
    split at initializerParsed
    · exact (closes.expression.present.of_ok (reached.piece (accept_piece accepted))
        initializerParsed).holds (statementEnd_not_atArrow ended)
    · split at initializerParsed
      · exact absurd initializerParsed unexpected_ne_ok
      · rcases pure_eq_ok.mp initializerParsed with ⟨rfl, _⟩
        simp
  refine closed_of_children rfl fun child member => ?_
  grind

theorem declaration?_closed (closes : nesting.ClosesAngles lexed) (on : before.On lexed)
    {found : Option Statement} (parsed : declaration? nesting before = .ok found after) :
    ∀ statement ∈ found, Closed lexed .statement statement := by
  have present {parser : Parse Statement} {before after : Cursor} {found : Option Statement}
      (closed : ∀ {value : Statement}, parser before = .ok value after →
        Closed lexed .statement value)
      (parsed : (some <$> parser) before = .ok found after) :
      ∀ statement ∈ found, Closed lexed .statement statement := by
    rcases map_eq_ok.mp parsed with ⟨value, read, rfl⟩
    rintro _ ⟨⟩
    exact closed read
  simp only [declaration?, bind_eq_ok, current_eq_ok] at parsed
  rcases parsed with ⟨token, _, ⟨_, rfl⟩, parsed⟩
  rcases exists_branch parsed with ⟨branch, chosen, parsed⟩
  split at chosen <;> subst chosen
  · exact present (interfaceDeclaration_closed closes.types).of_ok parsed
  · exact present (typeAlias_closed closes.types).of_ok parsed
  · exact present (functionDeclaration_closed closes on) parsed
  · exact present (variableDeclaration_closed closes on) parsed
  · rcases bind_eq_ok.mp parsed with ⟨isLet, _, looked, parsed⟩
    rcases (atLet_eq_ok looked).1 with rfl
    split at parsed
    · exact present (variableDeclaration_closed closes on) parsed
    · rcases pure_eq_ok.mp parsed with ⟨rfl, _⟩
      simp
  · rcases pure_eq_ok.mp parsed with ⟨rfl, _⟩
    simp

theorem exportDeclaration_closed (closes : nesting.ClosesAngles lexed) (on : before.On lexed)
    {value : Statement} (parsed : exportDeclaration nesting before = .ok value after) :
    Closed lexed .statement value := by
  simp only [exportDeclaration, bind_eq_ok, currentStart_eq_ok, atMark_eq_ok] at parsed
  rcases parsed with ⟨_, _, ⟨_, rfl⟩, _, _, word, hasNames, _, ⟨_, rfl⟩, parsed⟩
  have reached := on.piece (expectKeyword_piece word)
  split at parsed
  · exact exportedNames_closed.of_ok parsed
  · rcases bind_eq_ok.mp parsed with ⟨isDefault, _, accepted, parsed⟩
    have reached := reached.piece (acceptWord_piece accepted)
    split at parsed
    · simp only [bind_eq_ok, spanFrom_eq_ok, pure_eq_ok] at parsed
      rcases parsed with ⟨value, _, valueParsed, _, _, ended, _, _, _, rfl, _⟩
      have valueClosed := (closes.expression.of_ok reached valueParsed).holds
        (statementEnd_not_atArrow ended)
      refine closed_of_children rfl fun child member => ?_
      grind
    · rcases bind_eq_ok.mp parsed with ⟨found, _, declarationParsed, parsed⟩
      have declarationClosed := declaration?_closed closes reached declarationParsed
      cases found with
      | none => exact absurd parsed unexpected_ne_ok
      | some declaration =>
          simp only [bind_eq_ok, spanFrom_eq_ok, pure_eq_ok] at parsed
          rcases parsed with ⟨_, _, _, rfl, _⟩
          refine closed_of_children rfl fun child member => ?_
          grind

theorem returnStatement_closed (closes : nesting.ClosesAngles lexed) (on : before.On lexed)
    {value : Statement} (parsed : returnStatement nesting before = .ok value after) :
    Closed lexed .statement value := by
  simp only [returnStatement, returned?, bind_eq_ok, currentStart_eq_ok, spanFrom_eq_ok,
    pure_eq_ok] at parsed
  rcases parsed with ⟨_, _, ⟨_, rfl⟩, _, _, word, returned, _, ⟨atEnd, _, looked, returnedParsed⟩,
    _, _, ended, _, _, _, rfl, _⟩
  have reached := on.piece (expectKeyword_piece word)
  rcases atStatementEnd_eq_ok looked with rfl
  have returnedClosed : ∀ value ∈ returned, Closed lexed .expression value := by
    split at returnedParsed
    · rcases pure_eq_ok.mp returnedParsed with ⟨rfl, _⟩
      simp
    · exact (closes.expression.present.of_ok reached returnedParsed).holds
        (statementEnd_not_atArrow ended)
  refine closed_of_children rfl fun child member => ?_
  grind

theorem expressionStatement_closed (closes : nesting.ClosesAngles lexed) (on : before.On lexed)
    {value : Statement} (parsed : expressionStatement nesting before = .ok value after) :
    Closed lexed .statement value := by
  simp only [expressionStatement, bind_eq_ok, current_eq_ok] at parsed
  rcases parsed with ⟨token, _, ⟨_, rfl⟩, parsed⟩
  split at parsed
  · simp only [bind_eq_ok, spanFrom_eq_ok, pure_eq_ok] at parsed
    rcases parsed with ⟨value, _, valueParsed, _, _, ended, _, _, _, rfl, _⟩
    have valueClosed := (closes.expression.of_ok on valueParsed).holds
      (statementEnd_not_atArrow ended)
    refine closed_of_children rfl fun child member => ?_
    grind
  · exact absurd parsed unexpected_ne_ok

theorem statement_closed (closes : nesting.ClosesAngles lexed) (on : before.On lexed)
    {value : Statement} (parsed : statement nesting before = .ok value after) :
    Closed lexed .statement value := by
  simp only [statement, bind_eq_ok, current_eq_ok] at parsed
  rcases parsed with ⟨token, _, ⟨_, rfl⟩, parsed⟩
  rcases exists_branch parsed with ⟨branch, chosen, parsed⟩
  split at chosen <;> subst chosen
  · exact importDeclaration_closed.of_ok parsed
  · exact exportDeclaration_closed closes on parsed
  · exact returnStatement_closed closes on parsed
  · simp only [emptyStatement, bind_eq_ok, pure_eq_ok] at parsed
    rcases parsed with ⟨_, _, _, _, _, _, _, _, _, rfl, _⟩
    exact closed_leaf rfl rfl
  · rcases bind_eq_ok.mp parsed with ⟨found, _, declarationParsed, parsed⟩
    have declarationClosed := declaration?_closed closes on declarationParsed
    rcases declaration?_eq_ok closes.reading declarationParsed with ⟨_, rfl, _⟩ | ⟨rfl, rfl⟩
    · rcases pure_eq_ok.mp parsed with ⟨rfl, _⟩
      exact declarationClosed _ rfl
    · exact expressionStatement_closed closes on parsed

theorem statements_closed (closes : nesting.ClosesAngles lexed) (on : before.On lexed)
    {list : List Statement} (parsed : statements nesting before = .ok list after) :
    ∀ statement ∈ list, Closed lexed .statement statement := by
  refine repeated_induction (motive := fun list before _ => before.On lexed →
    ∀ statement ∈ list, Closed lexed .statement statement) ?_ parsed on
  intro before turned after parsed
  simp only [statementTurn, bind_eq_ok, current_eq_ok] at parsed
  rcases parsed with ⟨token, _, ⟨_, rfl⟩, parsed⟩
  split at parsed
  · rcases pure_eq_ok.mp parsed with ⟨rfl, _⟩
    exact fun _ => by simp
  · rcases map_eq_ok.mp parsed with ⟨value, valueParsed, rfl⟩
    have formed := statement_forms closes.reading valueParsed
    rcases formed with ⟨_, _, whole⟩
    refine ⟨whole.length_lt, fun others later rest on => ?_⟩
    exact List.forall_mem_cons.mpr
      ⟨statement_closed closes on valueParsed, rest (on.piece whole.piece)⟩

end Parse

/-! Whole texts. -/

/-- The token that closes type arguments: the first one that stands after the last of them. -/
def Lexed.closingAngle? (lexed : Lexed) (types : List TypeExpr) : Option Token :=
  types.getLast?.bind fun last => lexed.tokens.find? fun token => last.span.stop ≤ token.start

/-- If the node has type arguments, a closing angle bracket ends them. What begins with an equals
sign that touches the bracket is a comparison for equality. -/
def Node.TypesBeforeEquality (source : String) (lexed : Lexed) : Node → Prop
  | .expression content => ∀ types, content.typeArguments? = some types →
      ∃ closing, lexed.closingAngle? types = some closing ∧
        closing.isMark .greaterThan = true ∧
        (StandsAt '=' source closing.stop → ∃ next ∈ lexed.tokens, next.start = closing.stop ∧
          (next.isMark .equalsEquals = true ∨ next.isMark .equalsEqualsEquals = true))
  | _ => True

section Closing

variable {lexed : Lexed} {types : List TypeExpr}

theorem TypesClosed.closingAngle? (inOrder : InOrder lexed.tokens)
    (closed : TypesClosed lexed types) :
    ∃ earlier closing later, lexed.tokens = earlier ++ closing :: later ∧
      lexed.closingAngle? types = some closing ∧ closing.isMark .greaterThan = true ∧
      ∀ next ∈ later.head?, closing.Clears next := by
  rcases closed with ⟨earlier, closing, later, split, isMark, ⟨last, isLast, stop⟩, clears⟩
  refine ⟨earlier, closing, later, split, ?_, isMark, clears⟩
  rw [split] at inOrder
  have apart := List.pairwise_append.mp inOrder.ordered
  rw [Lexed.closingAngle?, isLast, Option.bind_some, List.find?_eq_some_iff_append]
  refine ⟨?_, earlier, later, split, fun token member => ?_⟩
  · rw [stop, decide_eq_true_iff]
    cases earlier with
    | nil => exact Nat.zero_le _
    | cons first rest =>
        have firstInOrder := inOrder.of_sublist (List.sublist_append_left _ _)
        rcases firstInOrder.stopAfter_spec.1 with ⟨token, member, reaches⟩
        rw [stopAfter_cons, ← reaches]
        exact apart.2.2 token member closing (by simp)
  · have firstInOrder := inOrder.of_sublist (List.sublist_append_left _ _)
    have nonempty := firstInOrder.nonempty token member
    rw [stop, Bool.not_eq_true', decide_eq_false_iff_not]
    cases earlier with
    | nil => cases member
    | cons first rest =>
        have bound := firstInOrder.stopAfter_spec.2 token member
        rw [stopAfter_cons]
        omega

/-- Of the four tokens that an equals sign may begin, the bracket is clear of two. -/
theorem Node.AnglesClosed.beforeEquality {keywords : KeywordSet} {source : String} {node : Node}
    (closed : node.AnglesClosed (lex keywords source)) :
    node.TypesBeforeEquality source (lex keywords source) := by
  cases node with
  | expression content =>
      intro types typed
      rcases (closed types typed).closingAngle? (lex_inOrder keywords source) with
        ⟨earlier, closing, later, split, found, isMark, clears⟩
      refine ⟨closing, found, isMark, fun touches => ?_⟩
      rcases Lexer.ofSource_stands keywords source with ⟨opening, stands⟩
      rcases Lexer.run_touching stands split touches with
        ⟨next, isNext, start, sameLine, mark, begins, kind⟩
      have member : next ∈ (lex keywords source).tokens := by
        rw [split]
        simp [List.mem_of_mem_head? isNext]
      refine ⟨next, member, start, ?_⟩
      have clear := clears next isNext
      simp only [List.mem_cons, List.not_mem_nil, or_false] at begins
      rcases begins with rfl | rfl | rfl | rfl
      · exact absurd start (clear.equals (Token.isMark_iff.mpr kind))
      · rw [clear.arrow (Token.isMark_iff.mpr kind)] at sameLine
        cases sameLine
      · exact .inl (Token.isMark_iff.mpr kind)
      · exact .inr (Token.isMark_iff.mpr kind)
  | _ => trivial

end Closing

/-- In the trees of programs and of expressions, the bracket that closes the type arguments of an
expression touches no equals sign but that of a comparison for equality. -/
theorem types_before_equality (options : ParseOptions) (source : String) :
    (∀ program, parseProgram options source = .ok program →
      (Node.program program).Everywhere
        (Node.TypesBeforeEquality source (lex options.keywords source))) ∧
    ∀ value, parseExpression options source = .ok value →
      (Node.expression value).Everywhere
        (Node.TypesBeforeEquality source (lex options.keywords source)) := by
  have closes := Nesting.ofRoom_closesAngles (lex options.keywords source)
    (.ofLimit options.nestingLimit) options.nestingLimit
  have on : (Cursor.ofLexed (lex options.keywords source)).On (lex options.keywords source) :=
    ⟨lex_inOrder _ _, 0, rfl⟩
  refine ⟨fun program parsed => ?_, fun value parsed => ?_⟩
  · unfold parseProgram at parsed
    cases result : Parse.run options source Parse.statements with
    | error =>
        rw [result] at parsed
        cases parsed
    | ok list =>
        rw [result] at parsed
        cases parsed
        rcases Parse.run_eq_ok result with ⟨after, read⟩
        have listClosed := Parse.statements_closed closes on read
        have closed : Closed (lex options.keywords source) Node.program
            ⟨⟨0, source.utf8ByteSize⟩, list⟩ := by
          refine Node.closed_of_children rfl fun child member => ?_
          grind
        exact fun below member => (closed below member).beforeEquality
  · rcases Parse.run_eq_ok parsed with ⟨after, read⟩
    rcases Parse.whole_eq_ok read with ⟨read, last, seen, isEnd⟩
    have closed := (closes.expression.of_ok on read).holds
      (Cursor.not_atArrow_of_kind seen isEnd nofun)
    exact fun below member => (closed below member).beforeEquality

theorem types_before_equality_calls :
    (∃ program, parseProgram .default "let x = new A<B>(c); d<E>(f) == g<H>" = .ok program ∧
      (Node.program program).Everywhere (Node.TypesBeforeEquality
        "let x = new A<B>(c); d<E>(f) == g<H>" (lex .full "let x = new A<B>(c); d<E>(f) == g<H>"))) ∧
    ∃ value, parseExpression .default "f<T>==x" = .ok value ∧
      (Node.expression value).Everywhere
        (Node.TypesBeforeEquality "f<T>==x" (lex .full "f<T>==x")) := by
  have programAccepted :
      (parseProgram .default "let x = new A<B>(c); d<E>(f) == g<H>").isOk = true := by
    decide +kernel
  have valueAccepted : (parseExpression .default "f<T>==x").isOk = true := by decide +kernel
  rcases exists_of_isOk programAccepted with ⟨program, programParsed⟩
  rcases exists_of_isOk valueAccepted with ⟨value, valueParsed⟩
  exact ⟨⟨program, programParsed, (types_before_equality _ _).1 program programParsed⟩,
    ⟨value, valueParsed, (types_before_equality _ _).2 value valueParsed⟩⟩

/-- The operand on the left and its type argument, if it has one and nothing is done with it. -/
def Expression.instantiated? : Expression → Option (Expression × TypeExpr)
  | .binary _ (.instantiation span base [argument]) _ _ =>
      some (.instantiation span base [argument], argument)
  | _ => none

theorem Expression.instantiated?_eq_some {value function : Expression} {argument : TypeExpr}
    (found : value.instantiated? = some (function, argument)) :
    .expression function ∈ (Node.expression value).preorder ∧
      function.typeArguments? = some [argument] := by
  unfold instantiated? at found
  split at found
  · cases found
    refine ⟨?_, rfl⟩
    rw [Node.preorder_eq]
    refine List.mem_cons_of_mem _ (List.mem_flatMap.mpr ⟨_, List.mem_cons_self .., ?_⟩)
    rw [Node.preorder_eq]
    exact List.mem_cons_self ..
  · cases found

/-- An equals sign does touch the bracket where a comparison for equality begins with it. -/
theorem types_touch_equality :
    ∃ value function types closing, parseExpression .default "f<T>==x" = .ok value ∧
      .expression function ∈ (Node.expression value).preorder ∧
      function.typeArguments? = some types ∧
      (lex .full "f<T>==x").closingAngle? types = some closing ∧
      StandsAt '=' "f<T>==x" closing.stop := by
  have accepted : (parseExpression .default "f<T>==x").toOption.any (fun value =>
      value.instantiated?.any (·.2.span.stop == 3)) = true := by
    decide +kernel
  have closed : ((lex .full "f<T>==x").tokens.find? fun token => 3 ≤ token.start).any
      (·.stop == 4) = true := by decide +kernel
  rcases (Option.any_eq_true ..).mp accepted with ⟨value, parsed, accepted⟩
  rcases (Option.any_eq_true ..).mp accepted with ⟨⟨function, argument⟩, found, argumentStop⟩
  rcases (Option.any_eq_true ..).mp closed with ⟨closing, isClosing, stop⟩
  rcases Expression.instantiated?_eq_some found with ⟨within, typed⟩
  rw [beq_iff_eq] at argumentStop stop
  refine ⟨value, function, [argument], closing, ?_, within, typed, ?_, ?_⟩
  · cases result : parseExpression .default "f<T>==x" with
    | ok other =>
        rw [result] at parsed
        exact congrArg Except.ok (Option.some.inj parsed)
    | error error =>
        rw [result] at parsed
        cases parsed
  · rw [Lexed.closingAngle?, List.getLast?_singleton, Option.bind_some, argumentStop]
    exact isClosing
  · exact ⟨['f', '<', 'T', '>'], ['=', 'x'], rfl, stop ▸ rfl⟩

end TypedScript
