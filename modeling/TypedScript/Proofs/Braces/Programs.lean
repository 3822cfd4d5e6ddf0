import TypedScript.Proofs.Braces.Expressions
import TypedScript.Proofs.EntryPoints
import TypedScript.Proofs.History
import TypedScript.Proofs.Lexing.Writing
import TypedScript.Proofs.Recorded
import TypedScript.Tree.Untagged
import TypedScript.Proofs.Reading.Statements
import TypedScript.Proofs.Shape.Programs

/-!
The bodies in whole texts. Main statement: in every tree that can be read from a text, the tokens
within the range of a body are a pair of braces that match and what stands between them, and the
body says how many these are.
-/

namespace TypedScript

open Node

attribute [local grind =] Node.children Statement.children

attribute [local grind .] braced_identifier braced_moduleName

namespace Parse

variable {lexed : Lexed} {nesting : Nesting}

/-! Imports and exports of names. -/

theorem braced_importSpecifier (specifier : Specifier) :
    Braced lexed .importSpecifier specifier := by
  refine everywhere_iff.mpr ⟨trivial, fun child member => ?_⟩
  grind

theorem braced_exportSpecifier (specifier : Specifier) :
    Braced lexed .exportSpecifier specifier := by
  refine everywhere_iff.mpr ⟨trivial, fun child member => ?_⟩
  grind

theorem importDeclaration_braced :
    YieldsIn lexed importDeclaration (Braced lexed .statement) := by
  have : Skips importDeclaration := .of_reads importDeclaration_forms.reads
  apply YieldsIn.of_yields
  apply Yields.andThen
  intro start
  apply Yields.andThen
  intro word
  apply Yields.andThen
  intro clause
  apply Yields.andThen
  intro source
  apply Yields.andThen
  intro ended
  apply Yields.andThen
  intro span
  refine .pure (everywhere_iff.mpr ⟨trivial, fun child member => ?_⟩)
  grind [braced_importSpecifier]

theorem exportedNames_braced {start : Nat} :
    YieldsIn lexed (exportedNames start) (Braced lexed .statement) := by
  apply YieldsIn.andThen
  intro specifiers
  apply YieldsIn.andThen
  intro source
  apply YieldsIn.andThen
  intro ended
  apply YieldsIn.andThen
  intro span
  refine .pure (everywhere_iff.mpr ⟨trivial, fun child member => ?_⟩)
  grind [braced_exportSpecifier]

/-! Declarations. -/

theorem interfaceDeclaration_braced (braced : nesting.YieldsBraced lexed) :
    YieldsIn lexed (interfaceDeclaration nesting) (Braced lexed .statement) := by
  have : Skips (interfaceDeclaration nesting) :=
    .of_reads (interfaceDeclaration_forms braced.reading).reads
  have extended : Yields (extendedTypes nesting) fun extended =>
      ∀ type ∈ extended, Typing .type type := by
    apply Yields.andThen
    intro found
    split
    · exact .repeated ((typeReference_typing braced.types).bind fun _ => Yields.commaTurn)
    · exact .pure (by simp)
  apply YieldsIn.of_yields
  apply Yields.andThen
  intro start
  apply Yields.andThen
  intro word
  apply Yields.andThen
  intro name
  apply (typeParameters_typing braced.types).bind
  intro typeParameters typeParametersTyping
  apply extended.bind
  intro types typesTyping
  apply (typeMembers_typing braced.types).bind
  intro members membersTyping
  apply Yields.andThen
  intro span
  refine .pure (everywhere_iff.mpr ⟨trivial, fun child member => ?_⟩)
  grind [Expressionless.braced, isPlain]

theorem typeAlias_braced (braced : nesting.YieldsBraced lexed) :
    YieldsIn lexed (typeAlias nesting) (Braced lexed .statement) := by
  have : Skips (typeAlias nesting) := .of_reads (typeAlias_forms braced.reading).reads
  apply YieldsIn.of_yields
  apply Yields.andThen
  intro start
  apply Yields.andThen
  intro word
  apply Yields.andThen
  intro name
  apply (typeParameters_typing braced.types).bind
  intro typeParameters typeParametersTyping
  apply Yields.andThen
  intro equals
  apply braced.types.type.bind
  intro aliased aliasedTyping
  apply Yields.andThen
  intro ended
  apply Yields.andThen
  intro span
  refine .pure (everywhere_iff.mpr ⟨trivial, fun child member => ?_⟩)
  grind [Expressionless.braced, isPlain]

theorem bodyOrEnd_braced : YieldsIn lexed bodyOrEnd fun found =>
    ∀ body ∈ found, Braced lexed .functionBody body := by
  apply YieldsIn.andThen
  intro opens
  split
  · exact functionBody_braced.present
  · apply YieldsIn.andThen
    intro ends
    split
    · apply YieldsIn.andThen
      intro ended
      exact .absent
    · exact .unexpected

theorem functionDeclaration_braced (braced : nesting.YieldsBraced lexed) :
    YieldsIn lexed (functionDeclaration nesting) (Braced lexed .statement) := by
  have : Skips (typeParameters nesting) := .of_reads (typeParameters_reads braced.reading)
  apply YieldsIn.andThen
  intro start
  apply YieldsIn.andThen
  intro word
  apply YieldsIn.andThen
  intro name
  apply (YieldsIn.of_yields (typeParameters_typing braced.types)).bind
  intro typeParameters typeParametersTyping
  apply (parameters_braced braced true).bind
  intro parameters parametersBraced
  apply (declaredType?_braced braced).bind
  intro result resultBraced
  apply bodyOrEnd_braced.bind
  intro body bodyBraced
  apply YieldsIn.andThen
  intro span
  refine .pure (everywhere_iff.mpr ⟨trivial, fun child member => ?_⟩)
  grind [Expressionless.braced, isPlain]

theorem variableDeclaration_braced (braced : nesting.YieldsBraced lexed) {kind : VariableKind} :
    YieldsIn lexed (variableDeclaration nesting kind) (Braced lexed .statement) := by
  have initializers : YieldsIn lexed (variableValue? nesting kind) fun found =>
      ∀ value ∈ found, Braced lexed .expression value := by
    apply YieldsIn.andThen
    intro found
    split
    · exact braced.expression.present
    · split
      · exact .unexpected
      · exact .absent
  apply YieldsIn.andThen
  intro start
  apply YieldsIn.andThen
  intro word
  apply YieldsIn.andThen
  intro name
  apply (declaredType?_braced braced).bind
  intro declaredType typeBraced
  apply initializers.bind
  intro initializer initializerBraced
  apply YieldsIn.andThen
  intro ended
  apply YieldsIn.andThen
  intro span
  refine .pure (everywhere_iff.mpr ⟨trivial, fun child member => ?_⟩)
  grind

theorem declaration?_braced (braced : nesting.YieldsBraced lexed) :
    YieldsIn lexed (declaration? nesting) fun found =>
      ∀ statement ∈ found, Braced lexed .statement statement := by
  apply YieldsIn.andThen
  intro token
  split
  · exact (interfaceDeclaration_braced braced).present
  · exact (typeAlias_braced braced).present
  · exact (functionDeclaration_braced braced).present
  · exact (variableDeclaration_braced braced).present
  · apply YieldsIn.andThen
    intro isLet
    split
    · exact (variableDeclaration_braced braced).present
    · exact .absent
  · exact .absent

/-! All statements. -/

theorem exportDeclaration_braced (braced : nesting.YieldsBraced lexed) :
    YieldsIn lexed (exportDeclaration nesting) (Braced lexed .statement) := by
  apply YieldsIn.andThen
  intro start
  apply YieldsIn.andThen
  intro word
  apply YieldsIn.andThen
  intro hasNames
  split
  · exact exportedNames_braced
  · apply YieldsIn.andThen
    intro isDefault
    split
    · apply braced.expression.bind
      intro value valueBraced
      apply YieldsIn.andThen
      intro ended
      apply YieldsIn.andThen
      intro span
      refine .pure (everywhere_iff.mpr ⟨trivial, fun child member => ?_⟩)
      grind
    · apply (declaration?_braced braced).bind
      intro found foundBraced
      split
      · next declaration =>
          have declarationBraced := foundBraced declaration rfl
          apply YieldsIn.andThen
          intro span
          refine .pure (everywhere_iff.mpr ⟨trivial, fun child member => ?_⟩)
          grind
      · exact .unexpected

theorem returnStatement_braced (braced : nesting.YieldsBraced lexed) :
    YieldsIn lexed (returnStatement nesting) (Braced lexed .statement) := by
  have returned : YieldsIn lexed (returned? nesting) fun found =>
      ∀ value ∈ found, Braced lexed .expression value := by
    apply YieldsIn.andThen
    intro ends
    split
    · exact .absent
    · exact braced.expression.present
  apply YieldsIn.andThen
  intro start
  apply YieldsIn.andThen
  intro word
  apply returned.bind
  intro value valueBraced
  apply YieldsIn.andThen
  intro ended
  apply YieldsIn.andThen
  intro span
  refine .pure (everywhere_iff.mpr ⟨trivial, fun child member => ?_⟩)
  grind

theorem emptyStatement_braced : YieldsIn lexed emptyStatement (Braced lexed .statement) := by
  apply YieldsIn.andThen
  intro start
  apply YieldsIn.andThen
  intro semicolon
  apply YieldsIn.andThen
  intro span
  exact .pure (braced_leaf trivial rfl)

theorem expressionStatement_braced (braced : nesting.YieldsBraced lexed) :
    YieldsIn lexed (expressionStatement nesting) (Braced lexed .statement) := by
  apply YieldsIn.andThen
  intro token
  split
  · apply braced.expression.bind
    intro value valueBraced
    apply YieldsIn.andThen
    intro ended
    apply YieldsIn.andThen
    intro span
    refine .pure (everywhere_iff.mpr ⟨trivial, fun child member => ?_⟩)
    grind
  · exact .unexpected

theorem statement_braced (braced : nesting.YieldsBraced lexed) :
    YieldsIn lexed (statement nesting) (Braced lexed .statement) := by
  apply YieldsIn.andThen
  intro token
  split
  · exact importDeclaration_braced
  · exact exportDeclaration_braced braced
  · exact returnStatement_braced braced
  · exact emptyStatement_braced
  · apply (declaration?_braced braced).bind
    intro found foundBraced
    split
    · next declaration => exact .pure (foundBraced declaration rfl)
    · exact expressionStatement_braced braced

theorem statements_braced (braced : nesting.YieldsBraced lexed) :
    YieldsIn lexed (statements nesting) fun list =>
      ∀ statement ∈ list, Braced lexed .statement statement := by
  apply YieldsIn.repeated
  apply YieldsIn.andThen
  intro token
  split
  · exact .pure trivial
  · exact (statement_braced braced).map fun _ statementBraced => statementBraced

end Parse

/-! Whole texts. -/

theorem Fragment.parser_braced {lexed : Lexed} {nesting : Nesting}
    (braced : nesting.YieldsBraced lexed) (kind : Kind) :
    YieldsIn lexed (parser nesting kind) fun fragment =>
      fragment.node.Everywhere (BodyMatches lexed) := by
  cases kind with
  | type => exact braced.type.map fun _ typeBraced => typeBraced
  | expression => exact braced.expression.map fun _ valueBraced => valueBraced

/-! As they are stored. -/

def Node.StoredBodyMatches (lexed : Lexed) : Node → Prop
  | .functionBody content => content.stored.untagged.Matches lexed
  | _ => True

theorem FunctionBody.Matches.stored {lexed : Lexed} {body : FunctionBody}
    (bodyMatches : body.Matches lexed) (few : lexed.tokens.length < Numeral.bound32) :
    body.stored.untagged.Matches lexed := by
  have counted := bodyMatches.count
  have within : (lexed.within body.span).length ≤ lexed.tokens.length :=
    List.length_filter_le _ _
  have fits : low32 body.tokenCount = body.tokenCount := low32_of_lt (by omega)
  have same : body.stored.untagged = body := by
    simp only [FunctionBody.stored, Stored.FunctionBody.untagged, fits]
  rw [same]
  exact bodyMatches

theorem Node.Everywhere.storedBodies {lexed : Lexed} {node : Node}
    (bodies : node.Everywhere (BodyMatches lexed)) (few : lexed.tokens.length < Numeral.bound32) :
    node.Everywhere (StoredBodyMatches lexed) := by
  intro below member
  have own := bodies below member
  cases below with
  | functionBody content => exact own.stored few
  | _ => trivial

namespace Machine

/-- In every tree of a text that is shorter than 2^32 bytes, each body begins with an opening brace
and ends with the brace that matches it, and counts the tokens between them. -/
theorem bodies_match (options : ParseOptions) {source : String}
    (short : source.utf8ByteSize < Numeral.bound32) :
    let holds := StoredBodyMatches (lexRecorded options.keywords source)
    (∀ program, parseProgram options source = .ok program →
      ∃ tree : Program, program = tree.stored ∧ (Node.program tree).Everywhere holds) ∧
    (∀ type, parseType options source = .ok type →
      ∃ tree : TypeExpr, type = tree.stored ∧ (Node.type tree).Everywhere holds) ∧
    (∀ value, parseExpression options source = .ok value →
      ∃ tree : Expression, value = tree.stored ∧ (Node.expression tree).Everywhere holds) ∧
    ∀ history kind fragment,
      (answer options (after options (start options.keywords source) history) kind).1 =
        .ok fragment →
      ∃ tree : Fragment, fragment = tree.stored ∧ tree.node.Everywhere holds := by
  intro holds
  have few := Nat.lt_of_le_of_lt (lexRecorded_length_le options.keywords source) short
  have inOrder := lexRecorded_inOrder options.keywords short
  have braced := Nesting.ofRoom_yieldsBraced (lexRecorded options.keywords source)
    (.ofLimit options.nestingLimit) options.nestingLimit
  have on : (Cursor.ofLexed (lexRecorded options.keywords source)).On
      (lexRecorded options.keywords source) := ⟨inOrder, 0, rfl⟩
  refine ⟨?_, ?_, ?_, ?_⟩
  · intro program parsed
    rw [parseProgram_eq] at parsed
    rcases result_eq_ok.mp parsed with ⟨list, after, read, rfl⟩
    have listBraced := ((Parse.statements_braced braced).of_ok on read).1
    refine ⟨_, rfl, Node.Everywhere.storedBodies ?_ few⟩
    exact everywhere_iff.mpr ⟨trivial, fun child member => by grind⟩
  · intro type parsed
    rw [parseType_eq] at parsed
    rcases result_eq_ok.mp parsed with ⟨tree, after, read, rfl⟩
    exact ⟨tree, rfl, (braced.type.of_ok on (Parse.whole_eq_ok read).1).1.storedBodies few⟩
  · intro value parsed
    rw [parseExpression_eq] at parsed
    rcases result_eq_ok.mp parsed with ⟨tree, after, read, rfl⟩
    exact ⟨tree, rfl, (braced.expression.of_ok on (Parse.whole_eq_ok read).1).1.storedBodies few⟩
  · intro history kind fragment answered
    rcases after_history options source history with ⟨count, _, state⟩
    rw [state, answer_eq] at answered
    split at answered
    · next tree later read =>
        cases answered
        have own := ((Fragment.parser_braced braced kind).of_ok ⟨inOrder, count, rfl⟩ read).1
        exact ⟨tree, rfl, own.storedBodies few⟩
    · cases answered

theorem bodies_match_nested :
    "function f() \x7b \x7b '\x7d' \x7d /* \x7d */ \x7d g".utf8ByteSize < Numeral.bound32 ∧
      ∃ program tree, parseProgram .default
          "function f() \x7b \x7b '\x7d' \x7d /* \x7d */ \x7d g" = .ok program ∧
        program = tree.stored ∧ (Node.program tree).Everywhere (StoredBodyMatches
          (lexRecorded .full "function f() \x7b \x7b '\x7d' \x7d /* \x7d */ \x7d g")) := by
  have short : "function f() \x7b \x7b '\x7d' \x7d /* \x7d */ \x7d g".utf8ByteSize <
      Numeral.bound32 := by decide +kernel
  have accepted : (parseProgram .default
      "function f() \x7b \x7b '\x7d' \x7d /* \x7d */ \x7d g").isOk = true := by decide +kernel
  rcases exists_of_isOk accepted with ⟨program, parsed⟩
  rcases (bodies_match .default short).1 program parsed with ⟨tree, same, bodies⟩
  exact ⟨short, program, tree, parsed, same, bodies⟩

end Machine

/-! A body by recorded offsets alone. The end of the text may lie at the end of a body; and offsets
that 32 bits do not hold may lie anywhere. -/

/-- A function whose body is empty, a semicolon, and a name after many blanks. -/
def distantName (count : Nat) : String :=
  String.ofList ("a=>\x7b\x7d;".toList ++ (List.replicate count ' ' ++ ['b']))

theorem lex_distantName (count : Nat) :
    (lex .full (distantName count)).tokens =
        [⟨.identifier, "a", ⟨0, 1, 1⟩, 1, false, false⟩,
          ⟨.punctuator .arrow, "=>", ⟨1, 1, 2⟩, 3, false, false⟩,
          ⟨.punctuator .openBrace, "\x7b", ⟨3, 1, 4⟩, 4, false, false⟩,
          ⟨.punctuator .closeBrace, "\x7d", ⟨4, 1, 5⟩, 5, false, false⟩,
          ⟨.punctuator .semicolon, ";", ⟨5, 1, 6⟩, 6, false, false⟩,
          ⟨.identifier, "b", ⟨6 + count, 1, 7 + count⟩, 7 + count, false, false⟩] ∧
      (lex .full (distantName count)).ending =
        .endOfFile ⟨.endOfFile, "", ⟨7 + count, 1, 8 + count⟩, 7 + count, false, false⟩ := by
  have whole : Lexer.ofSource .full (distantName count) =
      ⟨.full, "a=>\x7b\x7d;".toList ++ (List.replicate count ' ' ++ ['b']), .origin⟩ := by
    have plain (rest : List Char) : Lexer.ofChars .full ("a=>\x7b\x7d;".toList ++ rest) =
        ⟨.full, "a=>\x7b\x7d;".toList ++ rest, .origin⟩ := rfl
    have chars : (distantName count).toList =
        "a=>\x7b\x7d;".toList ++ (List.replicate count ' ' ++ ['b']) := String.toList_ofList
    rw [Lexer.ofSource, chars]
    exact plain _
  have name (rest : List Char) : (Lexer.mk .full ("a=>\x7b\x7d;".toList ++ rest) .origin).next =
      .ok (⟨.identifier, "a", ⟨0, 1, 1⟩, 1, false, false⟩,
        ⟨.full, "=>\x7b\x7d;".toList ++ rest, ⟨1, 1, 2⟩⟩) := rfl
  have arrow (rest : List Char) : (Lexer.mk .full ("=>\x7b\x7d;".toList ++ rest) ⟨1, 1, 2⟩).next =
      .ok (⟨.punctuator .arrow, "=>", ⟨1, 1, 2⟩, 3, false, false⟩,
        ⟨.full, "\x7b\x7d;".toList ++ rest, ⟨3, 1, 4⟩⟩) := rfl
  have opening (rest : List Char) : (Lexer.mk .full ("\x7b\x7d;".toList ++ rest) ⟨3, 1, 4⟩).next =
      .ok (⟨.punctuator .openBrace, "\x7b", ⟨3, 1, 4⟩, 4, false, false⟩,
        ⟨.full, "\x7d;".toList ++ rest, ⟨4, 1, 5⟩⟩) := rfl
  have closing (rest : List Char) : (Lexer.mk .full ("\x7d;".toList ++ rest) ⟨4, 1, 5⟩).next =
      .ok (⟨.punctuator .closeBrace, "\x7d", ⟨4, 1, 5⟩, 5, false, false⟩,
        ⟨.full, ";".toList ++ rest, ⟨5, 1, 6⟩⟩) := rfl
  have semicolon (rest : List Char) : (Lexer.mk .full (";".toList ++ rest) ⟨5, 1, 6⟩).next =
      .ok (⟨.punctuator .semicolon, ";", ⟨5, 1, 6⟩, 6, false, false⟩,
        ⟨.full, rest, ⟨6, 1, 7⟩⟩) := rfl
  have last (offset column : Nat) : (Lexer.mk .full ['b'] ⟨offset, 1, column⟩).next =
      .ok (⟨.identifier, "b", ⟨offset, 1, column⟩, offset + 1, false, false⟩,
        ⟨.full, [], ⟨offset + 1, 1, column + 1⟩⟩) := rfl
  have finished (place : Position) : (Lexer.mk .full [] place).next = .ok (⟨.endOfFile, "", place,
      place.offset, false, false⟩, ⟨.full, [], place⟩) := rfl
  have distance := Lexer.run_of_blanks .full ['b'] ⟨6, 1, 7⟩ count
  have offset : 6 + count + 1 = 7 + count := by omega
  have column : 7 + count + 1 = 8 + count := by omega
  rw [lex, whole]
  constructor
  · rw [(Lexer.run_of_token (name _) (by decide)).1, (Lexer.run_of_token (arrow _) (by decide)).1,
      (Lexer.run_of_token (opening _) (by decide)).1,
      (Lexer.run_of_token (closing _) (by decide)).1,
      (Lexer.run_of_token (semicolon _) (by decide)).1, distance.1,
      (Lexer.run_of_token (last _ _) (by simp)).1, (Lexer.run_of_end (finished _) rfl).1, offset]
  · rw [(Lexer.run_of_token (name _) (by decide)).2, (Lexer.run_of_token (arrow _) (by decide)).2,
      (Lexer.run_of_token (opening _) (by decide)).2,
      (Lexer.run_of_token (closing _) (by decide)).2,
      (Lexer.run_of_token (semicolon _) (by decide)).2, distance.2,
      (Lexer.run_of_token (last _ _) (by simp)).2, (Lexer.run_of_end (finished _) rfl).2, offset,
      column]

def distantTokens : List Token :=
  [⟨.identifier, "a", ⟨0, 1, 1⟩, 1, false, false⟩,
    ⟨.punctuator .arrow, "=>", ⟨1, 1, 2⟩, 3, false, false⟩,
    ⟨.punctuator .openBrace, "\x7b", ⟨3, 1, 4⟩, 4, false, false⟩,
    ⟨.punctuator .closeBrace, "\x7d", ⟨4, 1, 5⟩, 5, false, false⟩,
    ⟨.punctuator .semicolon, ";", ⟨5, 1, 6⟩, 6, false, false⟩,
    ⟨.identifier, "b", ⟨3, 1, 4⟩, 4, false, false⟩]

def distantEnding : Ending :=
  .endOfFile ⟨.endOfFile, "", ⟨4, 1, 5⟩, 4, false, false⟩

theorem lexRecorded_distantName :
    (lexRecorded .full (distantName (2 ^ 32 - 3))).tokens = distantTokens ∧
      (lexRecorded .full (distantName (2 ^ 32 - 3))).ending = distantEnding := by
  have lexed := lex_distantName (2 ^ 32 - 3)
  unfold lexRecorded Lexed.low32
  dsimp only
  rw [lexed.1, lexed.2]
  decide +kernel

def distantLexed : Lexed where
  tokens := distantTokens
  ending := distantEnding
  wellFormed := lexRecorded_distantName.1 ▸ (lexRecorded _ _).wellFormed
  endingWellFormed := lexRecorded_distantName.2 ▸ (lexRecorded _ _).endingWellFormed

namespace Machine

theorem parseProgram_of_read {options : ParseOptions} {source : String} {lexed : Lexed}
    {list : List Stored.Statement} {later : ParserState}
    (same : lexRecorded options.keywords source = lexed)
    (read : statements (.outermost options.nestingLimit) (.ofLexed lexed) = .ok list later) :
    parseProgram options source =
      .ok ⟨⟨.node .program, 0, low32 source.utf8ByteSize⟩, list⟩ := by
  rw [parseProgram, run, start, same, read]
  rfl

theorem parseProgram_distantName {source : String}
    (same : lexRecorded .full source = distantLexed) :
    ∃ data first others arrow parameters result,
      parseProgram .default source = .ok ⟨data,
        .expression first (.arrow arrow parameters result
          (.block ⟨⟨.node .functionBody, ⟨3, 5⟩⟩, 0⟩)) :: others⟩ ∧
      ((lexRecorded .full source).within ⟨3, 5⟩).map (·.kind) =
        [.punctuator .openBrace, .punctuator .closeBrace, .identifier] := by
  have evaluated : (match statements (.outermost 100) (.ofLexed distantLexed) with
      | .error _ _ => false
      | .ok [] _ => false
      | .ok (.expression _ (.arrow _ _ _ (.block body)) :: _) _ =>
          body == ⟨⟨.node .functionBody, ⟨3, 5⟩⟩, 0⟩
      | .ok (_ :: _) _ => false) = true := by decide +kernel
  split at evaluated
  · cases evaluated
  · cases evaluated
  · next first arrow parameters result body others after read =>
      obtain rfl := beq_iff_eq.mp evaluated
      refine ⟨_, first, others, arrow, parameters, result, parseProgram_of_read same read, ?_⟩
      rw [same]
      decide +kernel
  · cases evaluated

/-- The end of a text may lie at the end of a body, and is none of its tokens. And in a text that is
too long, a token that lies anywhere may be recorded as one of a body. -/
theorem bodies_match_not_all :
    (∃ data declaration others, parseProgram .default "function f()\x7b\x7d" =
        .ok ⟨data, .function declaration :: others⟩ ∧
      declaration.body = some ⟨⟨.node .functionBody, ⟨12, 14⟩⟩, 0⟩ ∧
      ((lexRecorded .full "function f()\x7b\x7d").withEnd.filter fun token =>
          (Span.mk 12 14).contains token.span).map (·.kind) =
        [.punctuator .openBrace, .punctuator .closeBrace, .endOfFile]) ∧
    ∃ data first others arrow parameters result,
      parseProgram .default (distantName (2 ^ 32 - 3)) = .ok ⟨data,
        .expression first (.arrow arrow parameters result
          (.block ⟨⟨.node .functionBody, ⟨3, 5⟩⟩, 0⟩)) :: others⟩ ∧
      ((lexRecorded .full (distantName (2 ^ 32 - 3))).within ⟨3, 5⟩).map (·.kind) =
        [.punctuator .openBrace, .punctuator .closeBrace, .identifier] := by
  constructor
  · have evaluated : (match parseProgram .default "function f()\x7b\x7d" with
        | .error _ => false
        | .ok ⟨_, []⟩ => false
        | .ok ⟨_, .function declaration :: _⟩ =>
            declaration.body == some ⟨⟨.node .functionBody, ⟨12, 14⟩⟩, 0⟩
        | .ok ⟨_, _ :: _⟩ => false) = true := by decide +kernel
    split at evaluated
    · cases evaluated
    · cases evaluated
    · next data declaration others parsed =>
        exact ⟨data, declaration, others, parsed, beq_iff_eq.mp evaluated, by decide +kernel⟩
    · cases evaluated
  · exact parseProgram_distantName
      (Lexed.eq_of lexRecorded_distantName.1 lexRecorded_distantName.2)

end Machine

end TypedScript
