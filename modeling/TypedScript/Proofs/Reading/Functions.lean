import TypedScript.Parser.Functions
import TypedScript.Proofs.Reading.Levels

/-!
What the rules for parameters, type parameters and bodies read.
-/

namespace TypedScript

namespace Parse

variable {α : Type} {before between after : Cursor} {nesting : Nesting}

theorem optional_piece {parser : Parse α} {spelled : α → List Lexeme → Prop} {node : α → Node}
    {lead : Lexeme} {found : Bool} {value : Option α}
    (item : Reads parser spelled fun value => [node value])
    (accepted : Piece before between (if found then [lead] else []) [])
    (parsed : (if found = true then some <$> parser else pure none) between = .ok value after) :
    ∃ lexemes, After lead spelled value lexemes ∧
      Piece before after lexemes (value.toList.map node) := by
  cases found with
  | false =>
      simp only [Bool.false_eq_true, if_false, pure_eq_ok] at parsed
      rcases parsed with ⟨rfl, rfl⟩
      exact ⟨_, .absent, accepted⟩
  | true =>
      simp only [if_true, map_eq_ok] at parsed
      rcases parsed with ⟨inner, parsed, rfl⟩
      rcases item parsed with ⟨lexemes, spelling, piece⟩
      exact ⟨_, .present spelling, accepted.append piece⟩

theorem afterMark_reads {parser : Parse α} {spelled : α → List Lexeme → Prop} {node : α → Node}
    {mark : Punctuator} (item : Reads parser spelled fun value => [node value]) :
    Reads (afterMark mark parser) (After (.mark mark) spelled)
      fun value => value.toList.map node := by
  intro before value after parsed
  simp only [afterMark, bind_eq_ok] at parsed
  rcases parsed with ⟨found, between, accepted, parsed⟩
  exact optional_piece item (accept_piece accepted) parsed

theorem afterWord_reads {parser : Parse α} {spelled : α → List Lexeme → Prop} {node : α → Node}
    {word : String} (item : Reads parser spelled fun value => [node value]) :
    Reads (afterWord word parser) (After (.word word) spelled)
      fun value => value.toList.map node := by
  intro before value after parsed
  simp only [afterWord, bind_eq_ok] at parsed
  rcases parsed with ⟨found, between, accepted, parsed⟩
  exact optional_piece item (acceptWord_piece accepted) parsed

theorem declaredType?_reads (reading : nesting.Reading) :
    Reads (declaredType? nesting) (After (.mark .colon) (TypeExpr.Spelled .type))
      fun type => type.toList.map .type :=
  afterMark_reads reading.type

theorem typeParameter_forms (reading : nesting.Reading) :
    Forms (typeParameter nesting) TypeParameter.Spelled .typeParameter := by
  intro before value after parsed
  simp only [typeParameter, bind_eq_ok, currentStart_eq_ok, spanFrom_eq_ok, pure_eq_ok] at parsed
  rcases parsed with ⟨start, _, ⟨starts, rfl⟩, name, _, nameParsed, constraint, _,
    constraintParsed, fallback, _, fallbackParsed, _, _, ⟨rfl, rfl⟩, rfl, rfl⟩
  rcases identifier_forms nameParsed with ⟨_, nameSpelled, nameWhole⟩
  rcases afterWord_reads reading.type constraintParsed with
    ⟨_, constraintSpelled, constraintPiece⟩
  rcases afterMark_reads reading.type fallbackParsed with ⟨_, fallbackSpelled, fallbackPiece⟩
  have piece := (nameWhole.piece.append constraintPiece).append fallbackPiece
  refine ⟨_, .intro nameSpelled constraintSpelled fallbackSpelled, ?_⟩
  exact piece.whole starts (by simp [nameWhole.ne_nil]) rfl rfl

theorem typeParameterTurn_leads (reading : nesting.Reading) {turned : Turn TypeParameter}
    (parsed : typeParameterTurn nesting before = .ok turned after) :
    turned.Leads (fun values before after => ∃ lexemes comma,
      Separated .comma TypeParameter.Spelled values lexemes ∧ Perhaps .comma comma ∧
        Piece before after (lexemes ++ comma) (values.map .typeParameter)) before after := by
  simp only [typeParameterTurn, bind_eq_ok] at parsed
  rcases parsed with ⟨parameter, _, parameterParsed, found, _, accepted, parsed⟩
  rcases typeParameter_forms reading parameterParsed with ⟨_, spelling, whole⟩
  have piece := whole.piece.append (accept_piece accepted)
  cases found with
  | false =>
      rcases pure_eq_ok.mp parsed with ⟨rfl, rfl⟩
      exact ⟨_, _, .single spelling, .absent, piece⟩
  | true =>
      simp only [if_true, bind_eq_ok, atMark_eq_ok] at parsed
      rcases parsed with ⟨closes, _, ⟨_, rfl⟩, parsed⟩
      cases closes with
      | true =>
          rcases pure_eq_ok.mp parsed with ⟨rfl, rfl⟩
          exact ⟨_, _, .single spelling, .present, piece⟩
      | false =>
          rcases pure_eq_ok.mp parsed with ⟨rfl, rfl⟩
          refine ⟨piece.length_lt (by simp [whole.ne_nil]), ?_⟩
          rintro values later ⟨others, comma, separated, perhaps, rest⟩
          refine ⟨_, comma, .cons spelling separated, perhaps, ?_⟩
          simpa [Lexeme.flag] using piece.append rest

theorem typeParameters_reads (reading : nesting.Reading) :
    Reads (typeParameters nesting) (Parameters TypeParameter.Spelled)
      (List.map .typeParameter) := by
  intro before values after parsed
  simp only [typeParameters, bind_eq_ok] at parsed
  rcases parsed with ⟨found, _, opened, parsed⟩
  have opening := accept_piece opened
  cases found with
  | false =>
      simp only [Bool.false_eq_true, if_false, pure_eq_ok] at parsed
      rcases parsed with ⟨rfl, rfl⟩
      exact ⟨_, .absent, opening⟩
  | true =>
      simp only [if_true, bind_eq_ok, pure_eq_ok] at parsed
      rcases parsed with ⟨parameters, _, turnsParsed, _, _, closed, rfl, rfl⟩
      rcases repeated_induction (fun _ _ _ parsed => typeParameterTurn_leads reading parsed)
        turnsParsed with ⟨lexemes, comma, separated, perhaps, piece⟩
      have whole := (opening.append piece).append (expect_piece closed)
      refine ⟨_, .present separated perhaps, ?_⟩
      simpa [Lexeme.flag] using whole

theorem initializer?_reads (reading : nesting.Reading) (allowed : Bool) :
    Reads (initializer? nesting allowed) (After (.mark .equals) Expression.Spelled)
      fun value => value.toList.map .expression := by
  intro before value after parsed
  cases allowed with
  | false =>
      rcases pure_eq_ok.mp parsed with ⟨rfl, rfl⟩
      exact ⟨[], .absent, .nil before⟩
  | true => exact afterMark_reads reading.expression.reads parsed

theorem parameter_forms (reading : nesting.Reading) (allowInitializer : Bool) :
    Forms (parameter nesting allowInitializer) Parameter.Spelled .parameter := by
  intro before value after parsed
  simp only [parameter, bind_eq_ok, currentStart_eq_ok, spanFrom_eq_ok, pure_eq_ok] at parsed
  rcases parsed with ⟨start, _, ⟨starts, rfl⟩, isRest, _, restParsed, name, _, nameParsed,
    optional, _, optionalParsed, declaredType, _, typeParsed, initializer, _, valueParsed, _, _,
    ⟨rfl, rfl⟩, rfl, rfl⟩
  rcases identifier_forms nameParsed with ⟨_, nameSpelled, nameWhole⟩
  rcases declaredType?_reads reading typeParsed with ⟨_, typeSpelled, typePiece⟩
  rcases initializer?_reads reading allowInitializer valueParsed with
    ⟨_, valueSpelled, valuePiece⟩
  have piece := ((((accept_piece restParsed).append nameWhole.piece).append
    (accept_piece optionalParsed)).append typePiece).append valuePiece
  refine ⟨_, .intro nameSpelled typeSpelled valueSpelled, ?_⟩
  exact piece.whole starts (by simp [nameWhole.ne_nil]) rfl rfl

theorem parameters_reads (reading : nesting.Reading) (allowInitializers : Bool) :
    Reads (parameters nesting allowInitializers)
      (fun values lexemes => ∃ listed, Listed Parameter.Spelled values listed ∧
        lexemes = .mark .openParen :: listed ++ [.mark .closeParen])
      (List.map .parameter) := by
  intro before values after parsed
  simp only [parameters, bind_eq_ok, pure_eq_ok] at parsed
  rcases parsed with ⟨_, _, opened, parameters, _, listParsed, _, _, closed, rfl, rfl⟩
  rcases commaList_reads (parameter_forms reading allowInitializers).reads listParsed with
    ⟨listed, spelling, listPiece⟩
  have piece := ((expect_piece opened).append listPiece).append (expect_piece closed)
  exact ⟨_, ⟨listed, spelling, rfl⟩, by simpa using piece⟩

theorem bodyLength?_lt {depth count : Nat} {tokens : List Token}
    (found : bodyLength? depth tokens = some count) : count < tokens.length := by
  induction tokens generalizing depth count with
  | nil => simp [bodyLength?] at found
  | cons token rest induction =>
      unfold bodyLength? at found
      split at found
      · rcases Option.map_eq_some_iff.mp found with ⟨less, later, rfl⟩
        exact Nat.succ_lt_succ (induction later)
      · split at found
        · cases depth with
          | zero =>
              cases found
              exact Nat.succ_pos _
          | succ outer =>
              rcases Option.map_eq_some_iff.mp found with ⟨less, later, rfl⟩
              exact Nat.succ_lt_succ (induction later)
        · rcases Option.map_eq_some_iff.mp found with ⟨less, later, rfl⟩
          exact Nat.succ_lt_succ (induction later)

theorem functionBody_forms :
    Forms functionBody FunctionBody.Spelled .functionBody := by
  intro before value after parsed
  simp only [functionBody, bind_eq_ok, currentStart_eq_ok, get_eq_ok] at parsed
  rcases parsed with ⟨start, _, ⟨starts, rfl⟩, _, inside, opened, _, _, ⟨rfl, rfl⟩, parsed⟩
  cases found : bodyLength? 0 inside.ahead with
  | some count =>
      simp only [found, bind_eq_ok, modify_eq_ok, spanFrom_eq_ok, pure_eq_ok] at parsed
      rcases parsed with ⟨_, _, rfl, _, _, closed, _, _, ⟨rfl, rfl⟩, rfl, rfl⟩
      have enough := Nat.le_of_lt (bodyLength?_lt found)
      have length : ((inside.ahead.take count).map Token.lexeme).length = count := by
        rw [List.length_map, List.length_take, Nat.min_eq_left enough]
      have inner := Piece.intro (inside.skip_takes enough) .nil
      have piece := ((expect_piece opened).append inner).append (expect_piece closed)
      exact ⟨_, .intro length, piece.whole starts (by simp) rfl rfl⟩
  | none =>
      simp only [found, bind_eq_ok] at parsed
      rcases parsed with ⟨_, _, _, parsed⟩
      exact absurd parsed unexpected_ne_ok

end Parse

end TypedScript
