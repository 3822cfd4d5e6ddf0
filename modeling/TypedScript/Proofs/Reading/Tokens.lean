import TypedScript.Proofs.Reading.Basic

/-!
What the parsers of single tokens, of names and literals, and of repetitions read.
-/

namespace TypedScript

namespace Parse

variable {α β : Type} {before after : Cursor}

/-! When a parser succeeds. -/

theorem bind_eq_ok {parser : Parse α} {next : α → Parse β} {value : β} :
    (parser >>= next) before = .ok value after ↔
      ∃ first between, parser before = .ok first between ∧
        next first between = .ok value after := by
  cases run : parser before with
  | ok first between =>
      simp only [bind, EStateM.bind, run, EStateM.Result.ok.injEq]
      constructor
      · exact fun parsed => ⟨first, between, ⟨rfl, rfl⟩, parsed⟩
      · rintro ⟨_, _, ⟨rfl, rfl⟩, parsed⟩
        exact parsed
  | error => simp [bind, EStateM.bind, run]

theorem bind_of_ok {parser : Parse α} {next : α → Parse β} {value : α}
    (parsed : parser before = .ok value after) : (parser >>= next) before = next value after := by
  simp only [Bind.bind, EStateM.bind, parsed]

theorem pure_eq_ok {first value : α} :
    (pure first : Parse α) before = .ok value after ↔ first = value ∧ before = after := by
  simp [pure, EStateM.pure]

theorem map_eq_ok {parser : Parse α} {transform : α → β} {value : β} :
    (transform <$> parser) before = .ok value after ↔
      ∃ first, parser before = .ok first after ∧ transform first = value := by
  cases run : parser before with
  | ok first between =>
      simp only [Functor.map, EStateM.map, run, EStateM.Result.ok.injEq]
      constructor
      · rintro ⟨rfl, rfl⟩
        exact ⟨first, ⟨rfl, rfl⟩, rfl⟩
      · rintro ⟨_, ⟨rfl, rfl⟩, rfl⟩
        exact ⟨rfl, rfl⟩
  | error => simp [Functor.map, EStateM.map, run]

/-- Names the parser of a run, so that its cases can be split without the places it was run at. -/
theorem exists_branch {parser : Parse α} {value : α} (parsed : parser before = .ok value after) :
    ∃ branch, parser = branch ∧ branch before = .ok value after :=
  ⟨parser, rfl, parsed⟩

theorem get_eq_ok {cursor : Cursor} :
    (get : Parse Cursor) before = .ok cursor after ↔ before = cursor ∧ before = after := by
  change EStateM.Result.ok before before = .ok cursor after ↔ _
  simp

theorem modify_eq_ok {change : Cursor → Cursor} {done : PUnit} :
    (modify change : Parse PUnit) before = .ok done after ↔ change before = after := by
  change EStateM.Result.ok PUnit.unit (change before) = .ok done after ↔ _
  simp

theorem peek_eq_ok {count : Nat} {token : Token} :
    peek count before = .ok token after ↔ before.peek count = .ok token ∧ before = after := by
  unfold peek
  split <;> next found => simp [found]

theorem current_eq_ok {token : Token} :
    current before = .ok token after ↔ before.peek 0 = .ok token ∧ before = after :=
  peek_eq_ok

theorem peek_bind_eq_ok {count : Nat} {view : Token → β} {value : β} :
    (peek count >>= fun token => pure (view token)) before = .ok value after ↔
      (∃ token, before.peek count = .ok token ∧ view token = value) ∧ before = after := by
  simp only [bind_eq_ok, peek_eq_ok, pure_eq_ok]
  constructor
  · rintro ⟨token, _, ⟨found, rfl⟩, same, rfl⟩
    exact ⟨⟨token, found, same⟩, rfl⟩
  · rintro ⟨⟨token, found, same⟩, rfl⟩
    exact ⟨token, _, ⟨found, rfl⟩, same, rfl⟩

theorem kindAhead_eq_ok {count : Nat} {kind : TokenKind} :
    kindAhead count before = .ok kind after ↔
      (∃ token, before.peek count = .ok token ∧ token.kind = kind) ∧ before = after :=
  peek_bind_eq_ok

theorem currentStart_eq_ok {start : Nat} :
    currentStart before = .ok start after ↔ before.StartsAt start ∧ before = after :=
  peek_bind_eq_ok

theorem atMark_eq_ok {mark : Punctuator} {found : Bool} :
    atMark mark before = .ok found after ↔
      (∃ token, before.peek 0 = .ok token ∧ token.isMark mark = found) ∧ before = after :=
  peek_bind_eq_ok

theorem atWord_eq_ok {word : String} {found : Bool} :
    atWord word before = .ok found after ↔
      (∃ token, before.peek 0 = .ok token ∧ token.isWord word = found) ∧ before = after :=
  peek_bind_eq_ok

theorem spanFrom_eq_ok {start : Nat} {span : Span} :
    spanFrom start before = .ok span after ↔
      ⟨start, max before.lastStop start⟩ = span ∧ before = after := by
  simp only [spanFrom, bind_eq_ok, get_eq_ok, pure_eq_ok]
  constructor
  · rintro ⟨_, _, ⟨rfl, rfl⟩, same, rfl⟩
    exact ⟨same, rfl⟩
  · rintro ⟨same, rfl⟩
    exact ⟨_, _, ⟨rfl, rfl⟩, same, rfl⟩

theorem take_eq_ok {token : Token} :
    take before = .ok token after ↔ before.peek 0 = .ok token ∧ before.next = after := by
  simp only [take, bind_eq_ok, current_eq_ok, modify_eq_ok, pure_eq_ok]
  constructor
  · rintro ⟨_, _, ⟨found, rfl⟩, _, _, rfl, rfl, rfl⟩
    exact ⟨found, rfl⟩
  · rintro ⟨found, rfl⟩
    exact ⟨token, before, ⟨found, rfl⟩, ⟨⟩, _, rfl, rfl, rfl⟩

/-! A parser that only fails never succeeds. -/

theorem failAt_ne_ok {fault : GrammarFault} {expected : Expected} {value : α} :
    failAt fault expected before ≠ .ok value after := by
  intro parsed
  simp only [failAt, bind_eq_ok] at parsed
  rcases parsed with ⟨_, _, _, thrown⟩
  cases thrown

theorem unexpected_ne_ok {expected : Expected} {value : α} :
    unexpected expected before ≠ .ok value after := by
  intro parsed
  simp only [unexpected, bind_eq_ok] at parsed
  rcases parsed with ⟨token, _, _, parsed⟩
  split at parsed
  · exact failAt_ne_ok parsed
  · exact failAt_ne_ok parsed

theorem identifierExpected_ne_ok {value : α} :
    identifierExpected before ≠ .ok value after := by
  intro parsed
  simp only [identifierExpected, bind_eq_ok] at parsed
  rcases parsed with ⟨token, _, _, parsed⟩
  split at parsed
  · exact failAt_ne_ok parsed
  · exact failAt_ne_ok parsed

theorem typeExpected_ne_ok {value : α} : typeExpected before ≠ .ok value after :=
  failAt_ne_ok

end Parse

/-! Single tokens. -/

namespace Token

theorem lexeme_eq {token : Token} (wellFormed : token.WellFormed) {text : String}
    (spelling : token.kind.spelling? = some text) : token.lexeme = ⟨token.kind, text, none⟩ := by
  have spelled := wellFormed.spelled text spelling
  have noString : token.kind ≠ .stringLiteral := by
    intro isString
    simp [isString, TokenKind.spelling?] at spelling
  simp [lexeme, spelled, stringValue?, noString]

theorem isMark_iff {token : Token} {mark : Punctuator} :
    token.isMark mark = true ↔ token.kind = .punctuator mark := by
  simp [Token.isMark]

theorem lexeme_of_isMark {token : Token} (wellFormed : token.WellFormed) {mark : Punctuator}
    (isMark : token.isMark mark = true) : token.lexeme = .mark mark := by
  have kind := isMark_iff.mp isMark
  rw [lexeme_eq wellFormed (by rw [kind]; rfl), kind]
  rfl

theorem lexeme_of_keyword {token : Token} (wellFormed : token.WellFormed) {word : Keyword}
    (kind : token.kind = .keyword word) : token.lexeme = .keyword word := by
  rw [lexeme_eq wellFormed (by rw [kind]; rfl), kind]
  rfl

theorem lexeme_of_identifier {token : Token} (kind : token.kind = .identifier) :
    token.lexeme = .word token.text := by
  simp [lexeme, stringValue?, kind, Lexeme.word]

theorem lexeme_of_isWord {token : Token} {word : String} (isWord : token.isWord word = true) :
    token.lexeme = .word word := by
  simp only [Token.isWord, Bool.and_eq_true, beq_iff_eq] at isWord
  rw [lexeme_of_identifier isWord.1, isWord.2]

theorem freeName_lexeme {token : Token} (wellFormed : token.WellFormed)
    (isName : token.kind.isName = true) : FreeName token.text [token.lexeme] := by
  cases kind : token.kind with
  | identifier =>
      rw [lexeme_of_identifier kind]
      exact .plain
  | keyword word =>
      rw [lexeme_of_keyword wellFormed kind, wellFormed.spelled word.spelling (by rw [kind]; rfl)]
      exact .reserved
  | _ => simp [kind, TokenKind.isName] at isName

theorem isMark_ne_end {token : Token} {mark : Punctuator} (isMark : token.isMark mark = true) :
    token.kind ≠ .endOfFile := by
  intro isEnd
  simp [Token.isMark, isEnd] at isMark

theorem isWord_ne_end {token : Token} {word : String} (isWord : token.isWord word = true) :
    token.kind ≠ .endOfFile := by
  intro isEnd
  simp [Token.isWord, isEnd] at isWord

theorem isName_ne_end {token : Token} (isName : token.kind.isName = true) :
    token.kind ≠ .endOfFile := by
  intro isEnd
  simp [isEnd, TokenKind.isName] at isName

end Token

theorem Piece.next {cursor : Cursor} {token : Token} (found : cursor.peek 0 = .ok token)
    (more : token.kind ≠ .endOfFile) :
    token.WellFormed ∧ Piece cursor cursor.next [token.lexeme] [] := by
  have takes := Cursor.next_takes found more
  exact ⟨takes.wellFormed (by simp), .ofToken takes⟩

theorem Piece.nextMark {cursor : Cursor} {token : Token} {mark : Punctuator}
    (found : cursor.peek 0 = .ok token) (isMark : token.isMark mark = true) :
    Piece cursor cursor.next [.mark mark] [] := by
  rcases Piece.next found (Token.isMark_ne_end isMark) with ⟨wellFormed, piece⟩
  rw [Token.lexeme_of_isMark wellFormed isMark] at piece
  exact piece

theorem Whole.next {cursor : Cursor} {token : Token} {node : Node}
    (found : cursor.peek 0 = .ok token) (more : token.kind ≠ .endOfFile)
    (span : node.span = token.span) (children : node.children = []) :
    Whole cursor cursor.next [token.lexeme] node := by
  have takes := Cursor.next_takes found more
  exact .intro takes (.intro (span ▸ .tokens) (children ▸ .nil))

namespace Parse

variable {α β : Type} {before after : Cursor}

theorem accept_piece {mark : Punctuator} {found : Bool}
    (parsed : accept mark before = .ok found after) :
    Piece before after (Lexeme.flag found mark) [] := by
  simp only [accept, bind_eq_ok, atMark_eq_ok] at parsed
  rcases parsed with ⟨_, _, ⟨⟨token, peeked, rfl⟩, rfl⟩, parsed⟩
  split at parsed
  · next isMark =>
      simp only [bind_eq_ok, take_eq_ok, pure_eq_ok] at parsed
      rcases parsed with ⟨_, _, ⟨_, rfl⟩, rfl, rfl⟩
      exact .nextMark peeked isMark
  · simp only [pure_eq_ok] at parsed
    rcases parsed with ⟨rfl, rfl⟩
    exact .nil before

theorem acceptWord_piece {word : String} {found : Bool}
    (parsed : acceptWord word before = .ok found after) :
    Piece before after (if found then [.word word] else []) [] := by
  simp only [acceptWord, bind_eq_ok, atWord_eq_ok] at parsed
  rcases parsed with ⟨_, _, ⟨⟨token, peeked, rfl⟩, rfl⟩, parsed⟩
  split at parsed
  · next isWord =>
      simp only [bind_eq_ok, take_eq_ok, pure_eq_ok] at parsed
      rcases parsed with ⟨_, _, ⟨_, rfl⟩, rfl, rfl⟩
      rcases Piece.next peeked (Token.isWord_ne_end isWord) with ⟨_, piece⟩
      rw [Token.lexeme_of_isWord isWord] at piece
      exact piece
  · simp only [pure_eq_ok] at parsed
    rcases parsed with ⟨rfl, rfl⟩
    exact .nil before

theorem expectKind_eq_ok {kind : TokenKind} {token : Token} :
    expectKind kind before = .ok token after ↔
      before.peek 0 = .ok token ∧ token.kind = kind ∧ before.next = after := by
  simp only [expectKind, bind_eq_ok, current_eq_ok]
  constructor
  · rintro ⟨_, _, ⟨peeked, rfl⟩, parsed⟩
    split at parsed
    · next same =>
        simp only [take_eq_ok] at parsed
        rcases parsed with ⟨found, rfl⟩
        rw [peeked] at found
        cases found
        exact ⟨peeked, same, rfl⟩
    · exact absurd parsed unexpected_ne_ok
  · rintro ⟨peeked, same, rfl⟩
    refine ⟨token, before, ⟨peeked, rfl⟩, ?_⟩
    rw [if_pos same, take_eq_ok]
    exact ⟨peeked, rfl⟩

theorem expect_piece {mark : Punctuator} {token : Token}
    (parsed : expect mark before = .ok token after) : Piece before after [.mark mark] [] := by
  rcases expectKind_eq_ok.mp parsed with ⟨peeked, kind, rfl⟩
  exact .nextMark peeked (Token.isMark_iff.mpr kind)

theorem expectKeyword_piece {word : Keyword} {token : Token}
    (parsed : expectKeyword word before = .ok token after) :
    Piece before after [.keyword word] [] := by
  rcases expectKind_eq_ok.mp parsed with ⟨peeked, kind, rfl⟩
  rcases Piece.next peeked (by simp [kind]) with ⟨wellFormed, piece⟩
  rw [Token.lexeme_of_keyword wellFormed kind] at piece
  exact piece

theorem expectWord_piece {word : String} {token : Token}
    (parsed : expectWord word before = .ok token after) : Piece before after [.word word] [] := by
  simp only [expectWord, bind_eq_ok, atWord_eq_ok] at parsed
  rcases parsed with ⟨_, _, ⟨⟨_, peeked, rfl⟩, rfl⟩, parsed⟩
  split at parsed
  · next isWord =>
      rcases take_eq_ok.mp parsed with ⟨_, rfl⟩
      rcases Piece.next peeked (Token.isWord_ne_end isWord) with ⟨_, piece⟩
      rw [Token.lexeme_of_isWord isWord] at piece
      exact piece
  · exact absurd parsed unexpected_ne_ok

/-! Names and literals. -/

theorem identifier_forms : Forms identifier Identifier.Spelled .identifier := by
  intro before name after parsed
  simp only [identifier, bind_eq_ok, current_eq_ok] at parsed
  rcases parsed with ⟨token, _, ⟨peeked, rfl⟩, parsed⟩
  split at parsed
  · next kind =>
      simp only [bind_eq_ok, take_eq_ok, pure_eq_ok] at parsed
      rcases parsed with ⟨_, _, ⟨found, rfl⟩, rfl, rfl⟩
      rw [peeked] at found
      cases found
      refine ⟨_, ?_, Whole.next peeked (by simp [kind]) rfl rfl⟩
      rw [Token.lexeme_of_identifier kind]
      rfl
  · exact absurd parsed identifierExpected_ne_ok

theorem identifierName_forms : Forms identifierName Identifier.SpelledFreely .identifier := by
  intro before name after parsed
  simp only [identifierName, bind_eq_ok, current_eq_ok] at parsed
  rcases parsed with ⟨token, _, ⟨peeked, rfl⟩, parsed⟩
  split at parsed
  · next isName =>
      simp only [bind_eq_ok, take_eq_ok, pure_eq_ok] at parsed
      rcases parsed with ⟨_, _, ⟨found, rfl⟩, rfl, rfl⟩
      rw [peeked] at found
      cases found
      have more := Token.isName_ne_end isName
      have wellFormed := (Piece.next peeked more).1
      exact ⟨_, Token.freeName_lexeme wellFormed isName, Whole.next peeked more rfl rfl⟩
  · exact absurd parsed identifierExpected_ne_ok

theorem literalOf?_ne_end {token : Token} {literal : Literal}
    (found : literalOf? token = some literal) : token.kind ≠ .endOfFile := by
  intro isEnd
  simp [literalOf?, isEnd] at found

theorem literalOf?_spec {token : Token} {literal : Literal} (wellFormed : token.WellFormed)
    (found : literalOf? token = some literal) :
    literal.span = token.span ∧ literal.Spelled [token.lexeme] := by
  unfold literalOf? at found
  split at found
  · next kind =>
      cases found
      rcases Option.isSome_iff_exists.mp (wellFormed.denotes kind) with ⟨value, denotes⟩
      refine ⟨rfl, ?_⟩
      simp only [Literal.Spelled, Token.lexeme, denotes, kind, Option.getD_some]
      exact .string
  · next kind =>
      cases found
      refine ⟨rfl, ?_⟩
      simp only [Literal.Spelled, Token.lexeme, Token.stringValue?, kind]
      exact .number
  · next kind =>
      rw [Token.lexeme_of_identifier kind]
      split at found
      · next isTrue =>
          cases found
          rw [beq_iff_eq.mp isTrue]
          exact ⟨rfl, .true⟩
      · split at found
        · next isFalse =>
            cases found
            rw [beq_iff_eq.mp isFalse]
            exact ⟨rfl, .false⟩
        · split at found
          · next isNull =>
              cases found
              rw [beq_iff_eq.mp isNull]
              exact ⟨rfl, .null⟩
          · cases found
  · cases found

/-! Repetition. -/

/-- What one turn of a repetition contributes to what holds of all of it: if another turn follows,
it has taken a token, and what holds from there on holds with its item added. -/
def Turn.Leads (motive : List α → Cursor → Cursor → Prop) (before after : Cursor) :
    Turn α → Prop
  | .stop => motive [] before after
  | .last item => motive [item] before after
  | .more item =>
      after.ahead.length < before.ahead.length ∧
        ∀ items later, motive items after later → motive (item :: items) before later

theorem repeated_induction {turn : Parse (Turn α)} {motive : List α → Cursor → Cursor → Prop}
    (step : ∀ ⦃before turned after⦄, turn before = .ok turned after →
      turned.Leads motive before after)
    {items : List α} (parsed : repeated turn before = .ok items after) :
    motive items before after := by
  fun_induction repeated turn before generalizing items with
  | case1 => cases parsed
  | case2 _ _ run =>
      cases parsed
      exact step run
  | case3 _ _ _ run =>
      cases parsed
      exact step run
  | case4 => cases parsed
  | case5 _ _ _ run _ _ _ later induction =>
      cases parsed
      exact (step run).2 _ _ (induction later)
  | case6 _ _ _ run noProgress => exact absurd (step run).1 noProgress

theorem commaTurn_leads {spelled : α → List Lexeme → Prop} {node : α → Node} {value : α}
    {lexemes : List Lexeme} {between : Cursor} {turned : Turn α} (spelling : spelled value lexemes)
    (piece : Piece before between lexemes [node value])
    (parsed : commaTurn value between = .ok turned after) :
    turned.Leads (fun values before after => ∃ lexemes,
      Separated .comma spelled values lexemes ∧ Piece before after lexemes (values.map node))
      before after := by
  rcases bind_eq_ok.mp parsed with ⟨found, _, accepted, parsed⟩
  have whole := piece.append (accept_piece accepted)
  cases found with
  | false =>
      rcases pure_eq_ok.mp parsed with ⟨rfl, rfl⟩
      exact ⟨_, .single spelling, by simpa [Lexeme.flag] using whole⟩
  | true =>
      rcases pure_eq_ok.mp parsed with ⟨rfl, rfl⟩
      refine ⟨whole.length_lt (by simp [Lexeme.flag]), ?_⟩
      rintro values later ⟨others, separated, rest⟩
      refine ⟨_, .cons spelling separated, ?_⟩
      simpa [Lexeme.flag] using whole.append rest

theorem repeated_commaTurn_reads {parser : Parse α} {spelled : α → List Lexeme → Prop}
    {node : α → Node} (item : Reads parser spelled fun value => [node value]) :
    Reads (repeated (parser >>= commaTurn)) (Separated .comma spelled) (List.map node) := by
  intro before values after parsed
  refine repeated_induction (motive := fun values before after => ∃ lexemes,
    Separated .comma spelled values lexemes ∧
      Piece before after lexemes (values.map node)) ?_ parsed
  intro before turned after parsed
  rcases bind_eq_ok.mp parsed with ⟨value, _, itemParsed, parsed⟩
  rcases item itemParsed with ⟨_, spelling, piece⟩
  exact commaTurn_leads spelling piece parsed

theorem commaList_reads {parser : Parse α} {spelled : α → List Lexeme → Prop} {node : α → Node}
    {closing : Punctuator} (item : Reads parser spelled fun value => [node value]) :
    Reads (commaList closing parser) (Listed spelled) (List.map node) := by
  intro before values after parsed
  refine repeated_induction (motive := fun values before after => ∃ lexemes,
    Listed spelled values lexemes ∧ Piece before after lexemes (values.map node)) ?_ parsed
  intro before turned after parsed
  simp only [listTurn, bind_eq_ok, atMark_eq_ok] at parsed
  rcases parsed with ⟨_, _, ⟨_, rfl⟩, parsed⟩
  split at parsed
  · rcases pure_eq_ok.mp parsed with ⟨rfl, rfl⟩
    exact ⟨[], .empty, .nil before⟩
  · simp only [commaTurn, bind_eq_ok] at parsed
    rcases parsed with ⟨value, _, itemParsed, found, _, accepted, parsed⟩
    rcases item itemParsed with ⟨lexemes, spelling, piece⟩
    have whole := piece.append (accept_piece accepted)
    cases found with
    | false =>
        rcases pure_eq_ok.mp parsed with ⟨rfl, rfl⟩
        exact ⟨_, .items (.single spelling) .absent, whole⟩
    | true =>
        rcases pure_eq_ok.mp parsed with ⟨rfl, rfl⟩
        refine ⟨whole.length_lt (by simp [Lexeme.flag]), ?_⟩
        rintro values later ⟨others, listed, rest⟩
        refine ⟨_, .cons spelling listed, ?_⟩
        simpa [Lexeme.flag] using whole.append rest

/-! Trial. A trial that yields nothing takes nothing. -/

theorem speculate_eq_ok {isFinal : SyntaxError → Bool} {attempt : Parse (Option α)}
    {result : Option α} (parsed : speculate isFinal attempt before = .ok result after) :
    (∃ value, result = some value ∧ attempt before = .ok (some value) after) ∨
      result = none ∧ before = after := by
  unfold speculate at parsed
  split at parsed
  · next value _ found =>
      cases parsed
      exact .inl ⟨value, rfl, found⟩
  · cases parsed
    exact .inr ⟨rfl, rfl⟩
  · split at parsed
    · cases parsed
    · cases parsed
      exact .inr ⟨rfl, rfl⟩

end Parse

end TypedScript
