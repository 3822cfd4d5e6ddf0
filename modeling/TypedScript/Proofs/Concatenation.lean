import Mathlib.Data.List.Infix
import TypedScript.Proofs.Confinement.Statements
import TypedScript.Proofs.FirstLine
import TypedScript.Proofs.LexicalErrors

/-!
Texts are read statement by statement. Main statement: two programs with a line feed between them
are one program, if the last token of the first is a semicolon. Its statements are those of the
first and then those of the second, as much later as the first text and the line feed are long.
-/

namespace TypedScript

/-! Parentheses. -/

/-- Every opening parenthesis has its match among the tokens: after it as many are closed as have
been opened since. -/
def ParensMatch (tokens : List Token) : Prop :=
  ∀ tail ∈ tokens.tails, (tail.head?.any (·.isMark .openParen)) = true →
    ∃ part ∈ tail.inits, part ≠ [] ∧
      part.countP (·.isMark .openParen) = part.countP (·.isMark .closeParen)

instance (tokens : List Token) : Decidable (ParensMatch tokens) :=
  inferInstanceAs (Decidable (∀ tail ∈ tokens.tails, (tail.head?.any (·.isMark .openParen)) = true →
    ∃ part ∈ tail.inits, part ≠ [] ∧
      part.countP (·.isMark .openParen) = part.countP (·.isMark .closeParen)))

theorem Token.not_isMark {token : Token} {mark other : Punctuator}
    (isMark : token.isMark mark = true) (different : mark ≠ other) :
    ¬token.isMark other = true := by
  intro isOther
  cases (Token.isMark_iff.mp isMark).symm.trans (Token.isMark_iff.mp isOther)
  exact different rfl

theorem afterParens?_of_count {depth : Nat} (opened : 0 < depth) {part : List Token}
    (closed : depth + part.countP (·.isMark .openParen) ≤ part.countP (·.isMark .closeParen))
    (more : List Token) : ∃ rest, Parse.afterParens? depth (part ++ more) = some rest := by
  induction part generalizing depth with
  | nil =>
      simp only [List.countP_nil] at closed
      omega
  | cons token part induction =>
      rw [List.cons_append, Parse.afterParens?]
      rw [List.countP_cons, List.countP_cons] at closed
      split
      · next isOpen =>
          rw [if_pos isOpen, if_neg (Token.not_isMark isOpen (by decide))] at closed
          exact induction (Nat.succ_pos depth) (by omega)
      · next notOpen =>
          rw [if_neg notOpen] at closed
          split
          · next isClose =>
              rw [if_pos isClose] at closed
              split
              · exact ⟨_, rfl⟩
              · exact induction (by omega) (by omega)
          · next notClose =>
              rw [if_neg notClose] at closed
              exact induction opened closed

theorem afterParens?_append {depth : Nat} {tokens rest : List Token}
    (found : Parse.afterParens? depth tokens = some rest) (more : List Token) :
    Parse.afterParens? depth (tokens ++ more) = some (rest ++ more) := by
  fun_induction Parse.afterParens? depth tokens with
  | case1 => cases found
  | case2 depth token tokens isOpen induction =>
      rw [List.cons_append, Parse.afterParens?, if_pos isOpen]
      exact induction found
  | case3 depth token tokens notOpen isClose last =>
      cases found
      rw [List.cons_append, Parse.afterParens?, if_neg notOpen, if_pos isClose, if_pos last]
  | case4 depth token tokens notOpen isClose inside induction =>
      rw [List.cons_append, Parse.afterParens?, if_neg notOpen, if_pos isClose, if_neg inside]
      exact induction found
  | case5 depth token tokens notOpen notClose induction =>
      rw [List.cons_append, Parse.afterParens?, if_neg notOpen, if_neg notClose]
      exact induction found

theorem afterParens?_split {depth : Nat} {tokens rest : List Token}
    (found : Parse.afterParens? depth tokens = some rest) :
    ∃ before close, tokens = before ++ close :: rest ∧ close.isMark .closeParen = true := by
  fun_induction Parse.afterParens? depth tokens with
  | case1 => cases found
  | case2 depth token tokens _ induction =>
      rcases induction found with ⟨before, close, rfl, isClose⟩
      exact ⟨token :: before, close, rfl, isClose⟩
  | case3 depth token tokens _ isClose =>
      cases found
      exact ⟨[], token, rfl, isClose⟩
  | case4 depth token tokens _ _ _ induction =>
      rcases induction found with ⟨before, close, rfl, isClose⟩
      exact ⟨token :: before, close, rfl, isClose⟩
  | case5 depth token tokens _ _ induction =>
      rcases induction found with ⟨before, close, rfl, isClose⟩
      exact ⟨token :: before, close, rfl, isClose⟩

theorem ParensMatch.afterParens? {tokens : List Token} (matched : ParensMatch tokens) {index : Nat}
    (isOpen : (tokens[index]?.any (·.isMark .openParen)) = true) :
    ∃ rest, Parse.afterParens? 0 (tokens.drop index) = some rest := by
  have tail : tokens.drop index ∈ tokens.tails :=
    (List.mem_tails _ _).mpr (List.drop_suffix _ _)
  rcases matched _ tail (by rwa [List.head?_drop]) with ⟨part, isPart, notEmpty, balanced⟩
  rcases (List.mem_inits _ _).mp isPart with ⟨others, whole⟩
  rw [← List.head?_drop, ← whole] at isOpen
  rw [← whole]
  cases part with
  | nil => exact absurd rfl notEmpty
  | cons first part =>
      have opens : first.isMark .openParen = true := isOpen
      rw [List.countP_cons, List.countP_cons, if_pos opens,
        if_neg (Token.not_isMark opens (by decide))] at balanced
      rw [List.cons_append, Parse.afterParens?, if_pos opens]
      exact afterParens?_of_count Nat.one_pos (by omega) others

/-- Where all parentheses are matched and the last token is a semicolon, what follows does not
change which parentheses belong to arrow functions. -/
theorem ParensMatch.arrowsAlike {left right : Lexed} {more : List Token}
    (matched : ParensMatch left.tokens) (ends : EndsInSemicolon left.tokens)
    (shape : right.tokens = left.tokens ++ more) : left.ArrowsAlike right := by
  intro index within isOpen
  rw [shape, List.drop_append_of_le_length (Nat.le_of_lt within)]
  rcases matched.afterParens? isOpen with ⟨rest, found⟩
  rcases afterParens?_split found with ⟨before, close, whole, isClose⟩
  rw [Parse.arrowLookahead, Parse.arrowLookahead, found, afterParens?_append found more]
  cases rest with
  | cons => rfl
  | nil =>
      have notEmpty : left.tokens.drop index ≠ [] := by simp [whole]
      rcases ends.drop notEmpty with ⟨last, isLast, isSemicolon⟩
      rw [whole, List.getLast?_concat] at isLast
      cases isLast
      cases isSemicolon.symm.trans (Token.isMark_iff.mp isClose)

/-! Statements of a text that goes on. -/

def Lexed.brokenOff (lexed : Lexed) : Lexed :=
  ⟨lexed.tokens, .failure ⟨.unterminatedString, .origin⟩, lexed.wellFormed, trivial⟩

namespace Parse

variable {left right : Lexed} {limit index : Nat} {value : Statement} {after : Cursor}

/-- From a place before which nothing is open, a text that breaks off after its semicolon and one
that goes on there come to the same statement. -/
theorem statement_brokenOff (shape : ∃ more, right.tokens = left.tokens ++ more)
    (arrows : left.brokenOff.ArrowsAlike right) (within : index ≤ left.tokens.length)
    (goesOn : Stage.GoesOn (.within 0) (left.tokens.drop index)) :
    (∃ value next, next ≤ left.tokens.length ∧
      statement (.outermost (.ofLimit limit)) ((Cursor.ofLexed left.brokenOff).skip index) =
        .ok value ((Cursor.ofLexed left.brokenOff).skip next) ∧
      statement (.outermost (.ofLimit limit)) ((Cursor.ofLexed right).skip index) =
        .ok value ((Cursor.ofLexed right).skip next)) ∨
    ∃ error after otherError otherAfter,
      statement (.outermost (.ofLimit limit)) ((Cursor.ofLexed left.brokenOff).skip index) =
        .error error after ∧
      statement (.outermost (.ofLimit limit)) ((Cursor.ofLexed right).skip index) =
        .error otherError otherAfter := by
  let runs := @TwoRuns.ofBreak left.brokenOff right _ limit rfl shape arrows
  have outcome : runs.Outcome runs.Related (runs.Same Statement.relocate)
      (statement (.outermost (.ofLimit limit)) ((Cursor.ofLexed left.brokenOff).skip index))
      (statement (.outermost (.ofLimit limit)) ((Cursor.ofLexed right).skip index)) :=
    TwoRuns.statement_alike TwoRuns.nestings_outermost ⟨index, within, rfl, rfl⟩
  have stays : Stays (.within 0) .over ((Cursor.ofLexed left.brokenOff).skip index)
      (statement (.outermost (.ofLimit limit)) ((Cursor.ofLexed left.brokenOff).skip index)) :=
    Confined.statement (Nesting.ofRoom_confined _ _) _
  revert outcome stays
  generalize statement (.outermost (.ofLimit limit)) ((Cursor.ofLexed left.brokenOff).skip index) =
    first
  generalize statement (.outermost (.ofLimit limit)) ((Cursor.ofLexed right).skip index) = second
  intro outcome stays
  cases outcome with
  | @ok value other _ _ same related =>
      rcases related with ⟨next, inside, rfl, rfl⟩
      have equal : value = other := by
        rw [← value.relocate_id, ← other.relocate_id]
        exact same
      subst equal
      exact .inl ⟨value, next, inside, rfl, rfl⟩
  | error => exact .inr ⟨_, _, _, _, rfl, rfl⟩
  | early stops =>
      cases stops with
      | refused wider => exact absurd wider (Nat.lt_irrefl 0)
      | brokenOff =>
          cases stays with
          | lexical stuck =>
              rw [Cursor.skip_ahead] at stuck
              exact absurd goesOn stuck

theorem statement_joined {more : List Token} (shape : right.tokens = left.tokens ++ more)
    (matched : ParensMatch left.tokens) (within : index ≤ left.tokens.length)
    (goesOn : Stage.GoesOn (.within 0) (left.tokens.drop index))
    (ends : EndsInSemicolon left.tokens)
    (parsed : statement (.outermost (.ofLimit limit)) ((Cursor.ofLexed left).skip index) =
      .ok value after) :
    ∃ next ≤ left.tokens.length, after = (Cursor.ofLexed left).skip next ∧
      statement (.outermost (.ofLimit limit)) ((Cursor.ofLexed right).skip index) =
        .ok value ((Cursor.ofLexed right).skip next) := by
  have arrows : left.brokenOff.ArrowsAlike right :=
    @ParensMatch.arrowsAlike left.brokenOff right more matched ends shape
  rcases @statement_brokenOff left left limit index ⟨[], (List.append_nil _).symm⟩
    (fun _ _ _ => rfl) within goesOn with
    ⟨_, next, inside, cut, own⟩ | ⟨_, _, _, _, _, failed⟩
  · cases own.symm.trans parsed
    refine ⟨next, inside, rfl, ?_⟩
    rcases @statement_brokenOff left right limit index ⟨more, shape⟩ arrows within goesOn with
      ⟨_, other, otherInside, otherCut, joined⟩ | ⟨_, _, _, _, failed, _⟩
    · have same := cut.symm.trans otherCut
      simp only [EStateM.Result.ok.injEq] at same
      have length := congrArg (·.ahead.length) same.2
      simp only [Cursor.skip_ahead, List.length_drop, Cursor.ofLexed, Lexed.brokenOff] at length
      have equal : next = other := by omega
      rw [joined, same.1, equal]
    · cases failed.symm.trans cut
  · cases failed.symm.trans parsed

theorem statements_of_statement {before last : Cursor} {others : List Statement}
    (read : statement (.outermost (.ofLimit limit)) before = .ok value after)
    (shorter : after.ahead.length < before.ahead.length)
    (later : statements (.outermost (.ofLimit limit)) after = .ok others last) :
    statements (.outermost (.ofLimit limit)) before = .ok (value :: others) last := by
  cases ahead : before.ahead with
  | nil => simp [ahead] at shorter
  | cons first rest =>
      have notEnd : first.kind ≠ .endOfFile := (before.wellFormed first (by simp [ahead])).notEnd
      have turn : statementTurn (.outermost (.ofLimit limit)) before = .ok (.more value) after := by
        rw [statementTurn, bind_of_ok (current_eq_ok.mpr ⟨Cursor.peek_of_ahead ahead, rfl⟩),
          if_neg notEnd, map_eq_ok]
        exact ⟨value, read, rfl⟩
      rw [statements] at later ⊢
      rw [TwoRuns.repeated_eq, bind_of_ok turn]
      dsimp only
      rw [if_pos shorter, bind_of_ok later]
      rfl

theorem statement_shorter {before : Cursor}
    (read : statement (.outermost (.ofLimit limit)) before = .ok value after) :
    after.ahead.length < before.ahead.length := by
  rcases statement_forms (Nesting.ofRoom_reading _ _) read with ⟨_, _, whole⟩
  exact whole.length_lt

theorem statement_closes {before : Cursor}
    (read : statement (.outermost (.ofLimit limit)) before = .ok value after) :
    Closes 0 before.ahead ↔ Closes 0 after.ahead := by
  have stays : Stays (.within 0) .over before (statement (.outermost (.ofLimit limit)) before) :=
    Confined.statement (Nesting.ofRoom_confined _ _) before
  rw [read] at stays
  cases stays with
  | ok moves => exact moves.closes

theorem closes_of_statements {before : Cursor} {list : List Statement}
    (parsed : statements (.outermost (.ofLimit limit)) before = .ok list after) :
    Closes 0 before.ahead := by
  refine repeated_induction (motive := fun _ before _ => Closes 0 before.ahead) ?_ parsed
  intro before turned after parsed
  rcases statementTurn_eq_ok parsed with ⟨rfl, _, atEnd, _⟩ | ⟨value, rfl, read⟩
  · change Closes 0 before.ahead
    rw [atEnd]
    exact rfl
  · exact ⟨statement_shorter read, fun _ _ closes => (statement_closes read).mpr closes⟩

theorem statements_joined {more : List Token} (shape : right.tokens = left.tokens ++ more)
    (matched : ParensMatch left.tokens) (ends : EndsInSemicolon left.tokens)
    {list others : List Statement} {last : Cursor}
    (parsed : statements (.outermost (.ofLimit limit)) (.ofLexed left) = .ok list after)
    (later : statements (.outermost (.ofLimit limit))
      ((Cursor.ofLexed right).skip left.tokens.length) = .ok others last) :
    statements (.outermost (.ofLimit limit)) (.ofLexed right) = .ok (list ++ others) last := by
  have longer : right.tokens.length = left.tokens.length + more.length := by
    rw [shape, List.length_append]
  refine repeated_induction (motive := fun values before _ => ∀ index ≤ left.tokens.length,
    before = (Cursor.ofLexed left).skip index → Closes 0 before.ahead →
    statements (.outermost (.ofLimit limit)) ((Cursor.ofLexed right).skip index) =
      .ok (values ++ others) last) ?_ parsed 0 (Nat.zero_le _) rfl (closes_of_statements parsed)
  intro before turned after parsed
  rcases statementTurn_eq_ok parsed with ⟨rfl, _, atEnd, _⟩ | ⟨value, rfl, read⟩
  · intro index within place _
    rw [place, Cursor.skip_ahead, List.drop_eq_nil_iff] at atEnd
    rw [Nat.le_antisymm within atEnd]
    exact later
  · have shorter := statement_shorter read
    refine ⟨shorter, fun items _ rest index within place closes => ?_⟩
    have closesLater := (statement_closes read).mp closes
    subst place
    have notEmpty : left.tokens.drop index ≠ [] := by
      intro empty
      rw [Cursor.skip_ahead, Cursor.ofLexed, empty] at shorter
      exact absurd shorter (Nat.not_lt_zero _)
    rw [Cursor.skip_ahead] at closes
    rcases statement_joined shape matched within ⟨closes, ends.drop notEmpty⟩ ends read with
      ⟨next, inside, rfl, joined⟩
    refine statements_of_statement joined ?_ (rest next inside rfl closesLater)
    simp only [Cursor.skip_ahead, Cursor.ofLexed, List.length_drop] at shorter ⊢
    omega

/-! Statements after a text. -/

theorem statements_of_end {before : Cursor} {token : Token} (atEnd : before.ahead = [])
    (ending : before.ending = .endOfFile token) (nesting : Nesting) :
    statements nesting before = .ok [] before := by
  have found : before.peek 0 = .ok token := by simp [Cursor.peek, atEnd, ending]
  have isEnd : token.kind = .endOfFile := by
    have wellFormed := before.endingWellFormed
    rwa [ending] at wellFormed
  have turn : statementTurn nesting before = .ok .stop before := by
    rw [statementTurn, bind_of_ok (current_eq_ok.mpr ⟨found, rfl⟩), if_pos isEnd]
    rfl
  rw [statements, TwoRuns.repeated_eq, bind_of_ok turn]
  rfl

theorem statements_afterFeed {lexed : Lexed} {list : List Statement}
    (parsed : statements (.outermost (.ofLimit limit)) (.ofLexed lexed) = .ok list after) :
    ∃ last, statements (.outermost (.ofLimit limit)) (.ofLexed lexed.onNewLine) =
      .ok list last := by
  cases shape : lexed.tokens with
  | nil =>
      rcases (statements_eq_ok (Nesting.ofRoom_reading _ _) parsed).1 with ⟨token, ending⟩
      cases (statements_of_end shape ending _).symm.trans parsed
      rcases Lexed.onNewLine_of_nil shape with ⟨empty, sameEnding⟩
      rw [show lexed.ending = _ from ending] at sameEnding
      exact ⟨_, statements_of_end empty sameEnding _⟩
  | cons first rest =>
      rcases Lexed.onNewLine_of_cons shape with ⟨tokens, sameEnding⟩
      have line : (Cursor.ofLexed lexed).OnNewLine (.ofLexed lexed.onNewLine) :=
        ⟨⟨first, rest, shape, tokens⟩, sameEnding, rfl⟩
      exact ⟨after, statements_onNewLine _ _ line parsed⟩

theorem statements_later {lexed : Lexed} {amount passed : Nat} {list : List Statement}
    (goOn : GoOnAlike (Later amount) False lexed.onNewLine.tokens lexed.onNewLine.ending
      (right.tokens.drop passed) right.ending)
    (before : ((Cursor.ofLexed right).skip passed).lastStop ≤ amount)
    (parsed : statements (.outermost (.ofLimit limit)) (.ofLexed lexed) = .ok list after) :
    ∃ last, statements (.outermost (.ofLimit limit)) ((Cursor.ofLexed right).skip passed) =
      .ok (list.map (Statement.relocate (· + amount))) last := by
  rcases statements_afterFeed parsed with ⟨between, onNewLine⟩
  let runs := TwoRuns.ofLater limit passed goOn before
  have outcome : runs.Outcome runs.Related (runs.Same (each Statement.relocate))
      (statements (.outermost (.ofLimit limit)) (.ofLexed lexed.onNewLine))
      (statements (.outermost (.ofLimit limit)) ((Cursor.ofLexed right).skip passed)) :=
    TwoRuns.statements_alike TwoRuns.nestings_outermost runs.related_beginning
  rw [onNewLine] at outcome
  rcases outcome.exists_ok with ⟨others, last, read, same, _⟩
  have equal : others = list.map (Statement.relocate (· + amount)) := by
    rw [← (map_eq_self Statement.relocate_id).1 others]
    exact Eq.symm same
  exact ⟨last, equal ▸ read⟩

end Parse

/-! Whole texts. -/

theorem stopAfter_le {bound stop : Nat} {tokens : List Token} (before : stop ≤ bound)
    (stops : ∀ token ∈ tokens, token.stop ≤ bound) : stopAfter stop tokens ≤ bound := by
  induction tokens generalizing stop with
  | nil => exact before
  | cons token tokens induction =>
      rw [List.forall_mem_cons] at stops
      exact induction stops.1 stops.2

theorem skip_lastStop_le {lexed : Lexed} {first more : List Token} {bound : Nat}
    (shape : lexed.tokens = first ++ more) (stops : ∀ token ∈ first, token.stop ≤ bound) :
    ((Cursor.ofLexed lexed).skip first.length).lastStop ≤ bound := by
  have enough : first.length ≤ (Cursor.ofLexed lexed).ahead.length := by
    simp [Cursor.ofLexed, shape]
  rw [((Cursor.ofLexed lexed).skip_takes enough).lastStop]
  change stopAfter 0 (lexed.tokens.take first.length) ≤ bound
  rw [shape, List.take_left]
  exact stopAfter_le (Nat.zero_le bound) stops

/-- Two programs with a line feed between them are one program, if the last token of the first is a
semicolon. Neither may a comment be left open in the first, nor may one of its parentheses be
matched in the second, nor may the second begin with a line that is only skipped at the beginning of
a text. -/
theorem parseProgram_joined (options : ParseOptions) (source other : String)
    {program otherProgram : Program} {terminator : Token}
    (parsed : parseProgram options source = .ok program)
    (otherParsed : parseProgram options other = .ok otherProgram)
    (last : (lex options.keywords source).tokens.getLast? = some terminator)
    (isSemicolon : terminator.kind = .punctuator .semicolon)
    (closed : ∀ trail, Span.dropBytes terminator.stop source.toList = some trail →
      ¬Trivia.EndsInComment trail)
    (noLine : ¬['#', '!'] <+: other.toList)
    (matched : ParensMatch (lex options.keywords source).tokens) :
    parseProgram options (source ++ "\n" ++ other) =
      .ok ⟨⟨0, (source ++ "\n" ++ other).utf8ByteSize⟩,
        program.statements ++
          otherProgram.statements.map (Statement.relocate (· + (source.utf8ByteSize + 1)))⟩ := by
  rcases (parseProgram_eq_ok parsed).2.1 with ⟨atEnd, ended⟩
  rcases parseProgram_iff.mp parsed with ⟨list, after, read, rfl⟩
  rcases parseProgram_iff.mp otherParsed with ⟨others, otherAfter, otherRead, rfl⟩
  rcases lex_joined ended last closed noLine with ⟨more, tokens, goOn⟩
  have stops := skip_lastStop_le tokens fun token member =>
    Nat.le_succ_of_le (lex_stop_le options.keywords source token member)
  have rest : (lex options.keywords (source ++ "\n" ++ other)).tokens.drop
      (lex options.keywords source).tokens.length = more := by
    rw [tokens, List.drop_left]
  rw [← rest] at goOn
  rcases Parse.statements_later goOn stops otherRead with ⟨final, later⟩
  refine parseProgram_iff.mpr ⟨_, final, ?_, rfl⟩
  exact Parse.statements_joined tokens matched ⟨terminator, last, isSemicolon⟩ read later

/-- The first text ends with a comment, and the second begins with what could go on the first if the
semicolon were not there. -/
theorem parseProgram_joined_comment :
    ParensMatch (lex .full "let a = (b) => f(b); // f").tokens ∧
      ∃ program otherProgram, parseProgram .default "let a = (b) => f(b); // f" = .ok program ∧
        parseProgram .default "(c)" = .ok otherProgram ∧
        parseProgram .default ("let a = (b) => f(b); // f" ++ "\n" ++ "(c)") =
          .ok ⟨⟨0, 29⟩, program.statements ++
            otherProgram.statements.map (Statement.relocate (· + 26))⟩ := by
  have accepted : (parseProgram .default "let a = (b) => f(b); // f").isOk = true := by
    decide +kernel
  have otherAccepted : (parseProgram .default "(c)").isOk = true := by decide +kernel
  have matched : ParensMatch (lex .full "let a = (b) => f(b); // f").tokens := by decide +kernel
  have last : (lex .full "let a = (b) => f(b); // f").tokens.getLast? =
      some ⟨.punctuator .semicolon, ";", ⟨19, 1, 20⟩, 20, false, false⟩ := by
    decide +kernel
  have rest : Span.dropBytes 20 "let a = (b) => f(b); // f".toList = some " // f".toList := by
    decide +kernel
  have noComment : ¬['/', '*'] <:+: " // f".toList := by decide +kernel
  rcases exists_of_isOk accepted with ⟨program, parsed⟩
  rcases exists_of_isOk otherAccepted with ⟨otherProgram, otherParsed⟩
  refine ⟨matched, program, otherProgram, parsed, otherParsed, ?_⟩
  refine parseProgram_joined .default _ _ parsed otherParsed last rfl ?_ (by decide +kernel) matched
  rintro trail found ⟨before, body, shape, _⟩
  cases rest.symm.trans found
  exact noComment ⟨before, body, by rw [shape]; simp⟩

-- Parentheses within the body of a function need not match. One that is closed only in the second
-- text makes an arrow function of what is none.
example :
    (parseProgram .default "(a = () => { ( });").isOk = true ∧
      (parseProgram .default "function f() { ) => }").isOk = true ∧
      (parseProgram .default ("(a = () => { ( });" ++ "\n" ++ "function f() { ) => }")).isOk =
        false := by
  decide +kernel

end TypedScript
