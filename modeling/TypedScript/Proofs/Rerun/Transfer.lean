import TypedScript.Proofs.EntryPoints
import TypedScript.Proofs.Rerun.Expressions

/-!
What is read alone is read within another text. Main statement: an expression that is a whole text
is the same expression where it comes after other tokens and before a closing parenthesis or the end
of the text, unless the parser stops there because it goes too deep.
-/

namespace TypedScript

theorem balances_congr {offsets : Nat → Nat → Prop} {tokens others : List Token}
    (alike : List.Forall₂ (Token.Alike offsets) tokens others) (expected : List Punctuator) :
    balances expected tokens = balances expected others := by
  induction alike generalizing expected with
  | nil => rfl
  | @cons token other _ _ first _ induction =>
      have marks : token.isMark = other.isMark := funext fun mark => first.isMark mark
      simp only [balances, first.kind, induction, marks]

/-! Parsers that yield one value, or stop. -/

/-- From `before` the parser gets to `after` with this value, unless it stops on the way: it refuses
to go deeper, or the text has no next token. -/
def Arrives {α : Type} (limit : Nat) (parser : Parse α) (before after : Cursor) (value : α) :
    Prop :=
  parser before = .ok value after ∨
    ∃ error there, parser before = .error error there ∧ (Rerun.mk [] limit).Stops error

namespace Arrives

variable {α β : Type} {limit : Nat} {parser : Parse α} {next : α → Parse β}
  {before between after : Cursor} {value : α} {result : β}

theorem bind (first : Arrives limit parser before between value)
    (later : Arrives limit (next value) between after result) :
    Arrives limit (parser >>= next) before after result := by
  rcases first with parsed | ⟨error, there, failed, stops⟩
  · rw [Arrives, Parse.bind_of_ok parsed]
    exact later
  · exact .inr ⟨error, there, by simp only [Bind.bind, EStateM.bind, failed], stops⟩

theorem step (first : Reaches parser before between (· = value))
    (later : Arrives limit (next value) between after result) :
    Arrives limit (parser >>= next) before after result := by
  rcases first with ⟨_, parsed, rfl⟩
  exact bind (.inl parsed) later

theorem ofReaches (reached : Reaches parser before after (· = value)) :
    Arrives limit parser before after value := by
  rcases reached with ⟨_, parsed, rfl⟩
  exact .inl parsed

theorem pure (value : α) : Arrives limit (Pure.pure value) before before value :=
  .inl rfl

theorem enter {room : Nat} (wanted : Expected) {next : Level → Parse β}
    (deeper : ∀ inner, room = inner + 1 →
      Arrives limit (next (.ofNesting (.ofRoom (.ofLimit limit) inner))) before after result) :
    Arrives limit ((Nesting.ofRoom (.ofLimit limit) room).enter wanted >>= next) before after
      result := by
  cases room with
  | zero =>
      right
      simp only [Nesting.ofRoom, Nesting.enter, Rules.ofLimit, Parse.failAt, Parse.current,
        Bind.bind, EStateM.bind, Parse.peek]
      cases before.peek 0 with
      | ok token => exact ⟨_, _, rfl, .refused⟩
      | error error => exact ⟨_, _, rfl, .lexical⟩
  | succ inner => exact deeper inner rfl

theorem expression {room : Nat} {value : Expression}
    (deeper : ∀ inner, room = inner + 1 →
      Arrives limit (Parse.assignment (.ofRoom (.ofLimit limit) inner)) before after value) :
    Arrives limit (Nesting.ofRoom (.ofLimit limit) room).expression before after value :=
  enter .expression deeper

/-- A trial that yields no value takes no token, unless it stops. -/
theorem speculate {attempt : Parse (Option α)}
    (stops : ∀ error there, attempt before = .error error there → error.isFinal = true →
      (Rerun.mk [] limit).Stops error)
    (untaken : ∀ found after, attempt before ≠ .ok found after) :
    Arrives limit (Parse.speculate SyntaxError.isFinal attempt) before before none := by
  unfold Arrives Parse.speculate
  cases tried : attempt before with
  | ok found after => exact absurd tried (untaken found after)
  | error error there =>
      cases stands : error.isFinal with
      | true => exact .inr ⟨error, there, by simp [stands], stops error there tried stands⟩
      | false => exact .inl (by simp [stands])

end Arrives

namespace Rerun

variable {α : Type} {rerun : Rerun} {places : Cursor → Cursor → Prop} {left right after : Cursor}
  {value : α}

theorem Stops.withTail {error : SyntaxError} (stops : rerun.Stops error) (tail : List Token) :
    (Rerun.mk tail rerun.limit).Stops error := by
  cases stops with
  | lexical => exact .lexical
  | refused => exact .refused

/-- Where the first run yields a value the second one does, unless it stops. -/
theorem Outcome.of_ok {second : Parse α}
    (outcome : rerun.Outcome places Eq (.ok value left) (second right)) :
    (∃ otherAfter, second right = .ok value otherAfter ∧ places left otherAfter) ∨
      ∃ error there, second right = .error error there ∧ (Rerun.mk [] rerun.limit).Stops error := by
  revert outcome
  generalize second right = other
  intro outcome
  cases outcome with
  | ok same related =>
      subst same
      exact .inl ⟨_, rfl, related⟩
  | stopped stops => exact .inr ⟨_, _, rfl, stops.withTail []⟩

theorem Outcome.of_other_ok {first : Parse α}
    (outcome : rerun.Outcome places Eq (first left) (.ok value right)) :
    ∃ after, first left = .ok value after ∧ places after right := by
  revert outcome
  generalize first left = other
  intro outcome
  cases outcome with
  | ok same related =>
      subst same
      exact ⟨_, rfl, related⟩

theorem Outcome.stops_of_error {first second : Parse α} {error : SyntaxError} {there : Cursor}
    (outcome : rerun.Outcome places Eq (first left) (second right))
    (failed : second right = .error error there) (stands : error.isFinal = true) :
    rerun.Stops error := by
  rw [failed] at outcome
  generalize first left = other at outcome
  cases outcome with
  | failed _ passes => cases stands.symm.trans passes
  | stopped stops => exact stops

theorem expression_arrives {limit room extra : Nat} {tail : List Token} {value : Expression}
    (related : (Rerun.mk tail limit).Related [] left right)
    (read : (Nesting.ofRoom (.ofLimit limit) (room + extra)).expression left = .ok value after)
    (finished : after.ahead = []) :
    Arrives limit (Nesting.ofRoom (.ofLimit limit) room).expression right
      (right.skip left.ahead.length) value := by
  have nestings : (Rerun.mk tail limit).Nestings (.ofRoom (.ofLimit limit) (room + extra))
      (.ofRoom (.ofLimit limit) room) :=
    nestings_ofRoom (fun _ => id) room extra
  have outcome := nestings.expression.alike [] related
  rw [read] at outcome
  rcases outcome.of_ok with ⟨otherAfter, otherRead, otherRelated⟩ | stopped
  · left
    have ahead {left right : Cursor} (related : (Rerun.mk tail limit).Related [] left right) :
        right.ahead = left.ahead ++ tail := by
      rcases related.places with ⟨alone, rfl⟩ | within
      · rw [show tail = [] from alone, List.append_nil]
      · exact within.ahead
    rcases (Nesting.ofRoom_reading _ _).expression otherRead with ⟨_, _, whole⟩
    cases whole with
    | @intro tokens _ takes _ =>
        have split := takes.ahead
        rw [ahead related, ahead otherRelated, finished, List.nil_append] at split
        rw [otherRead, takes.eq_skip, List.append_cancel_right split]
  · exact .inr stopped

theorem type_deeper {limit room : Nat} (extra : Nat) {cursor : Cursor} {type : TypeExpr}
    (read : (Nesting.ofRoom (.ofLimit limit) room).type cursor = .ok type after) :
    (Nesting.ofRoom (.ofLimit limit) (room + extra)).type cursor = .ok type after := by
  have nestings : (Rerun.mk [] limit).Nestings (.ofRoom (.ofLimit limit) (room + extra))
      (.ofRoom (.ofLimit limit) room) :=
    nestings_ofRoom (fun _ => id) room extra
  have outcome := nestings.type.alike [] (.of_eq rfl cursor)
  rw [read] at outcome
  rcases outcome.of_other_ok with ⟨_, again, reached⟩
  rw [again, reached.eq_of_alone rfl]

end Rerun

/-! Whole texts within others. -/

/-- A parser of whole texts that yields one value or stops yields the value, or the text is refused
because it nests too deep. -/
theorem Parse.run_arrives {α : Type} {options : ParseOptions} {source : String}
    {parser : Nesting → Parse α} {after : Cursor} {value : α} {last : Token}
    (arrives : Arrives options.nestingLimit
      (parser (.outermost (.ofLimit options.nestingLimit)))
      (.ofLexed (lex options.keywords source)) after value)
    (ending : (lex options.keywords source).ending = .endOfFile last)
    (justified : Justified (lex options.keywords source) source (run options source parser)) :
    run options source parser = .ok value ∨
      Refused options.nestingLimit (run options source parser) := by
  rcases arrives with parsed | ⟨error, there, failed, stops⟩
  · exact .inl (Parse.run_reaches ⟨value, parsed, rfl⟩)
  · right
    unfold run at justified ⊢
    simp only [failed] at justified ⊢
    cases stops with
    | lexical => exact absurd justified (not_justified_lexical ending)
    | refused => exact ⟨_, _, rfl⟩

theorem Nesting.outermost_eq {limit room extra : Nat} (sum : room + extra = limit) :
    Nesting.outermost (.ofLimit limit) = .ofRoom (.ofLimit limit) (room + extra) := by
  rw [sum]
  rfl

theorem TwoRuns.Outcome.of_other_ok {runs : TwoRuns} {α β : Type}
    {places : Cursor → Cursor → Prop} {values : α → β → Prop} {value : β} {right : Cursor}
    {first : EStateM.Result SyntaxError Cursor α} (sameLimit : runs.extra = 0) (whole : ¬runs.cut)
    (outcome : runs.Outcome places values first (.ok value right)) :
    ∃ other left, first = .ok other left ∧ values other value ∧ places left right := by
  cases outcome with
  | ok same related => exact ⟨_, _, rfl, same, related⟩
  | early stops =>
      cases stops with
      | refused wider => exact absurd sameLimit (Nat.ne_of_gt wider)
      | brokenOff cut => exact absurd cut whole

namespace Parse

variable {limit amount passed : Nat} {left right : Lexed} {value : Expression} {after : Cursor}
  {last : Token}

theorem expression_later
    (goOn : GoOnAlike (Later amount) False left.tokens left.ending (right.tokens.drop passed)
      right.ending)
    (before : ((Cursor.ofLexed right).skip passed).lastStop ≤ amount)
    (read : (Nesting.outermost (.ofLimit limit)).expression (.ofLexed left) = .ok value after)
    (seen : after.peek 0 = .ok last) (isEnd : last.kind = .endOfFile) :
    ∃ otherAfter, (Nesting.outermost (.ofLimit limit)).expression
        ((Cursor.ofLexed right).skip passed) = .ok (value.relocate (· + amount)) otherAfter ∧
      otherAfter.ahead = [] := by
  let runs := TwoRuns.ofLater limit passed goOn before
  have nestings : runs.Nestings (.outermost (.ofLimit limit)) (.outermost (.ofLimit limit)) :=
    TwoRuns.nestings_outermost
  have outcome := nestings.expression runs.related_beginning
  change runs.Outcome runs.Related _ ((Nesting.outermost (.ofLimit limit)).expression
    (.ofLexed left)) _ at outcome
  rw [read] at outcome
  rcases outcome.exists_ok with ⟨other, otherAfter, otherRead, same, related⟩
  have moved : other = value.relocate (· + amount) :=
    (Expression.relocate_id other).symm.trans same.symm
  exact ⟨otherAfter, moved ▸ otherRead,
    related.goOn.ahead_eq_nil (Cursor.ahead_of_end seen isEnd).1 seen⟩

/-- What is read as a type after other tokens is one by itself, and a token of the same kind comes
next. -/
theorem type_earlier {type : TypeExpr} {token : Token}
    (goOn : GoOnAlike (Later amount) False left.tokens left.ending (right.tokens.drop passed)
      right.ending)
    (before : ((Cursor.ofLexed right).skip passed).lastStop ≤ amount)
    (read : (Nesting.outermost (.ofLimit limit)).type ((Cursor.ofLexed right).skip passed) =
      .ok type after)
    (seen : after.peek 0 = .ok token) :
    ∃ value otherAfter other, (Nesting.outermost (.ofLimit limit)).type (.ofLexed left) =
      .ok value otherAfter ∧ otherAfter.peek 0 = .ok other ∧ other.kind = token.kind := by
  let runs := TwoRuns.ofLater limit passed goOn before
  have nestings : runs.Nestings (.outermost (.ofLimit limit)) (.outermost (.ofLimit limit)) :=
    TwoRuns.nestings_outermost
  have outcome := nestings.type runs.related_beginning
  change runs.Outcome runs.Related _ _ ((Nesting.outermost (.ofLimit limit)).type
    ((Cursor.ofLexed right).skip passed)) at outcome
  rw [read] at outcome
  rcases outcome.of_other_ok rfl id with ⟨value, otherAfter, otherRead, _, related⟩
  rcases related.peek 0 with ⟨other, _, _, otherSeen, again, alike, _⟩ | ⟨_, _, _, failed, _⟩ |
    ⟨_, _, stops⟩
  · cases seen.symm.trans again
    exact ⟨value, otherAfter, other, otherRead, otherSeen, alike.kind⟩
  · cases seen.symm.trans failed
  · cases stops with
    | brokenOff impossible => exact impossible.elim

end Parse

end TypedScript
