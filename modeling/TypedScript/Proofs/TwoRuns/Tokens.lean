import TypedScript.Proofs.TwoRuns.Basic

/-!
The parsers of single tokens, of names and of repetitions, side by side.
-/

namespace TypedScript

namespace Token

variable {offsets : Nat → Nat → Prop} {left right : Token}

theorem Alike.isMark (alike : left.Alike offsets right) (mark : Punctuator) :
    left.isMark mark = right.isMark mark := by
  rw [Token.isMark, Token.isMark, alike.kind]

theorem Alike.isWord (alike : left.Alike offsets right) (word : String) :
    left.isWord word = right.isWord word := by
  rw [Token.isWord, Token.isWord, alike.kind, alike.text]

theorem Alike.stringValue? (alike : left.Alike offsets right) :
    left.stringValue? = right.stringValue? := by
  rw [Token.stringValue?, Token.stringValue?, Token.body, Token.body, alike.kind, alike.text,
    alike.hasEscape]

end Token

namespace TwoRuns

open Parse

variable {runs : TwoRuns} {α β : Type} {values : α → β → Prop}

theorem Same.span {token other : Token} (alike : token.Alike runs.Offsets other) :
    runs.Same Span.relocate token.span other.span := by
  rw [Same, Span.relocate, Span.relocate, Token.span, Token.span, runs.moves alike.start,
    runs.moves alike.stop]

/-! Looking ahead. -/

theorem peek_stays {left right : Cursor} (related : runs.Related left right) (count : Nat) :
    runs.Outcome (fun after otherAfter => after = left ∧ otherAfter = right)
      (fun token other => left.peek count = .ok token ∧ right.peek count = .ok other)
      (peek count left) (peek count right) := by
  rcases related.peek count with ⟨first, second, _, seen, otherSeen, _⟩ |
    ⟨first, second, failed, otherFailed, ending, otherEnding⟩ | ⟨error, failed, stops⟩
  · simp only [peek, seen, otherSeen]
    exact .ok ⟨rfl, rfl⟩ ⟨rfl, rfl⟩
  · simp only [peek, failed, otherFailed]
    exact .error (.lexical ending otherEnding) related
  · simp only [peek, failed]
    exact .early stops

theorem peek_alike (count : Nat) :
    runs.Alike (Token.Alike runs.Offsets) (peek count) (peek count) := by
  intro left right related
  apply (peek_stays related count).imp
  rintro token other _ _ ⟨seen, otherSeen⟩ ⟨rfl, rfl⟩
  exact ⟨related.alike_of_peek seen otherSeen, related⟩

theorem current_alike : runs.Alike (Token.Alike runs.Offsets) current current :=
  peek_alike 0

theorem kindAhead_alike (count : Nat) : runs.Alike Eq (kindAhead count) (kindAhead count) := by
  apply (peek_alike count).bind
  intro token other alike
  exact .pure alike.kind

theorem currentStart_alike :
    runs.Alike runs.Offsets currentStart currentStart := by
  apply current_alike.bind
  intro token other alike
  exact .pure alike.start

theorem atMark_alike (mark : Punctuator) : runs.Alike Eq (atMark mark) (atMark mark) := by
  apply current_alike.bind
  intro token other alike
  exact .pure (alike.isMark mark)

theorem atWord_alike (word : String) : runs.Alike Eq (atWord word) (atWord word) := by
  apply current_alike.bind
  intro token other alike
  exact .pure (alike.isWord word)

/-! Failing. -/

theorem failAt_outcome {left right : Cursor} (related : runs.Related left right)
    (fault : GrammarFault) (expected : Expected)
    (fits : ∀ token, left.peek 0 = .ok token → fault.Fits token) :
    runs.Outcome runs.Related values (failAt fault expected left)
      (failAt fault expected right) := by
  rcases related.peek 0 with ⟨first, second, index, seen, otherSeen, alike, place, otherPlace⟩ |
    ⟨first, second, failed, otherFailed, ending, otherEnding⟩ | ⟨error, failed, stops⟩
  · simp only [failAt, current, Bind.bind, EStateM.bind, peek, seen, otherSeen]
    exact .error (.grammar index place otherPlace alike (fits first seen)) related
  · simp only [failAt, current, Bind.bind, EStateM.bind, peek, failed, otherFailed]
    exact .error (.lexical ending otherEnding) related
  · simp only [failAt, current, Bind.bind, EStateM.bind, peek, failed]
    exact .early stops

theorem failAt_alike (fault : GrammarFault) (expected : Expected)
    (fits : ∀ token, fault.Fits token) :
    runs.Alike values (failAt fault expected) (failAt fault expected) := by
  intro left right related
  exact failAt_outcome related fault expected fun token _ => fits token

theorem failAt_seen {left right : Cursor} (related : runs.Related left right) {token : Token}
    (seen : left.peek 0 = .ok token) (fault : GrammarFault) (fits : fault.Fits token)
    (expected : Expected) :
    runs.Outcome runs.Related values (failAt fault expected left)
      (failAt fault expected right) := by
  refine failAt_outcome related fault expected fun again sameSeen => ?_
  cases seen.symm.trans sameSeen
  exact fits

theorem current_outcome {left right : Cursor} (related : runs.Related left right)
    {next : Token → Parse α} {otherNext : Token → Parse β}
    (step : ∀ token other, left.peek 0 = .ok token → token.Alike runs.Offsets other →
      runs.Outcome runs.Related values (next token left) (otherNext other right)) :
    runs.Outcome runs.Related values ((current >>= next) left) ((current >>= otherNext) right) := by
  apply (peek_stays related 0).bind
  rintro token other _ _ ⟨seen, otherSeen⟩ ⟨rfl, rfl⟩
  exact step token other seen (related.alike_of_peek seen otherSeen)

theorem failUnlessEnd_alike {fault : GrammarFault} (expected : Expected)
    (fits : ∀ token, token.kind ≠ .endOfFile → fault.Fits token) :
    let failure : Parse α := do
      if (← current).kind = .endOfFile then failAt .unexpectedEnd expected
      else failAt fault expected
    let otherFailure : Parse β := do
      if (← current).kind = .endOfFile then failAt .unexpectedEnd expected
      else failAt fault expected
    runs.Alike values failure otherFailure := by
  intro failure otherFailure left right related
  apply current_outcome related
  intro token other seen alike
  rw [← alike.kind]
  split
  · next isEnd => exact failAt_seen related seen .unexpectedEnd isEnd expected
  · next more => exact failAt_seen related seen fault (fits token more) expected

theorem unexpected_alike (expected : Expected) :
    runs.Alike values (unexpected expected) (unexpected expected) :=
  failUnlessEnd_alike expected fun _ more => more

theorem identifierExpected_alike :
    runs.Alike values identifierExpected identifierExpected :=
  failUnlessEnd_alike .identifier fun _ more => more

theorem typeExpected_alike : runs.Alike values typeExpected typeExpected :=
  failAt_alike _ _ fun _ => trivial

/-! Taking tokens. -/

theorem get_alike : runs.Alike runs.Related (get : Parse Cursor) get := by
  intro left right related
  exact .ok related related

theorem get_outcome {left right : Cursor} {next : Cursor → Parse α} {otherNext : Cursor → Parse β}
    (step : runs.Outcome runs.Related values (next left left) (otherNext right right)) :
    runs.Outcome runs.Related values ((get >>= next) left) ((get >>= otherNext) right) :=
  step

theorem skip_outcome {left right : Cursor} (related : runs.Related left right) {count : Nat}
    (within : count ≤ left.ahead.length) :
    runs.Outcome runs.Related Eq ((modify (·.skip count) : Parse PUnit) left)
      ((modify (·.skip count) : Parse PUnit) right) :=
  .ok rfl (related.skip within)

theorem take_alike : runs.Alike (Token.Alike runs.Offsets) take take := by
  intro left right related
  apply current_outcome related
  intro token other seen alike
  exact .ok alike (related.next seen)

theorem accept_alike (mark : Punctuator) : runs.Alike Eq (accept mark) (accept mark) := by
  apply (atMark_alike mark).bindEq
  intro found
  apply Alike.branch
  · apply take_alike.bind
    intro _ _ _
    exact .pure rfl
  · exact .pure rfl

theorem acceptWord_alike (word : String) : runs.Alike Eq (acceptWord word) (acceptWord word) := by
  apply (atWord_alike word).bindEq
  intro found
  apply Alike.branch
  · apply take_alike.bind
    intro _ _ _
    exact .pure rfl
  · exact .pure rfl

theorem expectKind_alike (kind : TokenKind) :
    runs.Alike (Token.Alike runs.Offsets) (expectKind kind) (expectKind kind) := by
  apply current_alike.bind
  intro token other alike
  exact .ite (by rw [alike.kind]) take_alike (unexpected_alike _)

theorem expect_alike (mark : Punctuator) :
    runs.Alike (Token.Alike runs.Offsets) (expect mark) (expect mark) :=
  expectKind_alike _

theorem expectKeyword_alike (word : Keyword) :
    runs.Alike (Token.Alike runs.Offsets) (expectKeyword word) (expectKeyword word) :=
  expectKind_alike _

theorem expectWord_alike (word : String) :
    runs.Alike (Token.Alike runs.Offsets) (expectWord word) (expectWord word) := by
  apply (atWord_alike word).bindEq
  intro found
  exact .branch take_alike (unexpected_alike _)

theorem spanFrom_alike {start otherStart : Nat} (starts : runs.Offsets start otherStart) :
    runs.Alike (runs.Same Span.relocate) (spanFrom start) (spanFrom otherStart) := by
  apply get_alike.bind
  intro cursor other related
  apply Alike.pure
  have stops : runs.Offsets (max cursor.lastStop start) (max other.lastStop otherStart) := by
    rcases related.lastStop with ⟨same, otherSame⟩ | stops
    · -- Nothing has been taken.
      rw [same, otherSame]
      exact runs.sinceBeginning starts
    · exact runs.greater stops starts
  rw [Same, Span.relocate, Span.relocate, runs.moves starts, runs.moves stops]

/-! Something that may be missing. -/

section Optional

variable {view : (Nat → Nat) → α → β} {first second : Parse α}

theorem afterMark_alike (mark : Punctuator) (item : runs.Alike (runs.Same view) first second) :
    runs.Alike (runs.Same (perhaps view)) (afterMark mark first) (afterMark mark second) := by
  apply (accept_alike mark).bindEq
  intro found
  apply Alike.branch
  · exact item.present
  · exact .pure rfl

theorem afterWord_alike (word : String) (item : runs.Alike (runs.Same view) first second) :
    runs.Alike (runs.Same (perhaps view)) (afterWord word first) (afterWord word second) := by
  apply (acceptWord_alike word).bindEq
  intro found
  apply Alike.branch
  · exact item.present
  · exact .pure rfl

end Optional

/-! Repetition. -/

inductive Turns (values : α → β → Prop) : Turn α → Turn β → Prop
  | stop : Turns values .stop .stop
  | last {first second} : values first second → Turns values (.last first) (.last second)
  | more {first second} : values first second → Turns values (.more first) (.more second)

section Repetition

variable {view : (Nat → Nat) → α → β} {first second : Parse (Turn α)}

theorem repeated_eq (turn : Parse (Turn α)) (cursor : Cursor) :
    repeated turn cursor = (turn >>= fun turned => match turned with
      | .stop => pure []
      | .last item => pure [item]
      | .more item => fun after =>
          if after.ahead.length < cursor.ahead.length then
            (repeated turn >>= fun items => pure (item :: items)) after
          else .ok [item] after) cursor := by
  rw [repeated]
  simp only [Bind.bind, EStateM.bind]
  cases turn cursor with
  | error => rfl
  | ok turned after =>
      cases turned with
      | stop => rfl
      | last => rfl
      | more item =>
          dsimp only
          split
          · cases repeated turn after <;> rfl
          · rfl

theorem repeated_alike (turn : runs.Alike (Turns (runs.Same view)) first second) :
    runs.Alike (runs.Same (each view)) (repeated first) (repeated second) := by
  intro left right related
  -- Every further turn begins with fewer tokens ahead.
  induction size : left.ahead.length using Nat.strongRecOn generalizing left right with
  | ind length induction =>
      rw [repeated_eq, repeated_eq]
      apply (turn related).bind
      intro turned other after otherAfter turns later
      cases turns with
      | stop => exact .ok rfl later
      | last same =>
          apply Outcome.ok _ later
          simp only [Same, each, List.map_cons, List.map_nil, same]
      | more same =>
          dsimp only
          simp only [← related.shorter_iff later]
          split
          · next shorter =>
              apply (induction _ (size ▸ shorter) later rfl).bind
              intro items others last otherLast rest lastRelated
              apply Outcome.ok _ lastRelated
              simp only [Same, each, List.map_cons, same] at rest ⊢
              rw [rest]
          · apply Outcome.ok _ later
            simp only [Same, each, List.map_cons, List.map_nil, same]

theorem commaTurn_alike {item other : α} (same : runs.Same view item other) :
    runs.Alike (Turns (runs.Same view)) (commaTurn item) (commaTurn other) := by
  apply (accept_alike .comma).bindEq
  intro found
  exact .branch (.pure (.more same)) (.pure (.last same))

theorem commaList_alike {item other : Parse α} (closing : Punctuator)
    (same : runs.Alike (runs.Same view) item other) :
    runs.Alike (runs.Same (each view)) (commaList closing item) (commaList closing other) := by
  apply repeated_alike
  apply (atMark_alike closing).bindEq
  intro found
  apply Alike.branch
  · exact .pure .stop
  · exact same.bind fun _ _ => commaTurn_alike

end Repetition

/-! Trial. -/

theorem Errors.isFinal_eq {error other : SyntaxError} (errors : runs.Errors error other) :
    error.isFinal = other.isFinal := by
  cases errors with
  | lexical => rfl
  | grammar => rfl

theorem StopsEarly.isFinal {error : SyntaxError} (stops : runs.StopsEarly error) :
    error.isFinal = true := by
  cases stops with
  | refused => rfl
  | brokenOff => rfl

theorem speculate_alike {view : (Nat → Nat) → α → β} {first second : Parse (Option α)}
    (attempt : runs.Alike (runs.Same (perhaps view)) first second) :
    runs.Alike (runs.Same (perhaps view)) (speculate SyntaxError.isFinal first)
      (speculate SyntaxError.isFinal second) := by
  intro left right related
  have tried := attempt related
  unfold speculate
  revert tried
  generalize first left = firstResult
  generalize second right = secondResult
  intro tried
  cases tried with
  | ok same later =>
      rcases same.perhaps_cases with ⟨rfl, rfl⟩ | ⟨value, other, rfl, rfl, _⟩
      · exact .ok rfl related
      · exact .ok same later
  | error errors later =>
      simp only [errors.isFinal_eq]
      split
      · exact .error errors later
      · exact .ok rfl related
  | early stops =>
      simp only [stops.isFinal, if_true]
      exact .early stops

/-! Names and literals. -/

theorem identifierOf_same {token other : Token} (alike : token.Alike runs.Offsets other) :
    runs.Same Identifier.relocate (identifierOf token) (identifierOf other) := by
  simp only [Same, Identifier.relocate, identifierOf, Same.span alike, alike.text]

theorem identifier_alike : runs.Alike (runs.Same Identifier.relocate) identifier identifier := by
  apply current_alike.bind
  intro token other alike
  apply Alike.ite (by rw [alike.kind])
  · apply take_alike.bind
    intro taken otherTaken same
    exact .pure (identifierOf_same same)
  · exact identifierExpected_alike

theorem identifierName_alike :
    runs.Alike (runs.Same Identifier.relocate) identifierName identifierName := by
  apply current_alike.bind
  intro token other alike
  apply Alike.ite (by rw [alike.kind])
  · apply take_alike.bind
    intro taken otherTaken same
    exact .pure (identifierOf_same same)
  · exact identifierExpected_alike

theorem literalOf?_same {token other : Token} (alike : token.Alike runs.Offsets other) :
    runs.Same (perhaps Literal.relocate) (literalOf? token) (literalOf? other) := by
  simp only [Same, perhaps, literalOf?, alike.kind, alike.text, alike.stringValue?]
  split
  · simp [Literal.relocate, Same.span alike]
  · simp [Literal.relocate, Same.span alike]
  · split
    · simp [Literal.relocate, Same.span alike]
    · split
      · simp [Literal.relocate, Same.span alike]
      · split
        · simp [Literal.relocate, Same.span alike]
        · rfl
  · rfl

end TwoRuns

end TypedScript
