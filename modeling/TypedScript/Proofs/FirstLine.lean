import TypedScript.Parser.Statements
import TypedScript.Proofs.Lexing.Joining
import TypedScript.Proofs.Reading.Tokens
import TypedScript.Proofs.TwoRuns.Tokens

/-!
A line break before the first token of a text does not matter. Whether a line has ended before a
token is asked only of tokens that come after another one in the same statement.
-/

namespace TypedScript

structure Cursor.OnNewLine (cursor other : Cursor) : Prop where
  ahead : ∃ first rest, cursor.ahead = first :: rest ∧ other.ahead = first.onNewLine :: rest
  ending : other.ending = cursor.ending
  lastStop : other.lastStop = cursor.lastStop

namespace Cursor.OnNewLine

variable {cursor other : Cursor}

theorem peek (line : cursor.OnNewLine other) :
    ∃ token, cursor.peek 0 = .ok token ∧ other.peek 0 = .ok token.onNewLine := by
  rcases line.ahead with ⟨first, rest, ahead, otherAhead⟩
  exact ⟨first, peek_of_ahead ahead, peek_of_ahead otherAhead⟩

theorem peek_succ (line : cursor.OnNewLine other) (count : Nat) :
    other.peek (count + 1) = cursor.peek (count + 1) := by
  rcases line.ahead with ⟨first, rest, ahead, otherAhead⟩
  rw [Cursor.peek, Cursor.peek, ahead, otherAhead, line.ending, List.getElem?_cons_succ,
    List.getElem?_cons_succ]

theorem next (line : cursor.OnNewLine other) : other.next = cursor.next := by
  rcases line.ahead with ⟨first, rest, ahead, otherAhead⟩
  refine Cursor.ext ?_ ?_ ?_
  · rw [next_ahead, next_ahead, ahead, otherAhead, List.tail_cons, List.tail_cons]
  · rw [next_ending, next_ending, line.ending]
  · rw [next_lastStop, next_lastStop, ahead, otherAhead]
    rfl

end Cursor.OnNewLine

namespace Parse

variable {α β : Type} {cursor other : Cursor}

/-- From both places the parser comes to the same, unless it fails. -/
def SameOn (cursor other : Cursor) (parser : Parse α) : Prop :=
  parser cursor = parser other ∨
    ∃ error after otherError otherAfter, parser cursor = .error error after ∧
      parser other = .error otherError otherAfter

def IgnoresLine (parser : Parse α) : Prop :=
  ∀ ⦃cursor other⦄, cursor.OnNewLine other → SameOn cursor other parser

namespace SameOn

theorem bind {parser : Parse α} (same : SameOn cursor other parser) (next : α → Parse β) :
    SameOn cursor other (parser >>= next) := by
  unfold SameOn
  simp only [Bind.bind, EStateM.bind]
  rcases same with equal | ⟨error, after, otherError, otherAfter, failed, otherFailed⟩
  · rw [equal]
    exact .inl rfl
  · rw [failed, otherFailed]
    exact .inr ⟨error, after, otherError, otherAfter, rfl, rfl⟩

theorem map {parser : Parse α} (same : SameOn cursor other parser) (change : α → β) :
    SameOn cursor other (change <$> parser) := by
  rw [map_eq_pure_bind]
  exact same.bind _

/-- What follows a look at the first token may depend on all but the line break. -/
theorem current_bind (line : cursor.OnNewLine other) {next : Token → Parse α}
    (unaware : ∀ token, next token.onNewLine = next token)
    (second : ∀ token, cursor.peek 0 = .ok token → SameOn cursor other (next token)) :
    SameOn cursor other (current >>= next) := by
  rcases line.peek with ⟨token, found, otherFound⟩
  have same := second token found
  unfold SameOn at same ⊢
  rw [bind_of_ok (current_eq_ok.mpr ⟨found, rfl⟩), bind_of_ok (current_eq_ok.mpr ⟨otherFound, rfl⟩),
    unaware]
  exact same

theorem currentStart_bind (line : cursor.OnNewLine other) {next : Nat → Parse α}
    (second : ∀ start, SameOn cursor other (next start)) :
    SameOn cursor other (currentStart >>= next) := by
  rw [currentStart, bind_assoc]
  refine current_bind line (fun _ => rfl) fun token _ => ?_
  rw [pure_bind]
  exact second token.start

theorem kindAhead_bind (line : cursor.OnNewLine other) {next : TokenKind → Parse α} (count : Nat)
    (second : ∀ kind, SameOn cursor other (next kind)) :
    SameOn cursor other (kindAhead (count + 1) >>= next) := by
  rw [kindAhead, bind_assoc]
  unfold SameOn
  simp only [Bind.bind, EStateM.bind, Parse.peek, line.peek_succ count]
  cases cursor.peek (count + 1) with
  | ok token => exact second token.kind
  | error error => exact .inr ⟨_, _, _, _, rfl, rfl⟩

theorem take_bind (line : cursor.OnNewLine other) {next : Token → Parse α}
    (unaware : ∀ token, next token.onNewLine = next token) :
    SameOn cursor other (take >>= next) := by
  rcases line.peek with ⟨token, found, otherFound⟩
  left
  rw [bind_of_ok (take_eq_ok.mpr ⟨found, rfl⟩), bind_of_ok (take_eq_ok.mpr ⟨otherFound, rfl⟩),
    unaware, line.next]

theorem get_bind {next : Cursor → Parse α} (unaware : next other = next cursor)
    (second : SameOn cursor other (next cursor)) : SameOn cursor other (get >>= next) := by
  change next cursor cursor = next other other ∨ ∃ error after otherError otherAfter,
    next cursor cursor = .error error after ∧ next other other = .error otherError otherAfter
  rw [unaware]
  exact second

theorem speculate_bind {isFinal : SyntaxError → Bool} {attempt : Parse (Option α)}
    {next : Option α → Parse β} (equal : attempt cursor = attempt other)
    (absent : SameOn cursor other (next none)) :
    SameOn cursor other (speculate isFinal attempt >>= next) := by
  unfold SameOn
  simp only [Bind.bind, EStateM.bind, speculate, equal]
  cases attempt other with
  | ok found after =>
      cases found with
      | some => exact .inl rfl
      | none => exact absent
  | error error after =>
      by_cases final : isFinal error = true
      · left
        simp only [if_pos final]
      · simp only [if_neg final]
        exact absent

end SameOn

namespace IgnoresLine

theorem failAt {fault : GrammarFault} {expected : Expected} :
    (failAt fault expected : Parse α).IgnoresLine := by
  intro cursor other line
  rcases line.peek with ⟨token, found, otherFound⟩
  right
  rw [Parse.failAt, bind_of_ok (current_eq_ok.mpr ⟨found, rfl⟩),
    bind_of_ok (current_eq_ok.mpr ⟨otherFound, rfl⟩)]
  exact ⟨_, _, _, _, rfl, rfl⟩

theorem unexpected {expected : Expected} : (unexpected expected : Parse α).IgnoresLine := by
  intro cursor other line
  refine .current_bind line (fun _ => rfl) fun token _ => ?_
  split <;> exact failAt line

/-- A token that must come first is taken, or both runs fail. -/
theorem expectKind_bind {next : Token → Parse α} (kind : TokenKind)
    (unaware : ∀ token, next token.onNewLine = next token) :
    (expectKind kind >>= next).IgnoresLine := by
  intro cursor other line
  rw [expectKind, bind_assoc]
  refine .current_bind line (fun _ => rfl) fun token _ => ?_
  split
  · exact .take_bind line unaware
  · exact (unexpected line).bind next

theorem currentStart_bind {next : Nat → Parse α} (second : ∀ start, (next start).IgnoresLine) :
    (currentStart >>= next).IgnoresLine :=
  fun _ _ line => .currentStart_bind line fun start => second start line

/-- Most rules note where they begin, and then a certain token must come. -/
theorem expecting {next : Nat → Token → Parse α} (kind : TokenKind)
    (unaware : ∀ start token, next start token.onNewLine = next start token) :
    (currentStart >>= fun start => expectKind kind >>= next start).IgnoresLine :=
  currentStart_bind fun start => expectKind_bind kind (unaware start)

theorem bind {parser : Parse α} (ignores : parser.IgnoresLine) (next : α → Parse β) :
    (parser >>= next).IgnoresLine :=
  fun _ _ line => (ignores line).bind next

/-! Expressions. -/

variable {nesting : Nesting}

theorem primaryExpression : (primaryExpression nesting).IgnoresLine := by
  intro cursor other line
  have literalOrName : SameOn cursor other literalOrName := .take_bind line fun _ => rfl
  refine .current_bind line (fun _ => rfl) fun token _ => ?_
  split
  · exact literalOrName
  · exact literalOrName
  · exact literalOrName
  · exact expecting _ (fun _ _ => rfl) line
  · exact expecting _ (fun _ _ => rfl) line
  · exact expecting _ (fun _ _ => rfl) line
  · exact unexpected line

theorem leftHandSide : (leftHandSide nesting).IgnoresLine := by
  refine currentStart_bind fun start => bind (fun cursor other line => ?_) _
  refine .current_bind line (fun _ => rfl) fun token _ => ?_
  split
  · exact expecting _ (fun _ _ => rfl) line
  · exact primaryExpression line

theorem conditional : (conditional nesting).IgnoresLine := by
  have unary : (unary nesting).IgnoresLine := by
    intro cursor other line
    refine .current_bind line (fun _ => rfl) fun token _ => ?_
    split
    · split
      · exact .take_bind line fun _ => rfl
      · exact leftHandSide line
    · exact leftHandSide line
  exact currentStart_bind fun _ => bind (currentStart_bind fun _ => bind unary _) _

theorem arrowLookahead_onNewLine (line : cursor.OnNewLine other) :
    arrowLookahead other.ahead = arrowLookahead cursor.ahead := by
  rcases line.ahead with ⟨first, rest, ahead, otherAhead⟩
  rw [ahead, otherAhead]
  rfl

theorem parenthesizedArrow_onNewLine (line : cursor.OnNewLine other) {token : Token}
    (found : cursor.peek 0 = .ok token) (isOpen : token.kind = .punctuator .openParen) :
    parenthesizedArrow nesting cursor = parenthesizedArrow nesting other := by
  rcases line.peek with ⟨first, firstFound, otherFound⟩
  cases found.symm.trans firstFound
  have same : parameters nesting true cursor = parameters nesting true other := by
    rw [parameters, expect, bind_of_ok (expectKind_eq_ok.mpr ⟨found, isOpen, rfl⟩),
      bind_of_ok (expectKind_eq_ok.mpr ⟨otherFound, isOpen, rfl⟩), line.next]
  rw [parenthesizedArrow, bind_of_ok (currentStart_eq_ok.mpr ⟨⟨token, found, rfl⟩, rfl⟩),
    bind_of_ok (currentStart_eq_ok.mpr ⟨⟨_, otherFound, rfl⟩, rfl⟩)]
  simp only [Bind.bind, EStateM.bind, same]
  rfl

theorem arrow?_bind {next : Option Expression → Parse α} (absent : (next none).IgnoresLine) :
    (arrow? nesting >>= next).IgnoresLine := by
  intro cursor other line
  rw [arrow?, bind_assoc]
  refine .current_bind line (fun _ => rfl) fun token found => ?_
  split
  · rw [bind_assoc]
    refine .kindAhead_bind line 0 fun kind => ?_
    split
    · exact (SameOn.map (.take_bind line fun _ => rfl) some).bind next
    · rw [pure_bind]
      exact absent line
  · next isOpen =>
      have same := @parenthesizedArrow_onNewLine _ _ nesting line _ found isOpen
      have someArrow : (some <$> parenthesizedArrow nesting) cursor =
          (some <$> parenthesizedArrow nesting) other := by
        simp only [Functor.map, EStateM.map, same]
      rw [bind_assoc]
      refine .get_bind (by rw [arrowLookahead_onNewLine line]) ?_
      split
      · exact SameOn.bind (.inl someArrow) next
      · exact .speculate_bind someArrow (absent line)
      · rw [pure_bind]
        exact absent line
  · rw [pure_bind]
    exact absent line

theorem assignment : (assignment nesting).IgnoresLine :=
  arrow?_bind (currentStart_bind fun _ => bind conditional _)

/-! Statements. -/

theorem declaration?_bind {next : Option Statement → Parse α} (absent : (next none).IgnoresLine) :
    (declaration? nesting >>= next).IgnoresLine := by
  intro cursor other line
  have declares (kind : VariableKind) :
      SameOn cursor other (variableDeclaration nesting kind) :=
    .currentStart_bind line fun _ => .take_bind line fun _ => rfl
  rw [declaration?, bind_assoc]
  refine .current_bind line (fun _ => rfl) fun token found => ?_
  split
  · exact (SameOn.map (expecting _ (fun _ _ => rfl) line) some).bind next
  · exact (SameOn.map (expecting _ (fun _ _ => rfl) line) some).bind next
  · exact (SameOn.map (expecting _ (fun _ _ => rfl) line) some).bind next
  · exact ((declares .constant).map some).bind next
  · rw [bind_assoc, atLet, bind_assoc, atWord, bind_assoc]
    refine .current_bind line (fun _ => rfl) fun token _ => ?_
    rw [pure_bind]
    split
    · rw [bind_assoc]
      refine .kindAhead_bind line 0 fun kind => ?_
      rw [pure_bind]
      split
      · exact ((declares .mutable).map some).bind next
      · rw [pure_bind]
        exact absent line
    · rw [pure_bind, if_neg Bool.false_ne_true, pure_bind]
      exact absent line
  · rw [pure_bind]
    exact absent line

theorem statement
    (inner : ∀ {level : Level}, nesting.inner = some level → level.assignment.IgnoresLine) :
    (statement nesting).IgnoresLine := by
  have expression : nesting.expression.IgnoresLine := by
    unfold Nesting.expression Nesting.enter
    split
    · next level found => exact inner found
    · exact bind failAt _
  have expressionStatement : (expressionStatement nesting).IgnoresLine := by
    intro cursor other line
    refine .current_bind line (fun _ => rfl) fun token _ => ?_
    split
    · exact bind expression _ line
    · exact unexpected line
  intro cursor other line
  refine .current_bind line (fun _ => rfl) fun token _ => ?_
  split
  · exact expecting _ (fun _ _ => rfl) line
  · exact expecting _ (fun _ _ => rfl) line
  · exact expecting _ (fun _ _ => rfl) line
  · exact .currentStart_bind line fun _ => .take_bind line fun _ => rfl
  · exact declaration?_bind expressionStatement line

end IgnoresLine

theorem statements_onNewLine (rules : Rules) (room : Nat) (line : cursor.OnNewLine other)
    {list : List Statement} {after : Cursor}
    (parsed : statements (.ofRoom rules room) cursor = .ok list after) :
    statements (.ofRoom rules room) other = .ok list after := by
  have inner {level : Level} (found : (Nesting.ofRoom rules room).inner = some level) :
      level.assignment.IgnoresLine := by
    cases room with
    | zero => cases found
    | succ room =>
        cases found
        exact IgnoresLine.assignment
  have turn : SameOn cursor other (statementTurn (.ofRoom rules room)) := by
    refine .current_bind line (fun _ => rfl) fun token found => ?_
    split
    · next isEnd =>
        rcases line.ahead with ⟨first, rest, ahead, _⟩
        cases ahead.symm.trans (Cursor.ahead_of_end found isEnd).1
    · exact (IgnoresLine.statement inner line).map _
  rcases line.ahead with ⟨first, rest, ahead, otherAhead⟩
  have sameLength : other.ahead.length = cursor.ahead.length := by
    rw [ahead, otherAhead, List.length_cons, List.length_cons]
  rw [statements, TwoRuns.repeated_eq] at parsed ⊢
  rw [sameLength]
  rcases turn.bind _ with equal | ⟨_, _, _, _, failed, _⟩
  · rw [← equal]
    exact parsed
  · cases failed.symm.trans parsed

end Parse

end TypedScript
