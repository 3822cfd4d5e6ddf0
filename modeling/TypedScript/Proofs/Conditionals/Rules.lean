import TypedScript.Proofs.Lexing.Parentheses
import TypedScript.Proofs.Rerun.Transfer

/-!
Conditionals with parentheses.
-/

namespace TypedScript

namespace Parse

variable {limit : Nat} {nesting : Nesting} {before between after cursor : Cursor}
  {value other : Expression} {token next : Token} {mark : Punctuator}

/-! Operands that a mark of a conditional ends. -/

theorem suffixes_at_mark (seen : cursor.peek 0 = .ok token)
    (kind : token.kind = .punctuator .question ∨ token.kind = .punctuator .colon) (start : Nat)
    (allowCalls : Bool) (base : Expression) :
    Reaches (suffixes nesting start allowCalls base) cursor cursor (· = base) := by
  apply (current_reaches seen).bindEq
  rcases kind with kind | kind <;> rw [kind] <;> exact .pure rfl

theorem operators_at_mark (seen : cursor.peek 0 = .ok token)
    (kind : token.kind = .punctuator .question ∨ token.kind = .punctuator .colon)
    (start minimum : Nat) (left : Expression) :
    Reaches (operators nesting start minimum left) cursor cursor (· = left) := by
  have none : Reaches binaryOperator? cursor cursor (· = none) := by
    apply (current_reaches seen).bindEq
    rcases kind with kind | kind <;> simp only [Token.isMark, kind] <;> exact .pure rfl
  exact none.bindEq (.pure rfl)

/-- A name or something in parentheses, before a question mark or a colon, is a whole operand. -/
theorem binary_arrives (seen : before.peek 0 = .ok token)
    (begins : token.kind = .identifier ∨ token.kind = .punctuator .openParen)
    (base : Arrives limit (leftHandBase nesting) before between value)
    (seenNext : between.peek 0 = .ok next)
    (kind : next.kind = .punctuator .question ∨ next.kind = .punctuator .colon) (minimum : Nat) :
    Arrives limit (binary nesting minimum) before between value := by
  have operand : Arrives limit (leftHandSide nesting) before between value := by
    apply Arrives.step (currentStart_reaches seen)
    apply base.bind
    exact .ofReaches (suffixes_at_mark seenNext kind _ _ _)
  apply Arrives.step (currentStart_reaches seen)
  have whole : Arrives limit (unary nesting) before between value := by
    apply Arrives.step (current_reaches seen)
    rcases begins with isName | isOpen
    · rw [isName]
      exact operand
    · rw [isOpen]
      exact operand
  apply whole.bind
  exact .ofReaches (operators_at_mark seenNext kind _ _ _)

theorem name_reaches (seen : cursor.peek 0 = .ok token) (plain : token.kind = .identifier)
    (noLiteral : literalOf? token = none) :
    Reaches (leftHandBase nesting) cursor cursor.next (· = .identifier (identifierOf token)) := by
  apply (current_reaches seen).bindEq
  rw [if_neg (by simp [plain])]
  apply (current_reaches seen).bindEq
  rw [plain]
  apply (take_reaches seen).bindEq
  rw [noLiteral]
  exact .pure rfl

theorem parenthesized_arrives {closing : Token} (seen : before.peek 0 = .ok token)
    (opens : token.kind = .punctuator .openParen)
    (inner : Arrives limit nesting.expression before.next between value)
    (seenClosing : between.peek 0 = .ok closing) (closes : closing.kind = .punctuator .closeParen) :
    Arrives limit (leftHandBase nesting) before between.next
      (.parenthesized ⟨token.start, max between.next.lastStop token.start⟩ value) := by
  apply Arrives.step (current_reaches seen)
  rw [if_neg (by simp [opens])]
  apply Arrives.step (current_reaches seen)
  rw [opens]
  apply Arrives.step (currentStart_reaches seen)
  apply Arrives.step (expectKind_reaches seen opens)
  apply inner.bind
  apply Arrives.step (expectKind_reaches seenClosing closes)
  apply Arrives.step (spanFrom_reaches _)
  exact .pure _

theorem assignment_parenthesized {closing colon : Token} (seen : before.peek 0 = .ok token)
    (opens : token.kind = .punctuator .openParen)
    (untaken : Arrives limit (arrow? nesting) before before none)
    (inner : Arrives limit nesting.expression before.next between value)
    (seenClosing : between.peek 0 = .ok closing) (closes : closing.kind = .punctuator .closeParen)
    (seenColon : between.next.peek 0 = .ok colon) (isColon : colon.kind = .punctuator .colon) :
    Arrives limit (assignment nesting) before between.next
      (.parenthesized ⟨token.start, max between.next.lastStop token.start⟩ value) := by
  apply untaken.bind
  apply Arrives.step (currentStart_reaches seen)
  have operand := binary_arrives seen (.inr opens)
    (parenthesized_arrives seen opens inner seenClosing closes) seenColon (.inr isColon) 0
  have whole : Arrives limit (conditional nesting) before between.next
      (.parenthesized ⟨token.start, max between.next.lastStop token.start⟩ value) := by
    apply Arrives.step (currentStart_reaches seen)
    apply operand.bind
    apply Arrives.step (accept_absent seenColon (by simp [Token.isMark, isColon]))
    exact .pure _
  apply whole.bind
  apply Arrives.step (current_reaches seenColon)
  rw [isColon]
  exact .pure _

theorem accept_reaches (seen : cursor.peek 0 = .ok token) (kind : token.kind = .punctuator mark) :
    Reaches (accept mark) cursor cursor.next (· = true) := by
  apply (atMark_reaches seen mark).bindEq
  rw [Token.isMark_iff.mpr kind]
  exact (take_reaches seen).bindEq (.pure rfl)

theorem assignment_conditional {question colon last : Token} (seen : before.peek 0 = .ok token)
    (plain : token.kind = .identifier) (noLiteral : literalOf? token = none)
    (seenQuestion : before.next.peek 0 = .ok question)
    (isQuestion : question.kind = .punctuator .question)
    (whenTrue : Arrives limit nesting.expression before.next.next between value)
    (seenColon : between.peek 0 = .ok colon) (isColon : colon.kind = .punctuator .colon)
    (whenFalse : Arrives limit nesting.expression between.next after other)
    (seenLast : after.peek 0 = .ok last) (isEnd : last.kind = .endOfFile) :
    Arrives limit (assignment nesting) before after
      (.conditional ⟨token.start, max after.lastStop token.start⟩ (.identifier (identifierOf token))
        value other) := by
  have noArrow : Reaches (arrow? nesting) before before (· = none) := by
    apply (current_reaches seen).bindEq
    rw [plain]
    rw [Cursor.next_peek] at seenQuestion
    apply (kindAhead_reaches seenQuestion).bindEq
    rw [if_neg (by simp [isQuestion])]
    exact .pure rfl
  apply Arrives.step noArrow
  apply Arrives.step (currentStart_reaches seen)
  have condition := @binary_arrives limit nesting _ _ _ _ _ seen (.inl plain)
    (.ofReaches (name_reaches seen plain noLiteral)) seenQuestion (.inl isQuestion) 0
  have whole : Arrives limit (conditional nesting) before after
      (.conditional ⟨token.start, max after.lastStop token.start⟩
        (.identifier (identifierOf token)) value other) := by
    apply Arrives.step (currentStart_reaches seen)
    apply condition.bind
    apply Arrives.step (accept_reaches seenQuestion isQuestion)
    apply whenTrue.bind
    apply Arrives.step (expectKind_reaches seenColon isColon)
    apply whenFalse.bind
    apply Arrives.step (spanFrom_reaches _)
    exact .pure _
  apply whole.bind
  apply Arrives.step (current_reaches seenLast)
  rw [isEnd]
  exact .pure _

theorem type_of_declaredType? {found : Option TypeExpr} (seen : cursor.peek 0 = .ok token)
    (isColon : token.kind = .punctuator .colon)
    (read : declaredType? nesting cursor = .ok found after) :
    ∃ type, nesting.type cursor.next = .ok type after := by
  rcases accept_reaches seen isColon with ⟨_, accepted, rfl⟩
  simp only [declaredType?, afterMark, bind_eq_ok] at read
  rcases read with ⟨_, _, again, read⟩
  cases accepted.symm.trans again
  rw [if_pos rfl] at read
  rcases map_eq_ok.mp read with ⟨type, typeRead, _⟩
  exact ⟨type, typeRead⟩

theorem endOfInput_reaches (seen : cursor.peek 0 = .ok token) (isEnd : token.kind = .endOfFile) :
    Reaches endOfInput cursor cursor (· = ()) := by
  apply (current_reaches seen).bindEq
  rw [if_neg (not_not_intro isEnd)]
  exact .pure rfl

theorem whole_arrives {α : Type} {item : Parse α} {result : α}
    (arrives : Arrives limit item before after result) (seen : after.peek 0 = .ok token)
    (isEnd : token.kind = .endOfFile) :
    Arrives limit (do let value ← item; endOfInput; return value) before after result :=
  arrives.bind (.step (endOfInput_reaches seen isEnd) (.pure _))

/-! Parentheses before a colon. -/

theorem arrow?_untaken {room : Nat} (seen : before.peek 0 = .ok token)
    (opens : token.kind = .punctuator .openParen)
    (looks : arrowLookahead before.ahead = .ambiguous)
    (untaken : ∀ value after,
      parenthesizedArrow (.ofRoom (.ofLimit limit) room) before ≠ .ok value after) :
    Arrives limit (arrow? (.ofRoom (.ofLimit limit) room)) before before none := by
  let rerun : Rerun := ⟨[], limit⟩
  have nestings : rerun.Nestings (.ofRoom (.ofLimit limit) room) (.ofRoom (.ofLimit limit) room) :=
    Rerun.nestings_ofRoom (fun _ => id) room 0
  have outcome := ((Rerun.parenthesizedArrow_begins nestings).alike []).map some
    (.of_eq rfl before)
  apply Arrives.step (current_reaches seen)
  rw [opens]
  have here : Reaches get before before (· = before) := ⟨before, rfl, rfl⟩
  apply Arrives.step here
  rw [looks]
  change Arrives limit (speculate _ _) before before none
  rw [nestings.otherRules]
  refine .speculate (fun error after failed stands => outcome.stops_of_error failed stands)
    fun found after tried => ?_
  rcases map_eq_ok.mp tried with ⟨value, read, _⟩
  exact untaken value after read

theorem parameters_leave {room : Nat} {list : List Parameter} {inside : List Token}
    (read : parameters (.ofRoom (.ofLimit limit) room) true cursor = .ok list after)
    (ahead : cursor.ahead = token :: inside) : after.ahead <:+ inside := by
  rcases parameters_reads (Nesting.ofRoom_reading _ _) true read with ⟨_, ⟨_, _, written⟩, piece⟩
  cases piece with
  | @intro tokens _ takes _ =>
      have split := takes.ahead
      cases tokens with
      | nil => cases written
      | cons first taken =>
          rw [ahead] at split
          exact ⟨taken, (List.cons.inj split).2.symm⟩

/-- Parameters in parentheses that are followed by something are the same where nothing follows
them: brackets match between the parentheses, so the second of them closes the list. -/
theorem parameters_enclosed {room : Nat} (extra : Nat) {left right : Cursor}
    {opening closing : Token}
    {inner tail : List Token} {list : List Parameter} (balance : balances [] inner = true)
    (closes : closing.kind = .punctuator .closeParen) (more : tail ≠ [])
    (ahead : left.ahead = opening :: (inner ++ [closing])) (ended : left.ending = .endOfFile next)
    (otherAhead : right.ahead = opening :: (inner ++ closing :: tail))
    (read : parameters (.ofRoom (.ofLimit limit) room) true right = .ok list after) :
    ∃ leftAfter, parameters (.ofRoom (.ofLimit limit) (room + extra)) true left =
      .ok list leftAfter ∧ leftAfter.ahead = [] ∧ after.ahead = tail := by
  have closingBalance : balances [.closeParen] [closing] = true :=
    (balances_close (by rw [closes]; rfl)).mpr
      ⟨.closeParen, [], rfl, closes, balances_nil.mpr rfl⟩
  rcases Cursor.next_of_ahead ahead with ⟨nextAhead, nextEnding, nextStop⟩
  rcases Cursor.next_of_ahead otherAhead with ⟨otherNextAhead, _, otherNextStop⟩
  simp only [parameters, bind_eq_ok, pure_eq_ok] at read
  rcases read with ⟨_, _, opened, values, listEnd, listRead, token, _, closed, rfl, rfl⟩
  rcases expectKind_eq_ok.mp opened with ⟨otherSeen, opens, rfl⟩
  rcases expectKind_eq_ok.mp closed with ⟨otherSeenEnd, isClosing, rfl⟩
  cases (Cursor.peek_of_ahead otherAhead).symm.trans otherSeen
  -- The list of parameters stands within brackets in both runs.
  let rerun : Rerun := ⟨tail, limit⟩
  have nestings : rerun.Nestings (.ofRoom (.ofLimit limit) (room + extra))
      (.ofRoom (.ofLimit limit) room) :=
    Rerun.nestings_ofRoom (fun _ => id) room extra
  have related : rerun.Related [.closeParen] left.next right.next := by
    refine ⟨.inside, .inr ⟨more, ?_, otherNextStop.trans nextStop.symm, ⟨next, ?_⟩, ?_⟩⟩
    · rw [nextAhead, otherNextAhead, List.append_assoc]
      rfl
    · rw [nextEnding, ended]
    · rw [nextAhead]
      exact balances_append balance closingBalance
  have outcome := Rerun.commaList_alike .closeParen
    (Rerun.parameter_begins nestings true).alike related
  rw [listRead] at outcome
  rcases outcome.of_other_ok with ⟨leftEnd, leftRead, reached⟩
  have seenEnd := reached.inside.trans otherSeenEnd
  rcases Cursor.ahead_of_peek seenEnd (by simp [isClosing]) with ⟨rest, endAhead⟩
  have whole : parameters (.ofRoom (.ofLimit limit) (room + extra)) true left =
      .ok values leftEnd.next := by
    simp only [parameters, bind_eq_ok, pure_eq_ok]
    exact ⟨_, _, expectKind_eq_ok.mpr ⟨Cursor.peek_of_ahead ahead, opens, rfl⟩, _, _, leftRead, _,
      _, expectKind_eq_ok.mpr ⟨seenEnd, isClosing, rfl⟩, rfl, rfl⟩
  have within : rerun.Within [.closeParen] leftEnd listEnd := by
    rcases reached.places with ⟨nothing, _⟩ | within
    · exact absurd nothing more
    · exact within
  have remains : balances [] rest = true := by
    have balance := within.balance
    rw [endAhead] at balance
    rcases (balances_close (by rw [isClosing]; rfl)).mp balance with ⟨_, _, ⟨⟩, _, remains⟩
    exact remains
  have restAhead := (Cursor.next_of_ahead endAhead).1
  have isSuffix := parameters_leave whole ahead
  rw [restAhead] at isSuffix
  have nothing := eq_nil_of_balances balance closingBalance isSuffix remains
  have otherEndAhead : listEnd.ahead = token :: tail := by
    rw [within.ahead, endAhead, nothing]
    rfl
  exact ⟨leftEnd.next, whole, restAhead.trans nothing, (Cursor.next_of_ahead otherEndAhead).1⟩

end Parse

end TypedScript
