import TypedScript.Proofs.Angles.Basic
import TypedScript.Proofs.Conditionals.Rules
import TypedScript.Proofs.Conditionals.Tokens

/-!
Conditionals whose true branch stands in parentheses. After the parentheses comes a colon, so they
may also be taken for the parameters of an arrow function with a declared result. Main statement:
both branches are read as by themselves, unless an arrow function begins at the parentheses or
brackets do not match in the true branch.
-/

namespace TypedScript

def ReadsAsParameters (options : ParseOptions) (source : String) : Prop :=
  ∃ parameters, Parse.run options ("(" ++ source ++ ")") (fun nesting => do
    let parameters ← Parse.parameters nesting true
    Parse.endOfInput
    return parameters) = .ok parameters

def BeginsWithResult (options : ParseOptions) (source : String) : Prop :=
  ∃ type, Parse.run options source (fun nesting => do
    let type ← nesting.type
    let _ ← Parse.expect .arrow
    return type) = .ok type

/-- The tree of a conditional with a name as its condition and a true branch in parentheses, from
those that the two branches have by themselves. -/
def conditionalTree (name source : String) (value other : Expression) : Expression :=
  let whenTrue := value.relocate (· + (name.utf8ByteSize + 4))
  let whenFalse := other.relocate (· + (name.utf8ByteSize + source.utf8ByteSize + 8))
  .conditional ⟨0, whenFalse.span.stop⟩ (.identifier ⟨⟨0, name.utf8ByteSize⟩, name⟩)
    (.parenthesized ⟨name.utf8ByteSize + 3, name.utf8ByteSize + source.utf8ByteSize + 5⟩ whenTrue)
    whenFalse

def conditionalAfter (keywords : KeywordSet) (name source other : String) (count : Nat) : Cursor :=
  (Cursor.ofLexed (lex keywords (conditionalText name source other))).skip count

theorem conditionalAfter_succ (keywords : KeywordSet) (name source other : String) (count : Nat) :
    conditionalAfter keywords name source other (count + 1) =
      (conditionalAfter keywords name source other count).next :=
  Cursor.skip_succ _ _

namespace ConditionalTokens

variable {keywords : KeywordSet} {name source other : String} {condition question opening : Token}
  {inner : List Token} {closing colon : Token} {later : List Token} {limit : Nat} {last : Token}
  (layout : ConditionalTokens keywords name source other condition question opening inner closing
    colon later)

include layout

/-! Places. -/

theorem ahead_condition : (conditionalAfter keywords name source other 0).ahead =
    condition :: question :: opening :: (inner ++ closing :: colon :: later) :=
  layout.tokens

theorem ahead_opening : (conditionalAfter keywords name source other 2).ahead =
    opening :: (inner ++ closing :: colon :: later) := by
  rw [conditionalAfter, Cursor.skip_ahead]
  exact congrArg (List.drop 2) layout.tokens

theorem ahead_inner : (conditionalAfter keywords name source other 3).ahead =
    inner ++ closing :: colon :: later := by
  rw [conditionalAfter, Cursor.skip_ahead]
  exact congrArg (List.drop 3) layout.tokens

theorem ahead_closing : (conditionalAfter keywords name source other (3 + inner.length)).ahead =
    closing :: colon :: later := by
  rw [conditionalAfter, ← Cursor.skip_skip, Cursor.skip_ahead]
  exact (congrArg (List.drop _) layout.ahead_inner).trans List.drop_left

theorem ahead_colon : (conditionalAfter keywords name source other (3 + inner.length + 1)).ahead =
    colon :: later := by
  rw [conditionalAfter_succ]
  exact (Cursor.next_of_ahead layout.ahead_closing).1

theorem ahead_later : (conditionalAfter keywords name source other (3 + inner.length + 2)).ahead =
    later := by
  rw [conditionalAfter_succ]
  exact (Cursor.next_of_ahead layout.ahead_colon).1

theorem balance (balance : balances [] (lex keywords source).tokens = true) :
    balances [] inner = true := by
  rcases layout.branch with ⟨opened, continues⟩
  rcases continues.goOn.split with ⟨common, _, rfl, alike, rfl | ⟨impossible, _⟩⟩
  · rw [List.append_nil, ← balances_congr alike]
    exact balance
  · exact impossible.elim

theorem closing_balance : balances [.closeParen] [closing] = true :=
  (balances_close (by rw [layout.closes]; rfl)).mpr
    ⟨.closeParen, [], rfl, layout.closes, balances_nil.mpr rfl⟩

theorem looks (balance : balances [] (lex keywords source).tokens = true) :
    Parse.arrowLookahead (conditionalAfter keywords name source other 2).ahead = .ambiguous := by
  have inside := layout.balance balance
  have closed := balances_append inside layout.closing_balance
  rcases Parse.exists_afterParens [] closed with ⟨after, isSuffix, remains, found⟩
  have nothing := eq_nil_of_balances inside layout.closing_balance isSuffix remains
  have found := found (colon :: later)
  rw [List.append_assoc, List.singleton_append, nothing, List.nil_append] at found
  rw [layout.ahead_opening, Parse.arrowLookahead, Parse.afterParens?_cons,
    if_pos (Token.isMark_iff.mpr layout.opens)]
  simp only [List.count_nil] at found
  rw [found]
  simp [Token.isMark, layout.isColon]

/-! The branches. -/

theorem branch_arrives {room extra : Nat} (sum : room + extra = limit) {value : Expression}
    {after : Cursor} (balance : balances [] (lex keywords source).tokens = true)
    (read : (Nesting.outermost (.ofLimit limit)).expression (.ofLexed (lex keywords source)) =
      .ok value after) {token : Token} (seen : after.peek 0 = .ok token)
    (isEnd : token.kind = .endOfFile) :
    Arrives limit (Nesting.ofRoom (.ofLimit limit) room).expression
      (conditionalAfter keywords name source other 3)
      (conditionalAfter keywords name source other (3 + inner.length))
      (value.relocate (· + (name.utf8ByteSize + 4))) := by
  rcases layout.branch with ⟨opened, continues⟩
  have openedAhead : (Cursor.ofLexed opened).ahead = opening :: inner := continues.tokens
  rcases Cursor.next_of_ahead openedAhead with ⟨ahead, ending, lastStop⟩
  rcases Cursor.next_of_ahead layout.ahead_opening with ⟨_, _, otherStop⟩
  have goOn := continues.goOn
  have dropped : opened.tokens.drop 1 = inner := by
    rw [continues.tokens]
    rfl
  rw [← dropped] at goOn
  have stop : opening.stop = name.utf8ByteSize + 4 := congrArg Span.stop layout.openingSpan
  rcases Parse.expression_later goOn (Nat.le_of_eq (lastStop.trans stop)) read seen isEnd with
    ⟨otherAfter, otherRead, finished⟩
  rcases continues.ended with ⟨_, ended⟩
  rcases continues.goOn.endOfFile ended with ⟨otherLast, otherEnded⟩
  have related : (Rerun.mk (closing :: colon :: later) limit).Related []
      ((Cursor.ofLexed opened).skip 1) (conditionalAfter keywords name source other 3) := by
    refine ⟨?_, .inr ⟨by simp, ?_, ?_, ⟨otherLast, ?_⟩, ?_⟩⟩
    · rintro _ closer member
      cases member
      exact layout.closes
    · rw [layout.ahead_inner]
      exact congrArg (· ++ _) ahead.symm
    · rw [conditionalAfter_succ]
      exact otherStop.trans lastStop.symm
    · exact ending.trans otherEnded
    · exact (congrArg _ ahead).trans (layout.balance balance)
  rw [Nesting.outermost_eq sum] at otherRead
  have arrives := Rerun.expression_arrives related otherRead finished
  rw [show ((Cursor.ofLexed opened).skip 1).ahead = inner from ahead, conditionalAfter,
    Cursor.skip_skip] at arrives
  exact arrives

theorem goOn_later :
    GoOnAlike (Later (name.utf8ByteSize + source.utf8ByteSize + 8)) False
      (lex keywords other).tokens (lex keywords other).ending
      ((lex keywords (conditionalText name source other)).tokens.drop (3 + inner.length + 2))
      (lex keywords (conditionalText name source other)).ending := by
  have goOn := layout.goOn
  rw [← layout.ahead_later, conditionalAfter, Cursor.skip_ahead] at goOn
  exact goOn

theorem stop_later : (conditionalAfter keywords name source other (3 + inner.length + 2)).lastStop ≤
    name.utf8ByteSize + source.utf8ByteSize + 8 := by
  rw [conditionalAfter_succ, (Cursor.next_of_ahead layout.ahead_colon).2.2]
  exact layout.colonStop

theorem ahead_end :
    (conditionalAfter keywords name source other (3 + inner.length + 2 + later.length)).ahead =
      [] := by
  rw [conditionalAfter, ← Cursor.skip_skip, Cursor.skip_ahead]
  exact (congrArg (List.drop _) layout.ahead_later).trans List.drop_length

theorem other_read {value : Expression} {after : Cursor}
    (read : (Nesting.outermost (.ofLimit limit)).expression (.ofLexed (lex keywords other)) =
      .ok value after) {token : Token} (seen : after.peek 0 = .ok token)
    (isEnd : token.kind = .endOfFile) :
    (Nesting.outermost (.ofLimit limit)).expression
        (conditionalAfter keywords name source other (3 + inner.length + 2)) =
      .ok (value.relocate (· + (name.utf8ByteSize + source.utf8ByteSize + 8)))
        (conditionalAfter keywords name source other (3 + inner.length + 2 + later.length)) := by
  rcases Parse.expression_later layout.goOn_later layout.stop_later read seen isEnd with
    ⟨finish, otherRead, finished⟩
  rcases (Nesting.ofRoom_reading _ _).expression otherRead with ⟨_, _, whole⟩
  cases whole with
  | @intro tokens _ takes _ =>
      have all : tokens = later := by
        have split := takes.ahead
        rw [finished, List.append_nil] at split
        exact split.symm.trans layout.ahead_later
      have place : finish =
          conditionalAfter keywords name source other (3 + inner.length + 2 + later.length) := by
        rw [takes.eq_skip, all]
        exact Cursor.skip_skip _ _ _
      rw [← place]
      exact otherRead

theorem other_arrives {room extra : Nat} (sum : room + extra = limit) {value : Expression}
    {after : Cursor}
    (read : (Nesting.outermost (.ofLimit limit)).expression (.ofLexed (lex keywords other)) =
      .ok value after) {token : Token} (seen : after.peek 0 = .ok token)
    (isEnd : token.kind = .endOfFile) :
    Arrives limit (Nesting.ofRoom (.ofLimit limit) room).expression
      (conditionalAfter keywords name source other (3 + inner.length + 2))
      (conditionalAfter keywords name source other (3 + inner.length + 2 + later.length))
      (value.relocate (· + (name.utf8ByteSize + source.utf8ByteSize + 8))) := by
  have whole := layout.other_read read seen isEnd
  have related : (Rerun.mk [] limit).Related []
      (conditionalAfter keywords name source other (3 + inner.length + 2))
      (conditionalAfter keywords name source other (3 + inner.length + 2)) :=
    .of_eq rfl _
  rw [Nesting.outermost_eq sum] at whole
  have arrives := Rerun.expression_arrives related whole layout.ahead_end
  rw [layout.ahead_later, conditionalAfter, Cursor.skip_skip] at arrives
  exact arrives

theorem end_stop {value : Expression} {after : Cursor}
    (read : (Nesting.outermost (.ofLimit limit)).expression (.ofLexed (lex keywords other)) =
      .ok value after) {token : Token} (seen : after.peek 0 = .ok token)
    (isEnd : token.kind = .endOfFile) :
    (conditionalAfter keywords name source other (3 + inner.length + 2 + later.length)).lastStop =
      (value.relocate (· + (name.utf8ByteSize + source.utf8ByteSize + 8))).span.stop := by
  rcases (Nesting.ofRoom_reading _ _).expression (layout.other_read read seen isEnd) with
    ⟨_, _, whole⟩
  have on : (conditionalAfter keywords name source other (3 + inner.length + 2)).On
      (lex keywords (conditionalText name source other)) :=
    ⟨lex_inOrder _ _, _, rfl⟩
  exact (on.stop_of_whole whole).symm

/-! What an arrow function would take in. -/

theorem closed_of_parameters {room extra : Nat} (sum : room + extra = limit)
    (balance : balances [] (lex keywords source).tokens = true) {list : List Parameter}
    {after : Cursor} (read : Parse.parameters (.ofRoom (.ofLimit limit) room) true
      (conditionalAfter keywords name source other 2) = .ok list after) :
    ReadsAsParameters ⟨limit, keywords⟩ source ∧
      after = conditionalAfter keywords name source other (3 + inner.length + 1) := by
  rcases layout.parenthesized with ⟨closed, continues⟩
  rcases continues.ended with ⟨last, ended⟩
  rcases continues.goOn.endOfFile ended with ⟨closedLast, closedEnded⟩
  have closedAhead : (Cursor.ofLexed closed).ahead = opening :: (inner ++ [closing]) :=
    continues.tokens
  rcases Parse.parameters_enclosed extra (layout.balance balance) layout.closes (by simp)
    closedAhead closedEnded layout.ahead_opening read with
    ⟨closedAfter, closedRead, nothing, arrived⟩
  constructor
  · -- In the text by itself the list of parameters is read in the same way.
    have goOn := continues.goOn
    rw [← List.nil_append (opening :: _), ← continues.tokens] at goOn
    let runs := TwoRuns.ofLater limit 0 goOn (Nat.zero_le _)
    have nestings : runs.Nestings (.outermost (.ofLimit limit)) (.outermost (.ofLimit limit)) :=
      TwoRuns.nestings_outermost
    have outcome := TwoRuns.parameters_alike nestings true runs.related_beginning
    change runs.Outcome runs.Related _ _ (Parse.parameters _ true (.ofLexed closed)) at outcome
    rw [← Nesting.outermost_eq sum] at closedRead
    rw [closedRead] at outcome
    rcases outcome.of_other_ok rfl id with ⟨values, finish, valuesRead, _, related⟩
    have finished : finish.ahead = [] := by
      have length := related.goOn.length_le
      rw [nothing, List.length_nil] at length
      exact List.length_eq_zero_iff.mp (Nat.le_zero.mp length)
    rcases Cursor.peek_of_over finished (related.ending.1.trans ended) with ⟨seen, isEnd⟩
    have read : Reaches (Parse.parameters (.outermost (.ofLimit limit)) true)
        (.ofLexed (lex keywords ("(" ++ source ++ ")"))) finish (· = values) :=
      ⟨values, valuesRead, rfl⟩
    refine ⟨values, @Parse.run_reaches _ finish _ _ _ _ (read.bindEq ?_)⟩
    exact (Parse.endOfInput_reaches seen isEnd).bindEq (.pure rfl)
  · rcases Parse.parameters_reads (Nesting.ofRoom_reading _ _) true read with ⟨_, _, piece⟩
    cases piece with
    | @intro tokens _ takes _ =>
        have length := takes.length
        rw [layout.ahead_opening, arrived, List.length_cons, List.length_append, List.length_cons]
          at length
        rw [takes.eq_skip, conditionalAfter, conditionalAfter, Cursor.skip_skip]
        congr 1
        simp only [List.length_cons] at length
        omega

theorem begins_of_declared {room extra : Nat} (sum : room + extra = limit) {after finish : Cursor}
    {found : Option TypeExpr} {arrow : Token}
    (read : Parse.declaredType? (.ofRoom (.ofLimit limit) room)
      (conditionalAfter keywords name source other (3 + inner.length + 1)) = .ok found after)
    (expected : Parse.expect .arrow after = .ok arrow finish) :
    BeginsWithResult ⟨limit, keywords⟩ other := by
  have seen := Cursor.peek_of_ahead layout.ahead_colon
  rcases Parse.type_of_declaredType? seen layout.isColon read with ⟨type, read⟩
  rw [← conditionalAfter_succ] at read
  rcases Parse.expectKind_eq_ok.mp expected with ⟨seenArrow, isArrow, _⟩
  have wider := Rerun.type_deeper extra read
  rw [← Nesting.outermost_eq sum] at wider
  rcases Parse.type_earlier layout.goOn_later layout.stop_later wider seenArrow with
    ⟨value, typeAfter, next, valueRead, otherSeen, sameKind⟩
  have whole : Reaches (Nesting.outermost (.ofLimit limit)).type _ _ (· = value) :=
    ⟨value, valueRead, rfl⟩
  refine ⟨value, @Parse.run_reaches _ typeAfter.next _ _ _ _ (whole.bindEq ?_)⟩
  exact (Parse.expectKind_reaches otherSeen (sameKind.trans isArrow)).bindEq (.pure rfl)

/-- No arrow function is found where its parameters or its result would not be read. -/
theorem untaken {room extra : Nat} (sum : room + extra = limit)
    (balance : balances [] (lex keywords source).tokens = true)
    (noArrow : ¬(ReadsAsParameters ⟨limit, keywords⟩ source ∧
      BeginsWithResult ⟨limit, keywords⟩ other)) (value : Expression) (after : Cursor) :
    Parse.parenthesizedArrow (.ofRoom (.ofLimit limit) room)
      (conditionalAfter keywords name source other 2) ≠ .ok value after := by
  intro read
  simp only [Parse.parenthesizedArrow, Parse.bind_eq_ok, Parse.currentStart_eq_ok] at read
  rcases read with ⟨_, _, ⟨_, rfl⟩, parameters, between, parametersRead, result, _, resultRead, _,
    _, expected, _⟩
  rcases layout.closed_of_parameters sum balance parametersRead with ⟨readsAsParameters, rfl⟩
  exact noArrow ⟨readsAsParameters, layout.begins_of_declared sum resultRead expected⟩

/-! The whole text. -/

theorem whenTrue_arrives {room extra : Nat} (sum : room + extra = limit) {value : Expression}
    {after : Cursor} (balance : balances [] (lex keywords source).tokens = true)
    (noArrow : ¬(ReadsAsParameters ⟨limit, keywords⟩ source ∧
      BeginsWithResult ⟨limit, keywords⟩ other))
    (read : (Nesting.outermost (.ofLimit limit)).expression (.ofLexed (lex keywords source)) =
      .ok value after) {token : Token} (seen : after.peek 0 = .ok token)
    (isEnd : token.kind = .endOfFile) :
    Arrives limit (Nesting.ofRoom (.ofLimit limit) room).expression
      (conditionalAfter keywords name source other 2)
      (conditionalAfter keywords name source other (3 + inner.length + 1))
      (.parenthesized ⟨name.utf8ByteSize + 3, name.utf8ByteSize + source.utf8ByteSize + 5⟩
        (value.relocate (· + (name.utf8ByteSize + 4)))) := by
  refine .expression fun deeper roomEq => ?_
  have seenOpening := Cursor.peek_of_ahead layout.ahead_opening
  have sumDeeper : deeper + (extra + 1) = limit := by omega
  have branch := layout.branch_arrives sumDeeper balance read seen isEnd
  rw [conditionalAfter_succ] at branch
  have arrow := Parse.arrow?_untaken seenOpening layout.opens (layout.looks balance)
    (layout.untaken sumDeeper balance noArrow)
  have seenColon := Cursor.peek_of_ahead layout.ahead_colon
  rw [conditionalAfter_succ] at seenColon
  have whole := Parse.assignment_parenthesized seenOpening layout.opens arrow branch
    (Cursor.peek_of_ahead layout.ahead_closing) layout.closes seenColon layout.isColon
  have start : opening.start = name.utf8ByteSize + 3 := congrArg Span.start layout.openingSpan
  have stop := (Cursor.next_of_ahead layout.ahead_closing).2.2.trans layout.closingStop
  rw [start, stop, Nat.max_eq_left (by omega), ← conditionalAfter_succ] at whole
  exact whole

/-- The whole text is read as a conditional, unless it nests too deep. -/
theorem arrives {value otherValue : Expression} {after otherAfter : Cursor}
    (noLiteral : name ∉ ["true", "false", "null"])
    (balance : balances [] (lex keywords source).tokens = true)
    (noArrow : ¬(ReadsAsParameters ⟨limit, keywords⟩ source ∧
      BeginsWithResult ⟨limit, keywords⟩ other))
    (read : (Nesting.outermost (.ofLimit limit)).expression (.ofLexed (lex keywords source)) =
      .ok value after) {token : Token} (seen : after.peek 0 = .ok token)
    (isEnd : token.kind = .endOfFile)
    (otherRead : (Nesting.outermost (.ofLimit limit)).expression (.ofLexed (lex keywords other)) =
      .ok otherValue otherAfter) {otherToken last : Token}
    (otherSeen : otherAfter.peek 0 = .ok otherToken) (otherIsEnd : otherToken.kind = .endOfFile)
    (seenLast : (conditionalAfter keywords name source other
      (3 + inner.length + 2 + later.length)).peek 0 = .ok last)
    (lastIsEnd : last.kind = .endOfFile) :
    Arrives limit (Nesting.outermost (.ofLimit limit)).expression
      (conditionalAfter keywords name source other 0)
      (conditionalAfter keywords name source other (3 + inner.length + 2 + later.length))
      (conditionalTree name source value otherValue) := by
  refine .expression fun room roomEq => ?_
  have sum : room + 1 = limit := roomEq.symm
  have whenFalse := layout.other_arrives sum otherRead otherSeen otherIsEnd
  have whenTrue := layout.whenTrue_arrives sum balance noArrow read seen isEnd
  have seenName := Cursor.peek_of_ahead layout.ahead_condition
  have noLiteral : Parse.literalOf? condition = none := by
    have kind := layout.isName
    have text := layout.named
    simp only [List.mem_cons, List.not_mem_nil, or_false, not_or] at noLiteral
    simp [Parse.literalOf?, kind, text, noLiteral]
  have seenQuestion : (conditionalAfter keywords name source other 1).peek 0 = .ok question := by
    rw [conditionalAfter_succ]
    exact Cursor.peek_of_ahead (Cursor.next_of_ahead layout.ahead_condition).1
  have seenColon := Cursor.peek_of_ahead layout.ahead_colon
  rw [conditionalAfter_succ] at whenFalse seenQuestion
  rw [conditionalAfter_succ, conditionalAfter_succ] at whenTrue
  have whole := Parse.assignment_conditional seenName layout.isName noLiteral seenQuestion
    layout.isQuestion whenTrue seenColon layout.isColon whenFalse seenLast lastIsEnd
  have start : condition.start = 0 := congrArg Span.start layout.place
  rw [start, layout.end_stop otherRead otherSeen otherIsEnd, Nat.max_zero, Parse.identifierOf,
    layout.place, layout.named] at whole
  exact whole

end ConditionalTokens

open Parse in
/-- A conditional whose condition is a name and whose true branch stands in parentheses has the
trees of its branches, moved, unless it nests too deep: no comment is to take in the closing
parenthesis, brackets are to match in the true branch, and the parentheses with what comes after
them are not to begin as an arrow function does. -/
theorem parseExpression_conditional {options : ParseOptions} {name source other : String}
    {value otherValue : Expression} (isPlain : IsPlainName options.keywords name)
    (noLiteral : name ∉ ["true", "false", "null"])
    (noLine : ¬['#', '!'] <+: source.toList) (otherNoLine : ¬['#', '!'] <+: other.toList)
    (clear : EndsWithoutComment options.keywords source)
    (balance : balances [] (lex options.keywords source).tokens = true)
    (noArrow : ¬(ReadsAsParameters options source ∧ BeginsWithResult options other))
    (parsed : parseExpression options source = .ok value)
    (otherParsed : parseExpression options other = .ok otherValue) :
    parseExpression options (conditionalText name source other) =
        .ok (conditionalTree name source value otherValue) ∨
      Refused options.nestingLimit
        (parseExpression options (conditionalText name source other)) := by
  rcases run_eq_ok parsed with ⟨_, wholeRead⟩
  rcases run_eq_ok otherParsed with ⟨_, otherWholeRead⟩
  rcases whole_complete (fun reading => reading.expression.reads) wholeRead with ⟨_, ended⟩
  rcases whole_complete (fun reading => reading.expression.reads) otherWholeRead with
    ⟨_, otherEnded⟩
  rcases whole_eq_ok wholeRead with ⟨read, _, seen, isEnd⟩
  rcases whole_eq_ok otherWholeRead with ⟨otherRead, _, otherSeen, otherIsEnd⟩
  rcases conditionalTokens isPlain.1 isPlain.2 noLine otherNoLine ended clear with
    ⟨_, _, _, inner, _, _, later, layout⟩
  rcases layout.goOn.endOfFile otherEnded with ⟨last, ending⟩
  have endEnding : (conditionalAfter options.keywords name source other
      (3 + inner.length + 2 + later.length)).ending = .endOfFile last :=
    (Cursor.skip_ending _ _).trans ending
  rcases Cursor.peek_of_over layout.ahead_end endEnding with ⟨seenLast, lastIsEnd⟩
  have arrives := layout.arrives noLiteral balance noArrow read seen isEnd otherRead otherSeen
    otherIsEnd seenLast lastIsEnd
  exact run_arrives (whole_arrives arrives seenLast lastIsEnd) ending
    (parseExpression_justified _ _)

/-- A call in the parentheses is no list of parameters, so the arrow belongs to the false branch. -/
theorem parseExpression_conditional_call : ∃ value otherValue,
    parseExpression .default "f(a)" = .ok value ∧
      parseExpression .default "b => c" = .ok otherValue ∧
      parseExpression .default (conditionalText "ok" "f(a)" "b => c") =
        .ok (conditionalTree "ok" "f(a)" value otherValue) := by
  have accepted : (parseExpression .default "f(a)").isOk = true := by decide +kernel
  have otherAccepted : (parseExpression .default "b => c").isOk = true := by decide +kernel
  have wholeAccepted :
      (parseExpression .default (conditionalText "ok" "f(a)" "b => c")).isOk = true := by
    decide +kernel
  have noParameters : (Parse.run .default ("(" ++ "f(a)" ++ ")") fun nesting => do
      let parameters ← Parse.parameters nesting true
      Parse.endOfInput
      return parameters).isOk = false := by
    decide +kernel
  have noTrail :
      Span.dropBytes (stopAfter 0 (lex .full "f(a)").tokens) "f(a)".toList = some [] := by
    decide +kernel
  rcases exists_of_isOk accepted with ⟨value, parsed⟩
  rcases exists_of_isOk otherAccepted with ⟨otherValue, otherParsed⟩
  refine ⟨value, otherValue, parsed, otherParsed, ?_⟩
  have clear : EndsWithoutComment .full "f(a)" := by
    intro trail found char member
    cases noTrail.symm.trans found
    cases member
  have noArrow : ¬(ReadsAsParameters .default "f(a)" ∧ BeginsWithResult .default "b => c") := by
    rintro ⟨⟨parameters, read⟩, _⟩
    rw [read] at noParameters
    cases noParameters
  have isPlain : IsPlainName .full "ok" := ⟨by decide +kernel, by decide +kernel⟩
  rcases parseExpression_conditional isPlain (by decide) (by decide) (by decide) clear
    (by decide +kernel) noArrow parsed otherParsed with whole | refused
  · exact whole
  · rcases refused with ⟨_, _, refused⟩
    rw [refused] at wholeAccepted
    cases wholeAccepted

def isFault (fault : GrammarFault) (expected : Expected) : Except SyntaxError Expression → Bool
  | .error (.grammar error) => error.fault == fault && error.expected == expected
  | _ => false

theorem exists_of_isFault {fault : GrammarFault} {expected : Expected}
    {answer : Except SyntaxError Expression} (failed : isFault fault expected answer = true) :
    ∃ found, answer = .error (.grammar ⟨fault, expected, found⟩) := by
  unfold isFault at failed
  split at failed
  · next error =>
      simp only [Bool.and_eq_true, beq_iff_eq] at failed
      exact ⟨error.found, by rw [← failed.1, ← failed.2]⟩
  · cases failed

/-- Parentheses that may hold parameters take an arrow in the false branch for their own, and then
the colon is missing. A parenthesis in a body that nothing matches does so as well. -/
theorem conditional_captured :
    (parseExpression .default "a").isOk = true ∧ (parseExpression .default "b => c").isOk = true ∧
      (∃ found, parseExpression .default (conditionalText "x" "a" "b => c") =
        .error (.grammar ⟨.unexpectedEnd, .token (.punctuator .colon), found⟩)) ∧
      (parseExpression .default "() => \x7b ) => \x7d").isOk = true ∧
      (parseExpression .default "c").isOk = true ∧
      ∃ found, parseExpression .default (conditionalText "x" "() => \x7b ) => \x7d" "c") =
        .error (.grammar ⟨.identifierExpected, .identifier, found⟩) :=
  ⟨by decide +kernel, by decide +kernel, exists_of_isFault (by decide +kernel), by decide +kernel,
    by decide +kernel, exists_of_isFault (by decide +kernel)⟩

end TypedScript
