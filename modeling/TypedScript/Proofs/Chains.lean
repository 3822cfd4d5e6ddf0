import TypedScript.Proofs.Chains.Loops

/-!
How long a chain may be. Main statement: a name with so many accesses, calls, operators or brackets
after it is read if their number is less than the nesting limit, with one node around the other for
each of them; otherwise the text is refused at the link that would reach the limit.
-/

namespace TypedScript

def Link.begin (keywords : KeywordSet) (link : Link) (count : Nat) : Cursor :=
  .ofLexed (lex keywords (link.chain count))

namespace Link

variable (keywords : KeywordSet) (link : Link) (count : Nat)

theorem begin_ahead :
    (link.begin keywords count).ahead = link.nameToken :: link.tokens 0 count :=
  (lex_chain keywords link count).1

theorem begin_peek :
    (link.begin keywords count).peek 0 = .ok link.nameToken :=
  Cursor.peek_of_ahead (begin_ahead keywords link count)

theorem begin_next :
    (link.begin keywords count).next.AtLinks link count := by
  rcases Cursor.next_of_ahead (begin_ahead keywords link count) with ⟨ahead, ending, _⟩
  exact ⟨ahead, ending.trans (lex_chain keywords link count).2⟩

theorem begin_lastStop :
    (link.begin keywords count).next.lastStop = 1 := by
  rw [(Cursor.next_of_ahead (begin_ahead keywords link count)).2.2]
  cases link <;> rfl

end Link

/-- What the limit makes of a chain. Links are counted from zero, so the one at which a text is
refused has the number of the limit if they are counted from one. -/
def Link.answer {Tree : Type} (link : Link) (limit count : Nat) (expected : Expected)
    (tree : Nat → Tree) : Except SyntaxError Tree :=
  if count + 1 ≤ limit then .ok (tree count)
  else .error (.grammar ⟨.nestingLimitExceeded limit, expected, link.first (limit - 1)⟩)

namespace Chain

variable {Tree : Type} {options : ParseOptions}

theorem run_eq (chain : Chain Tree) {link : Link} (first : chain.first = link.first)
    {source : String} {parser : Nesting → Parse Tree} {rule : Level → Parse Tree}
    (parser_eq : ∀ nesting, parser nesting = nesting.enter chain.expected >>= rule)
    (read : ∀ rules room, rule (.ofNesting (.ofRoom rules room))
      (.ofLexed (lex options.keywords source)) = chain.result rules room)
    (positive : 0 < options.nestingLimit) :
    Parse.run options source (fun nesting => do
        let tree ← parser nesting
        Parse.endOfInput
        return tree) =
      link.answer options.nestingLimit chain.count chain.expected chain.tree := by
  rcases Nat.exists_eq_succ_of_ne_zero (Nat.ne_of_gt positive) with ⟨room, limit⟩
  let cursor := Cursor.ofLexed (lex options.keywords source)
  let rules := Rules.ofLimit options.nestingLimit
  have entered : parser (.outermost rules) cursor = chain.result rules room := by
    rw [parser_eq, Nesting.outermost, show rules.limit = room + 1 from limit]
    exact read rules room
  have whole : (parser (.outermost rules) >>= fun tree => do
      Parse.endOfInput
      return tree) cursor = chain.result rules room := by
    refine (chain.result_finishes rules room).bind entered fun after last value seen isEnd => ?_
    have finished : Reaches Parse.endOfInput after after (· = ⟨⟩) := by
      apply (Parse.current_reaches seen).bindEq
      rw [if_neg (by simp [isEnd])]
      exact .pure rfl
    exact finished.bindEq (.pure rfl)
  simp only [Parse.run]
  rw [whole, result, Link.answer, limit]
  by_cases enough : chain.count ≤ room
  · rw [if_pos enough, if_pos (Nat.succ_le_succ enough)]
  · rw [if_neg enough, if_neg (by omega), first]
    simp [rules, Rules.ofLimit, limit]

end Chain

/-! Names with chains after them. -/

namespace Parse

variable {keywords : KeywordSet} {rules : Rules} {room : Nat}

theorem begin_noArrow (keywords : KeywordSet) (link : Link) (count : Nat) :
    ∃ token, (link.begin keywords count).peek 1 = .ok token ∧
      token.kind ≠ .punctuator .arrow := by
  rcases (Link.begin_next keywords link count).seen_next (Nat.zero_le count) with
    ⟨token, seen, kind⟩
  rw [Cursor.atLink, Cursor.skip, Cursor.next_peek] at seen
  refine ⟨token, seen, ?_⟩
  rcases kind with kind | kind
  · rw [kind]
    cases link <;> decide
  · rw [kind]
    decide

/-- The accesses and calls after a name are all of the expression, where the text is over. -/
theorem assignment_of_suffixes {link : Link} {count : Nat}
    {result : EStateM.Result SyntaxError Cursor Expression} {nesting : Nesting}
    (read : suffixes nesting 0 true (.identifier (identifierOf link.nameToken))
      (link.begin keywords count).next = result) (finishes : Finishes result) :
    assignment nesting (link.begin keywords count) = result := by
  have seen := Link.begin_peek keywords link count
  have noLiteral : literalOf? link.nameToken = none := by cases link <;> rfl
  have whole : binary nesting 0 (link.begin keywords count) = result := by
    rw [binary_of_name seen rfl noLiteral]
    exact finishes.bind read fun cursor last value seenLast isEnd =>
      operators_at_end seenLast isEnd _ 0 value
  rcases begin_noArrow keywords link count with ⟨next, seenNext, noArrow⟩
  exact assignment_of_name seen rfl seenNext noArrow whole finishes

theorem assignment_properties (count : Nat) :
    assignment (.ofRoom rules room) (Link.property.begin keywords count) =
      (Chain.properties (Link.begin_next keywords .property count)).result rules room :=
  assignment_of_suffixes
    ((Chain.properties (Link.begin_next keywords .property count)).goOn_eq rules room)
    (Chain.result_finishes _ rules room)

theorem assignment_calls (count : Nat) :
    assignment (.ofRoom rules room) (Link.call.begin keywords count) =
      (Chain.calls (Link.begin_next keywords .call count)).result rules room :=
  assignment_of_suffixes
    ((Chain.calls (Link.begin_next keywords .call count)).goOn_eq rules room)
    (Chain.result_finishes _ rules room)

theorem assignment_sums (count : Nat) :
    assignment (.ofRoom rules room) (Link.sum.begin keywords count) =
      (Chain.sums (Link.begin_next keywords .sum count)).result rules room := by
  have seen := Link.begin_peek keywords Link.sum count
  have atLinks := Link.begin_next keywords .sum count
  have finishes := (Chain.sums atLinks).result_finishes rules room
  have whole : binary (.ofRoom rules room) 0 (Link.sum.begin keywords count) =
      (Chain.sums atLinks).result rules room := by
    rw [binary_of_name seen rfl rfl]
    refine (bind_of_reaches (suffixes_before_sum atLinks (Nat.zero_le count) _ _)).trans ?_
    exact (Chain.sums atLinks).goOn_eq rules room
  rcases begin_noArrow keywords .sum count with ⟨next, seenNext, noArrow⟩
  exact assignment_of_name seen rfl seenNext noArrow whole finishes

theorem primaryType_of_name (nesting : Nesting) (count : Nat) :
    Reaches (primaryType nesting) (Link.array.begin keywords count)
      (Link.array.begin keywords count).next (· = Link.arrays 0) := by
  have seen := Link.begin_peek keywords Link.array count
  rcases (Link.begin_next keywords .array count).seen_next (Nat.zero_le count) with
    ⟨next, seenNext, kind⟩
  have noMark : ∀ mark, mark ≠ .openBracket → next.isMark mark = false := by
    intro mark other
    rcases kind with kind | kind
    · simpa [Token.isMark, kind, Link.first, Token.onFirstLine] using Ne.symm other
    · simp [Token.isMark, kind]
  have noParts : Reaches (repeated namePart) (Link.array.begin keywords count).next
      (Link.array.begin keywords count).next (· = []) := by
    apply repeated_stop
    apply (atMark_reaches seenNext .dot).bindEq
    rw [if_neg (by simp [noMark .dot (by decide)])]
    exact .pure rfl
  have noArguments : Reaches (typeArguments? nesting) (Link.array.begin keywords count).next
      (Link.array.begin keywords count).next (· = none) := by
    apply (atMark_reaches seenNext .lessThan).bindEq
    rw [if_neg (by simp [noMark .lessThan (by decide)])]
    exact .pure rfl
  have ownSpan : Reaches (nameSpan Link.array.nameToken.start Link.array.nameToken [])
      (Link.array.begin keywords count).next (Link.array.begin keywords count).next
      (· = Link.array.nameToken.span) := .pure rfl
  apply (current_reaches seen).bindEq
  apply (current_reaches seen).bindEq
  apply (currentStart_reaches seen).bindEq
  apply (current_reaches seen).bindEq
  apply (take_reaches seen).bindEq
  apply noParts.bindEq
  apply ownSpan.bindEq
  apply noArguments.bindEq
  apply (spanFrom_reaches _).bindEq
  rw [Link.begin_lastStop]
  exact .pure rfl

theorem unionType_arrays (count : Nat) :
    unionType (.ofRoom rules room) (Link.array.begin keywords count) =
      (Chain.arrays (Link.begin_next keywords .array count)).result rules room := by
  have seen := Link.begin_peek keywords Link.array count
  have atLinks := Link.begin_next keywords .array count
  have finishes := (Chain.arrays atLinks).result_finishes rules room
  have chained : postfixType (.ofRoom rules room) (Link.array.begin keywords count) =
      (Chain.arrays atLinks).result rules room := by
    rw [postfixType, bind_of_reaches (currentStart_reaches seen),
      bind_of_reaches (primaryType_of_name _ count)]
    exact (Chain.arrays atLinks).goOn_eq rules room
  exact listType_of_one seen rfl (listType_of_one seen rfl chained finishes) finishes

end Parse

/-- A chain is read if it has fewer links than the limit allows levels, and means one node around
the other for each link. Otherwise the text is refused at the first token of the link that would
reach the limit. -/
theorem chains_of_limit (options : ParseOptions) (positive : 0 < options.nestingLimit)
    (count : Nat) :
    (∀ link : Link, (lex options.keywords (link.chain count)).tokens =
      link.nameToken :: link.tokens 0 count) ∧
    parseExpression options (Link.property.chain count) =
      Link.property.answer options.nestingLimit count .expression Link.properties ∧
    parseExpression options (Link.call.chain count) =
      Link.call.answer options.nestingLimit count .expression Link.calls ∧
    parseExpression options (Link.sum.chain count) =
      Link.sum.answer options.nestingLimit count .expression Link.sums ∧
    parseType options (Link.array.chain count) =
      Link.array.answer options.nestingLimit count .type Link.arrays := by
  refine ⟨fun link => (Link.lex_chain options.keywords link count).1, ?_, ?_, ?_, ?_⟩
  · exact Chain.run_eq (Chain.properties (Link.begin_next options.keywords .property count)) rfl
      (fun _ => rfl) (fun _ _ => Parse.assignment_properties count) positive
  · exact Chain.run_eq (Chain.calls (Link.begin_next options.keywords .call count)) rfl
      (fun _ => rfl) (fun _ _ => Parse.assignment_calls count) positive
  · exact Chain.run_eq (Chain.sums (Link.begin_next options.keywords .sum count)) rfl
      (fun _ => rfl) (fun _ _ => Parse.assignment_sums count) positive
  · exact Chain.run_eq (Chain.arrays (Link.begin_next options.keywords .array count)) rfl
      (fun _ => rfl) (fun _ _ => Parse.unionType_arrays count) positive

/-- Under the limit three there may be two calls, and the third is one too many. -/
theorem chains_of_limit_three :
    0 < (ParseOptions.mk 3 .full).nestingLimit ∧ Link.call.chain 3 = "a()()()" ∧
      parseExpression ⟨3, .full⟩ (Link.call.chain 2) = .ok (Link.calls 2) ∧
      parseExpression ⟨3, .full⟩ (Link.call.chain 3) =
        .error (.grammar ⟨.nestingLimitExceeded 3, .expression, Link.call.first 2⟩) := by
  have positive : 0 < (ParseOptions.mk 3 .full).nestingLimit := by decide
  exact ⟨positive, by decide +kernel, (chains_of_limit ⟨3, .full⟩ positive 2).2.2.1,
    (chains_of_limit ⟨3, .full⟩ positive 3).2.2.1⟩

end TypedScript
