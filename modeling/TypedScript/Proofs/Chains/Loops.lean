import TypedScript.Proofs.Chains.Tokens
import TypedScript.Proofs.Conditionals.Rules
import TypedScript.Proofs.Progress.Chains

/-!
The loops that read chains. Such a loop wraps one node around the other and goes one level deeper at
each link. Main statement: with as many levels left as there are links it takes all of them, and
with fewer it fails at the first link for which no level is left.
-/

namespace TypedScript

/-! What a chain means. -/

namespace Link

def properties : Nat → Expression
  | 0 => .identifier ⟨⟨0, 1⟩, "a"⟩
  | count + 1 =>
      .property ⟨0, property.start (count + 1)⟩ (properties count)
        ⟨⟨property.start count + 1, property.start (count + 1)⟩, "b"⟩ false

def calls : Nat → Expression
  | 0 => .identifier ⟨⟨0, 1⟩, "a"⟩
  | count + 1 => .call ⟨0, call.start (count + 1)⟩ (calls count) none []

def sums : Nat → Expression
  | 0 => .identifier ⟨⟨0, 1⟩, "a"⟩
  | count + 1 =>
      .binary ⟨0, sum.start (count + 1)⟩ (sums count) .plus
        (.identifier ⟨⟨sum.start count + 3, sum.start (count + 1)⟩, "a"⟩)

def arrays : Nat → TypeExpr
  | 0 => .named ⟨0, 1⟩ ⟨⟨0, 1⟩, "A"⟩ none
  | count + 1 => .array ⟨0, array.start (count + 1)⟩ (arrays count)

end Link

namespace Parse

variable {α β : Type} {before after : Cursor}

/-! Results of parsers, errors included. -/

theorem parsed_of_reaches {parser : Parse α} {value : α}
    (reaches : Reaches parser before after (· = value)) : parser before = .ok value after := by
  rcases reaches with ⟨_, parsed, rfl⟩
  exact parsed

theorem bind_of_reaches {parser : Parse α} {next : α → Parse β} {value : α}
    (reaches : Reaches parser before after (· = value)) :
    (parser >>= next) before = next value after :=
  bind_of_ok (parsed_of_reaches reaches)

theorem bind_of_eq {between : Cursor} {parser other : Parse α} {next : α → Parse β}
    (same : parser before = other between) :
    (parser >>= next) before = (other >>= next) between := by
  simp only [Bind.bind, EStateM.bind, same]

def Finishes (result : EStateM.Result SyntaxError Cursor α) : Prop :=
  ∀ value after, result = .ok value after →
    ∃ token, after.peek 0 = .ok token ∧ token.kind = .endOfFile

theorem Finishes.bind {parser : Parse α} {next : α → Parse α}
    {result : EStateM.Result SyntaxError Cursor α} (finishes : Finishes result)
    (read : parser before = result)
    (idle : ∀ cursor token value, cursor.peek 0 = .ok token → token.kind = .endOfFile →
      Reaches (next value) cursor cursor (· = value)) : (parser >>= next) before = result := by
  cases result with
  | ok value after =>
      rcases finishes value after rfl with ⟨token, seen, isEnd⟩
      rw [bind_of_ok read]
      exact parsed_of_reaches (idle after token value seen isEnd)
  | error error after => simp only [Bind.bind, EStateM.bind, read]

theorem failAt_of_peek {fault : GrammarFault} {expected : Expected} {token : Token}
    (seen : before.peek 0 = .ok token) :
    (failAt fault expected : Parse α) before = .error (.grammar ⟨fault, expected, token⟩) before :=
  bind_of_reaches (current_reaches seen)

end Parse

/-! Loops over the links of a chain. -/

/-- A loop that takes the links of a chain one after another: what it has built before each of them,
and where it stands. -/
structure Chain (Tree : Type) where
  expected : Expected
  goOn : Nesting → Tree → Parse Tree
  deeper : Tree → Level → Parse Tree
  count : Nat
  tree : Nat → Tree
  place : Nat → Cursor
  first : Nat → Token
  seen : ∀ index < count, (place index).peek 0 = .ok (first index)
  finished : ∃ token, (place count).peek 0 = .ok token ∧ token.kind = .endOfFile
  enters : ∀ nesting, ∀ index < count, goOn nesting (tree index) (place index) =
    (nesting.enter expected >>= deeper (tree index)) (place index)
  takes : ∀ nesting, ∀ index < count, deeper (tree index) (.ofNesting nesting) (place index) =
    goOn nesting (tree (index + 1)) (place (index + 1))
  ends : ∀ nesting, goOn nesting (tree count) (place count) = .ok (tree count) (place count)

namespace Chain

variable {Tree : Type} (chain : Chain Tree) (rules : Rules)

def result (room : Nat) : EStateM.Result SyntaxError Cursor Tree :=
  if chain.count ≤ room then .ok (chain.tree chain.count) (chain.place chain.count)
  else .error (.grammar ⟨.nestingLimitExceeded rules.limit, chain.expected, chain.first room⟩)
    (chain.place room)

/-- Every link that is taken leaves one level less for the others. The sum of the links taken and
the levels left stays the same, and so does the result. -/
theorem goOn_from {index left : Nat} (sum : index + left = chain.count) (room : Nat) :
    chain.goOn (.ofRoom rules room) (chain.tree index) (chain.place index) =
      chain.result rules (index + room) := by
  induction left generalizing index room with
  | zero =>
      cases sum
      rw [result, if_pos (Nat.le_add_right _ _)]
      exact chain.ends _
  | succ left induction =>
      have less : index < chain.count := by omega
      rw [chain.enters _ index less]
      cases room with
      | zero =>
          -- No level is left, so this link is the one that is refused.
          rw [result, if_neg (by omega)]
          simp only [Nesting.ofRoom, Nesting.enter, Parse.failAt_bind]
          exact Parse.failAt_of_peek (chain.seen index less)
      | succ room =>
          have rest := @induction (index + 1) (by omega) room
          rw [Nat.add_right_comm, Nat.add_assoc] at rest
          simp only [Nesting.ofRoom, Nesting.enter, pure_bind]
          rw [chain.takes _ index less, rest]

theorem result_finishes (room : Nat) : Parse.Finishes (chain.result rules room) := by
  intro value after found
  rw [result] at found
  split at found
  · cases found
    exact chain.finished
  · cases found

theorem goOn_eq (room : Nat) :
    chain.goOn (.ofRoom rules room) (chain.tree 0) (chain.place 0) = chain.result rules room := by
  have all := chain.goOn_from rules (Nat.zero_add chain.count) room
  rwa [Nat.zero_add] at all

end Chain

/-! Places between links. -/

structure Cursor.AtLinks (cursor : Cursor) (link : Link) (count : Nat) : Prop where
  ahead : cursor.ahead = link.tokens 0 count
  ending : cursor.ending = .endOfFile (link.last count)

def Cursor.atLink (cursor : Cursor) (index : Nat) : Cursor :=
  cursor.skip (2 * index)

theorem Cursor.atLink_succ (cursor : Cursor) (index : Nat) :
    (cursor.atLink index).next.next = cursor.atLink (index + 1) :=
  cursor.skip_skip (2 * index) 2

namespace Cursor.AtLinks

variable {cursor : Cursor} {link : Link} {count index : Nat}

theorem atLink_ahead (atLinks : cursor.AtLinks link count) (enough : index ≤ count) :
    (cursor.atLink index).ahead = link.tokens index (count - index) := by
  rw [atLink, skip_ahead, atLinks.ahead, link.drop_tokens 0 enough, Nat.zero_add]

theorem ahead_cons (atLinks : cursor.AtLinks link count) (less : index < count) :
    (cursor.atLink index).ahead = link.first index :: link.second index ::
      link.tokens (index + 1) (count - (index + 1)) := by
  have more : count - index = count - (index + 1) + 1 := by omega
  rw [atLinks.atLink_ahead (Nat.le_of_lt less), more]
  rfl

theorem seen_first (atLinks : cursor.AtLinks link count) (less : index < count) :
    (cursor.atLink index).peek 0 = .ok (link.first index) :=
  peek_of_ahead (atLinks.ahead_cons less)

theorem seen_second (atLinks : cursor.AtLinks link count) (less : index < count) :
    (cursor.atLink index).next.peek 0 = .ok (link.second index) :=
  peek_of_ahead (next_of_ahead (atLinks.ahead_cons less)).1

theorem lastStop (atLinks : cursor.AtLinks link count) (less : index < count) :
    (cursor.atLink (index + 1)).lastStop = (link.second index).stop := by
  rw [← atLink_succ]
  exact (next_of_ahead (next_of_ahead (atLinks.ahead_cons less)).1).2.2

theorem seen_last (atLinks : cursor.AtLinks link count) :
    (cursor.atLink count).peek 0 = .ok (link.last count) := by
  refine (peek_of_over ?_ ?_).1
  · rw [atLinks.atLink_ahead (Nat.le_refl _), Nat.sub_self]
    rfl
  · rw [atLink, skip_ending, atLinks.ending]

theorem seen_next (atLinks : cursor.AtLinks link count) (enough : index ≤ count) :
    ∃ token, (cursor.atLink index).peek 0 = .ok token ∧
      (token.kind = (link.first 0).kind ∨ token.kind = .endOfFile) := by
  rcases Nat.lt_or_eq_of_le enough with less | rfl
  · refine ⟨_, atLinks.seen_first less, .inl ?_⟩
    cases link <;> rfl
  · exact ⟨_, atLinks.seen_last, .inr rfl⟩

end Cursor.AtLinks

namespace Parse

variable {nesting : Nesting} {cursor : Cursor} {count index : Nat} {token : Token}

/-! What the parts of an expression do at the end of a text. -/

theorem suffixes_at_end (seen : cursor.peek 0 = .ok token) (isEnd : token.kind = .endOfFile)
    (start : Nat) (base : Expression) :
    Reaches (suffixes nesting start true base) cursor cursor (· = base) := by
  apply (current_reaches seen).bindEq
  rw [isEnd]
  exact .pure rfl

theorem operators_at_end (seen : cursor.peek 0 = .ok token) (isEnd : token.kind = .endOfFile)
    (start minimum : Nat) (left : Expression) :
    Reaches (operators nesting start minimum left) cursor cursor (· = left) := by
  have none : Reaches binaryOperator? cursor cursor (· = none) := by
    apply (current_reaches seen).bindEq
    simp only [Token.isMark, isEnd]
    exact .pure rfl
  exact none.bindEq (.pure rfl)

/-! Accesses and calls. -/

theorem suffixes_enters (seen : cursor.peek 0 = .ok token)
    (opens : token.kind = .punctuator .dot ∨ token.kind = .punctuator .openParen) (start : Nat)
    (base : Expression) :
    suffixes nesting start true base cursor =
      (nesting.enter .expression >>= fun level => level.suffix start true base) cursor := by
  rw [suffixes, bind_of_reaches (current_reaches seen)]
  rcases opens with kind | kind
  · rw [kind]
  · rw [kind]
    rfl

theorem oneSuffix_property (atLinks : cursor.AtLinks .property count) (less : index < count)
    (base : Expression) :
    Reaches (oneSuffix nesting 0 base) (cursor.atLink index) (cursor.atLink (index + 1))
      (· = .property ⟨0, Link.property.start (index + 1)⟩ base
        ⟨⟨Link.property.start index + 1, Link.property.start (index + 1)⟩, "b"⟩ false) := by
  apply (current_reaches (atLinks.seen_first less)).bindEq
  apply (take_reaches (atLinks.seen_first less)).bindEq
  have name : Reaches identifierName (cursor.atLink index).next (cursor.atLink (index + 1))
      (· = identifierOf (Link.property.second index)) := by
    apply (current_reaches (atLinks.seen_second less)).bindEq
    rw [← Cursor.atLink_succ]
    exact (take_reaches (atLinks.seen_second less)).bindEq (.pure rfl)
  apply name.bindEq
  apply (spanFrom_reaches 0).bindEq
  rw [atLinks.lastStop less]
  exact .pure rfl

theorem oneSuffix_call (atLinks : cursor.AtLinks .call count) (less : index < count)
    (base : Expression) :
    Reaches (oneSuffix nesting 0 base) (cursor.atLink index) (cursor.atLink (index + 1))
      (· = .call ⟨0, Link.call.start (index + 1)⟩ base none []) := by
  apply (current_reaches (atLinks.seen_first less)).bindEq
  have none : Reaches (arguments nesting) (cursor.atLink index) (cursor.atLink (index + 1))
      (· = []) := by
    apply (expectKind_reaches (atLinks.seen_first less) rfl).bindEq
    have finished : Reaches (commaList .closeParen nesting.expression) (cursor.atLink index).next
        (cursor.atLink index).next (· = []) := by
      apply repeated_stop
      apply (atMark_reaches (atLinks.seen_second less) _).bindEq
      exact .pure rfl
    apply finished.bindEq
    rw [← Cursor.atLink_succ]
    exact (expectKind_reaches (atLinks.seen_second less) rfl).bindEq (.pure rfl)
  apply none.bindEq
  apply (spanFrom_reaches 0).bindEq
  rw [atLinks.lastStop less]
  exact .pure rfl

/-! Names. -/

theorem leftHandSide_of_name (seen : cursor.peek 0 = .ok token) (plain : token.kind = .identifier)
    (noLiteral : literalOf? token = none) :
    leftHandSide nesting cursor =
      suffixes nesting token.start true (.identifier (identifierOf token)) cursor.next := by
  rw [leftHandSide, bind_of_reaches (currentStart_reaches seen),
    bind_of_reaches (name_reaches seen plain noLiteral)]

theorem binary_of_name (seen : cursor.peek 0 = .ok token) (plain : token.kind = .identifier)
    (noLiteral : literalOf? token = none) (minimum : Nat) :
    binary nesting minimum cursor =
      (suffixes nesting token.start true (.identifier (identifierOf token)) >>=
        operators nesting token.start minimum) cursor.next := by
  have operand : unary nesting cursor =
      suffixes nesting token.start true (.identifier (identifierOf token)) cursor.next := by
    rw [unary, bind_of_reaches (current_reaches seen), plain]
    exact leftHandSide_of_name seen plain noLiteral
  rw [binary, bind_of_reaches (currentStart_reaches seen)]
  exact bind_of_eq operand

/-- Nothing of an expression goes on after its binary operators, where the text is over. -/
theorem assignment_of_name {next : Token} {result : EStateM.Result SyntaxError Cursor Expression}
    (seen : cursor.peek 0 = .ok token) (plain : token.kind = .identifier)
    (seenNext : cursor.peek 1 = .ok next) (noArrow : next.kind ≠ .punctuator .arrow)
    (read : binary nesting 0 cursor = result) (finishes : Finishes result) :
    assignment nesting cursor = result := by
  have untaken : Reaches (arrow? nesting) cursor cursor (· = none) := by
    apply (current_reaches seen).bindEq
    rw [plain]
    apply (kindAhead_reaches seenNext).bindEq
    rw [if_neg noArrow]
    exact .pure rfl
  have whole : conditional nesting cursor = result := by
    rw [conditional, bind_of_reaches (currentStart_reaches seen)]
    refine finishes.bind read fun after last value seenLast isEnd => ?_
    apply (accept_absent seenLast (by simp [Token.isMark, isEnd])).bindEq
    exact .pure rfl
  rw [assignment, bind_of_reaches untaken]
  dsimp only
  rw [bind_of_reaches (currentStart_reaches seen)]
  refine finishes.bind whole fun after last value seenLast isEnd => ?_
  apply (current_reaches seenLast).bindEq
  rw [isEnd]
  exact .pure rfl

/-! Operators. -/

theorem suffixes_before_sum (atLinks : cursor.AtLinks .sum count) (enough : index ≤ count)
    (start : Nat) (base : Expression) :
    Reaches (suffixes nesting start true base) (cursor.atLink index) (cursor.atLink index)
      (· = base) := by
  rcases atLinks.seen_next enough with ⟨token, seen, kind | isEnd⟩
  · apply (current_reaches seen).bindEq
    rw [kind]
    exact .pure rfl
  · exact suffixes_at_end seen isEnd start base

theorem plus_reaches (seen : cursor.peek 0 = .ok token) (adds : token.kind = .punctuator .plus) :
    Reaches binaryOperator? cursor cursor (· = some ⟨.plus, 1, 9⟩) := by
  apply (current_reaches seen).bindEq
  simp only [Token.isMark, adds]
  exact .pure rfl

theorem operators_before_sum (atLinks : cursor.AtLinks .sum count) (enough : index ≤ count)
    (start : Nat) (left : Expression) :
    Reaches (operators nesting start 9 left) (cursor.atLink index) (cursor.atLink index)
      (· = left) := by
  rcases atLinks.seen_next enough with ⟨token, seen, kind | isEnd⟩
  · apply (plus_reaches seen kind).bindEq
    exact .pure rfl
  · exact operators_at_end seen isEnd start 9 left

theorem sum_enters (seen : cursor.peek 0 = .ok token)
    (adds : token.kind = .punctuator .plus) (left : Expression) :
    operators nesting 0 0 left cursor =
      (nesting.enter .expression >>= fun level => level.operator 0 0 left .plus 1 9) cursor := by
  rw [operators, bind_of_reaches (plus_reaches seen adds)]
  rfl

theorem oneOperator_sum (atLinks : cursor.AtLinks .sum count) (less : index < count)
    (left : Expression) :
    Reaches (oneOperator nesting 0 left ⟨.plus, 1, 9⟩) (cursor.atLink index)
      (cursor.atLink (index + 1))
      (· = .binary ⟨0, Link.sum.start (index + 1)⟩ left .plus
        (.identifier ⟨⟨Link.sum.start index + 3, Link.sum.start (index + 1)⟩, "a"⟩)) := by
  have passed : Reaches (modify (·.skip 1) : Parse PUnit) (cursor.atLink index)
      (cursor.atLink index).next (· = ⟨⟩) := ⟨_, modify_eq_ok.mpr rfl, rfl⟩
  have operand : Reaches (binary nesting 9) (cursor.atLink index).next (cursor.atLink (index + 1))
      (· = .identifier (identifierOf (Link.sum.second index))) := by
    refine ⟨_, ?_, rfl⟩
    rw [binary_of_name (atLinks.seen_second less) rfl rfl, Cursor.atLink_succ,
      bind_of_reaches (suffixes_before_sum atLinks less _ _)]
    exact parsed_of_reaches (operators_before_sum atLinks less _ _)
  apply passed.bindEq
  apply operand.bindEq
  apply (spanFrom_reaches 0).bindEq
  rw [atLinks.lastStop less]
  exact .pure rfl

/-! Brackets. -/

theorem arraySuffixes_at_end (seen : cursor.peek 0 = .ok token) (isEnd : token.kind = .endOfFile)
    (start : Nat) (element : TypeExpr) :
    Reaches (arraySuffixes nesting start element) cursor cursor (· = element) := by
  apply (current_reaches seen).bindEq
  rw [if_neg (by simp [Token.isMark, isEnd])]
  exact .pure rfl

theorem arraySuffixes_enters (atLinks : cursor.AtLinks .array count) (less : index < count)
    (element : TypeExpr) :
    arraySuffixes nesting 0 element (cursor.atLink index) =
      (nesting.enter .type >>= fun level => level.arraySuffix 0 element) (cursor.atLink index) := by
  have seenSecond := atLinks.seen_second less
  rw [Cursor.next_peek] at seenSecond
  rw [arraySuffixes, bind_of_reaches (current_reaches (atLinks.seen_first less))]
  exact bind_of_reaches (kindAhead_reaches seenSecond)

theorem oneArray_brackets (atLinks : cursor.AtLinks .array count) (less : index < count)
    (element : TypeExpr) :
    Reaches (oneArray 0 element) (cursor.atLink index) (cursor.atLink (index + 1))
      (· = .array ⟨0, Link.array.start (index + 1)⟩ element) := by
  apply (take_reaches (atLinks.seen_first less)).bindEq
  apply (take_reaches (atLinks.seen_second less)).bindEq
  rw [Cursor.atLink_succ]
  apply (spanFrom_reaches 0).bindEq
  rw [atLinks.lastStop less]
  exact .pure rfl

theorem listType_of_one {mark : Punctuator} {build : Span → List TypeExpr → TypeExpr}
    {member : Parse TypeExpr} {result : EStateM.Result SyntaxError Cursor TypeExpr}
    (seen : cursor.peek 0 = .ok token) (noMark : token.isMark mark = false)
    (read : member cursor = result) (finishes : Finishes result) :
    listType mark build member cursor = result := by
  rw [listType, bind_of_reaches (currentStart_reaches seen),
    bind_of_reaches (accept_absent seen noMark)]
  refine finishes.bind read fun after last value seenLast isEnd => ?_
  apply (atMark_reaches seenLast mark).bindEq
  rw [if_neg (by simp [Token.isMark, isEnd])]
  exact .pure rfl

end Parse

/-! The four chains. -/

namespace Chain

variable {cursor : Cursor} {link : Link} {count : Nat}

def ofSuffixes (atLinks : cursor.AtLinks link count)
    (opens : ∀ index, (link.first index).kind = .punctuator .dot ∨
      (link.first index).kind = .punctuator .openParen)
    (tree : Nat → Expression)
    (one : ∀ nesting : Nesting, ∀ index < count,
      Reaches (Parse.oneSuffix nesting 0 (tree index)) (cursor.atLink index)
        (cursor.atLink (index + 1)) (· = tree (index + 1))) : Chain Expression where
  expected := .expression
  goOn nesting base := Parse.suffixes nesting 0 true base
  deeper base level := level.suffix 0 true base
  count := count
  tree := tree
  place := cursor.atLink
  first := link.first
  seen _ less := atLinks.seen_first less
  finished := ⟨_, atLinks.seen_last, rfl⟩
  enters _ index less := Parse.suffixes_enters (atLinks.seen_first less) (opens index) 0 _
  takes nesting index less := by
    change Parse.suffix nesting 0 true (tree index) (cursor.atLink index) = _
    rw [Parse.suffix_eq]
    exact Parse.bind_of_reaches (one nesting index less)
  ends _ := Parse.parsed_of_reaches (Parse.suffixes_at_end atLinks.seen_last rfl 0 _)

def properties (atLinks : cursor.AtLinks .property count) : Chain Expression :=
  ofSuffixes atLinks (fun _ => .inl rfl) Link.properties fun _ _ less =>
    Parse.oneSuffix_property atLinks less _

def calls (atLinks : cursor.AtLinks .call count) : Chain Expression :=
  ofSuffixes atLinks (fun _ => .inr rfl) Link.calls fun _ _ less =>
    Parse.oneSuffix_call atLinks less _

def sums (atLinks : cursor.AtLinks .sum count) : Chain Expression where
  expected := .expression
  goOn nesting left := Parse.operators nesting 0 0 left
  deeper left level := level.operator 0 0 left .plus 1 9
  count := count
  tree := Link.sums
  place := cursor.atLink
  first := Link.sum.first
  seen _ less := atLinks.seen_first less
  finished := ⟨_, atLinks.seen_last, rfl⟩
  enters _ _ less := Parse.sum_enters (atLinks.seen_first less) rfl _
  takes nesting index less := by
    change Parse.operator nesting 0 0 (Link.sums index) .plus 1 9 (cursor.atLink index) = _
    rw [Parse.operator_eq nesting 0 0 _ ⟨.plus, 1, 9⟩]
    exact Parse.bind_of_reaches (Parse.oneOperator_sum atLinks less _)
  ends _ := Parse.parsed_of_reaches (Parse.operators_at_end atLinks.seen_last rfl 0 0 _)

def arrays (atLinks : cursor.AtLinks .array count) : Chain TypeExpr where
  expected := .type
  goOn nesting element := Parse.arraySuffixes nesting 0 element
  deeper element level := level.arraySuffix 0 element
  count := count
  tree := Link.arrays
  place := cursor.atLink
  first := Link.array.first
  seen _ less := atLinks.seen_first less
  finished := ⟨_, atLinks.seen_last, rfl⟩
  enters _ _ less := Parse.arraySuffixes_enters atLinks less _
  takes nesting index less := by
    change Parse.arraySuffix nesting 0 (Link.arrays index) (cursor.atLink index) = _
    rw [Parse.arraySuffix_eq]
    exact Parse.bind_of_reaches (Parse.oneArray_brackets atLinks less _)
  ends _ := Parse.parsed_of_reaches (Parse.arraySuffixes_at_end atLinks.seen_last rfl 0 _)

end Chain

end TypedScript
