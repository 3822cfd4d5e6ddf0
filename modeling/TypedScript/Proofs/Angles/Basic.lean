import TypedScript.Proofs.Angles.Types
import TypedScript.Proofs.TokenOrder

/-!
The closing bracket of the type arguments of an expression, and the token after it. The bracket does
not touch an equals sign, and no arrow comes next on its line: the rule for type arguments sees to
the first, and the second holds because no rule goes on with an arrow after an expression. So what
is said of an expression here holds unless an arrow comes next.
-/

namespace TypedScript

/-! Places of a text. -/

namespace Cursor

structure On (lexed : Lexed) (cursor : Cursor) : Prop where
  inOrder : InOrder lexed.tokens
  reached : ∃ count, cursor = (ofLexed lexed).skip count

def AtArrow (cursor : Cursor) : Prop :=
  ∃ token, cursor.peek 0 = .ok token ∧ token.isMark .arrow = true ∧ token.afterLineBreak = false

variable {lexed : Lexed} {cursor before after : Cursor} {tokens : List Token} {token : Token}

theorem not_atArrow (found : cursor.peek 0 = .ok token) (noArrow : token.isMark .arrow = false) :
    ¬ cursor.AtArrow := by
  rintro ⟨other, peeked, isArrow, _⟩
  cases found.symm.trans peeked
  rw [noArrow] at isArrow
  cases isArrow

theorem not_atArrow_of_kind {kind : TokenKind} (found : cursor.peek 0 = .ok token)
    (isKind : token.kind = kind) (noArrow : kind ≠ .punctuator .arrow) : ¬ cursor.AtArrow :=
  not_atArrow found (by simpa [Token.isMark, isKind] using noArrow)

theorem not_atArrow_of_break (found : cursor.peek 0 = .ok token)
    (onNewLine : token.afterLineBreak = true) : ¬ cursor.AtArrow := by
  rintro ⟨other, peeked, _, sameLine⟩
  cases found.symm.trans peeked
  rw [onNewLine] at sameLine
  cases sameLine

namespace On

theorem skip (on : cursor.On lexed) (count : Nat) : (cursor.skip count).On lexed := by
  rcases on with ⟨inOrder, first, rfl⟩
  exact ⟨inOrder, first + count, skip_skip _ _ _⟩

theorem next (on : cursor.On lexed) : cursor.next.On lexed :=
  on.skip 1

theorem takes (on : before.On lexed) (taken : before.Takes tokens after) : after.On lexed := by
  rw [taken.eq_skip]
  exact on.skip _

theorem piece (on : before.On lexed) {lexemes : List Lexeme} {nodes : List Node}
    (piece : Piece before after lexemes nodes) : after.On lexed := by
  cases piece with
  | intro takes _ => exact on.takes takes

theorem formed (on : before.On lexed) {spelled : List Lexeme → Prop} {node : Node}
    (formed : Formed before after spelled node) : after.On lexed := by
  rcases formed with ⟨_, _, whole⟩
  exact on.piece whole.piece

theorem reads {α : Type} {parser : Parse α} {spelled : α → List Lexeme → Prop}
    {nodes : α → List Node} {value : α} (on : before.On lexed)
    (reads : Reads parser spelled nodes) (parsed : parser before = .ok value after) :
    after.On lexed := by
  rcases reads parsed with ⟨_, _, piece⟩
  exact on.piece piece

theorem split (on : cursor.On lexed) :
    ∃ earlier, lexed.tokens = earlier ++ cursor.ahead ∧
      (cursor.ahead ≠ [] → cursor.lastStop = stopAfter 0 earlier) := by
  rcases on with ⟨_, count, rfl⟩
  refine ⟨lexed.tokens.take count, ?_, fun more => ?_⟩
  · rw [skip_ahead]
    exact (List.take_append_drop _ _).symm
  · rw [skip_ahead, ne_eq, List.drop_eq_nil_iff, Nat.not_le] at more
    exact ((ofLexed lexed).skip_takes (Nat.le_of_lt more)).lastStop

theorem takes_inOrder (on : before.On lexed) (taken : before.Takes tokens after) :
    InOrder tokens := by
  rcases on.split with ⟨earlier, split, _⟩
  refine on.inOrder.of_sublist ?_
  rw [split, taken.ahead]
  exact (List.sublist_append_left _ _).trans (List.sublist_append_right _ _)

/-- A node that covers all tokens up to some place ends with the last of them. -/
theorem stop_of_whole (on : before.On lexed) {lexemes : List Lexeme} {node : Node}
    (whole : Whole before after lexemes node) : node.span.stop = after.lastStop := by
  cases whole with
  | intro takes covers =>
      have inOrder := on.takes_inOrder takes
      cases covers with
      | intro span _ => rw [span.eq inOrder, takes.lastStop, stopAfter_cons]

end On

end Cursor

/-! Type arguments and their closing brackets. -/

/-- What may come next after the closing bracket of type arguments: no equals sign that touches it,
and no arrow on the same line. -/
structure Token.Clears (closing next : Token) : Prop where
  equals : next.isMark .equals = true → next.start ≠ closing.stop
  arrow : next.isMark .arrow = true → next.afterLineBreak = true

/-- In the text a closing bracket stands right after the last of the types, and what comes next
after the bracket is clear of it. -/
def TypesClosed (lexed : Lexed) (types : List TypeExpr) : Prop :=
  ∃ earlier closing later, lexed.tokens = earlier ++ closing :: later ∧
    closing.isMark .greaterThan = true ∧
    (∃ last, types.getLast? = some last ∧ last.span.stop = stopAfter 0 earlier) ∧
    ∀ next ∈ later.head?, closing.Clears next

def Node.AnglesClosed (lexed : Lexed) : Node → Prop
  | .expression content => ∀ types, content.typeArguments? = some types → TypesClosed lexed types
  | _ => True

/-- A value in whose node all type arguments are closed properly. -/
abbrev Closed (lexed : Lexed) {α : Type} (node : α → Node) (value : α) : Prop :=
  (node value).Everywhere (Node.AnglesClosed lexed)

namespace Node

variable {lexed : Lexed} {node : Node}

theorem Expressionless.closed (expressionless : node.Expressionless) :
    node.Everywhere (AnglesClosed lexed) :=
  expressionless.everywhere fun other noExpression => by
    cases other with
    | expression => cases noExpression
    | _ => trivial

theorem closed_of_children (noExpression : node.isExpression = false)
    (below : ∀ child ∈ node.children, child.Everywhere (AnglesClosed lexed)) :
    node.Everywhere (AnglesClosed lexed) := by
  refine everywhere_iff.mpr ⟨?_, below⟩
  cases node with
  | expression => cases noExpression
  | _ => trivial

theorem closed_leaf (noExpression : node.isExpression = false) (isLeaf : node.children = []) :
    node.Everywhere (AnglesClosed lexed) :=
  (expressionless_leaf noExpression isLeaf).closed

theorem closed_expression {value : Expression} (types : ∀ types, value.typeArguments? = some types →
      TypesClosed lexed types)
    (below : ∀ child ∈ value.children, child.Everywhere (AnglesClosed lexed)) :
    Closed lexed .expression value :=
  everywhere_iff.mpr ⟨types, below⟩

theorem closed_untyped {value : Expression} (untyped : value.typeArguments? = none)
    (below : ∀ child ∈ value.children, child.Everywhere (Node.AnglesClosed lexed)) :
    Closed lexed .expression value := by
  refine closed_expression (fun types typed => ?_) below
  rw [untyped] at typed
  cases typed

@[simp] theorem closed_identifier (name : Identifier) : Closed lexed .identifier name :=
  closed_leaf rfl rfl

@[simp] theorem closed_literal (constant : Literal) : Closed lexed .literal constant :=
  closed_leaf rfl rfl

@[simp] theorem closed_functionBody (body : FunctionBody) : Closed lexed .functionBody body :=
  closed_leaf rfl rfl

@[simp] theorem closed_moduleName (name : ModuleName) : Closed lexed .moduleName name :=
  closed_leaf rfl rfl

end Node

/-! What parsers leave behind. -/

/-- Up to some place of the text something has been read that is as it should be, unless an arrow
comes next. -/
structure Settled (lexed : Lexed) (holds : Prop) (place : Cursor) : Prop where
  on : place.On lexed
  holds : ¬ place.AtArrow → holds

/-- From every place of the text the parser gets to one where what it has read is settled. -/
structure Settles (lexed : Lexed) {α : Type} (parser : Parse α) (holds : α → Prop) : Prop where
  of_ok {before after : Cursor} {value : α} : before.On lexed →
    parser before = .ok value after → Settled lexed (holds value) after

namespace Settled

open Parse

variable {lexed : Lexed} {holds : Prop} {before after : Cursor}

theorem imp {weaker : Prop} (settled : Settled lexed holds before) (implies : holds → weaker) :
    Settled lexed weaker before :=
  ⟨settled.on, fun noArrow => implies (settled.holds noArrow)⟩

/-- What is settled is as it should be if a mark other than an arrow comes next. -/
theorem expect {mark : Punctuator} {token : Token} (settled : Settled lexed holds before)
    (noArrow : mark ≠ .arrow) (parsed : expect mark before = .ok token after) :
    holds ∧ after.On lexed := by
  refine ⟨settled.holds ?_, settled.on.piece (expect_piece parsed)⟩
  rcases expectKind_eq_ok.mp parsed with ⟨peeked, kind, _⟩
  exact Cursor.not_atArrow_of_kind peeked kind (by simpa using noArrow)

theorem accept {mark : Punctuator} {found : Bool} (settled : Settled lexed holds before)
    (noArrow : mark ≠ .arrow) (parsed : accept mark before = .ok found after) :
    if found then holds ∧ after.On lexed else before = after := by
  have piece := accept_piece parsed
  simp only [Parse.accept, bind_eq_ok, atMark_eq_ok] at parsed
  rcases parsed with ⟨_, _, ⟨⟨token, peeked, rfl⟩, rfl⟩, parsed⟩
  split at parsed
  · next isMark =>
      simp only [bind_eq_ok, take_eq_ok, pure_eq_ok] at parsed
      rcases parsed with ⟨_, _, _, rfl, _⟩
      refine ⟨settled.holds ?_, settled.on.piece piece⟩
      exact Cursor.not_atArrow_of_kind peeked (Token.isMark_iff.mp isMark) (by simpa using noArrow)
  · exact (pure_eq_ok.mp parsed).1 ▸ (pure_eq_ok.mp parsed).2

end Settled

namespace Settles

open Parse

variable {lexed : Lexed} {α β : Type} {holds : α → Prop} {parser : Parse α} {before after : Cursor}

theorem map {change : α → β} {result : β → Prop} (settles : Settles lexed parser holds)
    (implies : ∀ value, holds value → result (change value)) :
    Settles lexed (change <$> parser) result := by
  refine ⟨fun on parsed => ?_⟩
  rcases map_eq_ok.mp parsed with ⟨inner, read, rfl⟩
  exact (settles.of_ok on read).imp (implies inner)

theorem present (settles : Settles lexed parser holds) :
    Settles lexed (some <$> parser) fun found => ∀ value ∈ found, holds value := by
  refine settles.map fun value satisfied other member => ?_
  cases member
  exact satisfied

theorem afterMark (mark : Punctuator) (settles : Settles lexed parser holds) :
    Settles lexed (afterMark mark parser) fun found => ∀ value ∈ found, holds value := by
  refine ⟨fun on parsed => ?_⟩
  rcases bind_eq_ok.mp parsed with ⟨found, between, accepted, parsed⟩
  have reached := on.piece (accept_piece accepted)
  split at parsed
  · exact settles.present.of_ok reached parsed
  · rcases pure_eq_ok.mp parsed with ⟨rfl, rfl⟩
    exact ⟨reached, fun _ => by simp⟩

theorem speculate {isFinal : SyntaxError → Bool} {attempt : Parse (Option α)}
    (settles : Settles lexed attempt fun found => ∀ value ∈ found, holds value) :
    Settles lexed (speculate isFinal attempt) fun found => ∀ value ∈ found, holds value := by
  refine ⟨fun on parsed => ?_⟩
  rcases speculate_eq_ok parsed with ⟨value, rfl, read⟩ | ⟨rfl, rfl⟩
  · exact settles.of_ok on read
  · exact ⟨on, fun _ => by simp⟩

theorem commaList (closing : Punctuator) (settles : Settles lexed parser holds) :
    Settles lexed (commaList closing parser) fun items => ∀ item ∈ items, holds item := by
  have turn {before after : Cursor} {turned : Turn α} (on : before.On lexed)
      (parsed : listTurn closing parser before = .ok turned after) :
      (∀ item, turned = .more item → holds item ∧ after.On lexed) ∧
        Settled lexed (turned.Holds holds) after := by
    simp only [listTurn, bind_eq_ok, atMark_eq_ok] at parsed
    rcases parsed with ⟨_, _, ⟨_, rfl⟩, parsed⟩
    split at parsed
    · rcases pure_eq_ok.mp parsed with ⟨rfl, rfl⟩
      exact ⟨by rintro _ ⟨⟩, on, fun _ => trivial⟩
    · simp only [commaTurn, bind_eq_ok] at parsed
      rcases parsed with ⟨value, between, read, found, _, accepted, parsed⟩
      have settled := settles.of_ok on read
      have later := settled.accept (by decide) accepted
      cases found with
      | true =>
          rcases pure_eq_ok.mp parsed with ⟨rfl, rfl⟩
          refine ⟨?_, later.2, fun _ => later.1⟩
          rintro _ ⟨⟩
          exact later
      | false =>
          rcases pure_eq_ok.mp parsed with ⟨rfl, rfl⟩
          rw [← (show between = _ from later)]
          exact ⟨by rintro _ ⟨⟩, settled⟩
  refine ⟨fun {before after items} on parsed => ?_⟩
  unfold Parse.commaList at parsed
  fun_induction repeated (listTurn closing parser) before generalizing items with
  | case1 => cases parsed
  | case2 _ _ run =>
      cases parsed
      exact (turn on run).2.imp fun _ => by simp
  | case3 _ item _ run =>
      cases parsed
      exact (turn on run).2.imp fun (satisfied : holds item) => by simpa using satisfied
  | case4 => cases parsed
  | case5 _ item _ run _ _ _ later induction =>
      cases parsed
      rcases (turn on run).1 item rfl with ⟨satisfied, reached⟩
      exact (induction reached later).imp fun others => List.forall_mem_cons.mpr ⟨satisfied, others⟩
  | case6 _ item _ run _ =>
      cases parsed
      exact (turn on run).2.imp fun (satisfied : holds item) => by simpa using satisfied

end Settles

end TypedScript
