import TypedScript.Proofs.Angles.Basic
import TypedScript.Proofs.Shape.Expressions

/-!
The type arguments of expressions are closed properly. An instantiation is where this could fail:
the rule for type arguments lets an arrow follow it. But whatever takes the instantiation as a part
takes another token after it, or hands it on as it is, and none of these tokens is an arrow.
-/

namespace TypedScript

open Node

namespace Cursor

variable {lexed : Lexed} {before after : Cursor}

theorem On.start_le (on : before.On lexed) {start : Nat} {lexemes : List Lexeme} {nodes : List Node}
    (starts : before.StartsAt start) (piece : Piece before after lexemes nodes)
    (notEmpty : lexemes ≠ []) : start ≤ after.lastStop := by
  cases piece with
  | @intro tokens _ takes _ =>
      cases tokens with
      | nil => simp at notEmpty
      | cons first rest =>
          have inOrder := on.takes_inOrder takes
          have bound := inOrder.stopAfter_spec.2 first (by simp)
          have nonempty := inOrder.nonempty first (by simp)
          rcases starts with ⟨token, found, rfl⟩
          cases found.symm.trans (peek_of_ahead takes.ahead)
          rw [takes.lastStop, stopAfter_cons]
          omega

/-- Type arguments have been read up to here, together with their closing bracket. -/
def BehindTypes (lexed : Lexed) (types : List TypeExpr) (cursor : Cursor) : Prop :=
  ∃ earlier closing, lexed.tokens = earlier ++ closing :: cursor.ahead ∧
    closing.isMark .greaterThan = true ∧ closing.stop = cursor.lastStop ∧
    ∃ last, types.getLast? = some last ∧ last.span.stop = stopAfter 0 earlier

def NoEquals (cursor : Cursor) : Prop :=
  ∀ token, cursor.peek 0 = .ok token → token.isMark .equals = true → token.start ≠ cursor.lastStop

theorem BehindTypes.closed {types : List TypeExpr} (behind : after.BehindTypes lexed types)
    (noEquals : after.NoEquals) (noArrow : ¬ after.AtArrow) : TypesClosed lexed types := by
  rcases behind with ⟨earlier, closing, split, isMark, stop, last⟩
  refine ⟨earlier, closing, after.ahead, split, isMark, last, fun next isNext => ?_⟩
  rcases List.head?_eq_some_iff.mp isNext with ⟨rest, ahead⟩
  have peeked := peek_of_ahead ahead
  refine ⟨fun isEquals => ?_, fun isArrow => ?_⟩
  · rw [stop]
    exact noEquals next peeked isEquals
  · rw [← Bool.not_eq_false]
    exact fun sameLine => noArrow ⟨next, peeked, isArrow, sameLine⟩

end Cursor

structure Level.ClosesAngles (lexed : Lexed) (level : Level) : Prop where
  typeStop {before after : Cursor} {type : TypeExpr} : before.On lexed →
    level.type before = .ok type after → type.span.stop = after.lastStop
  assignment : Settles lexed level.assignment (Closed lexed .expression)
  unary : Settles lexed level.unary (Closed lexed .expression)
  newExpression : Settles lexed level.newExpression (Closed lexed .expression)
  operator {start minimum width precedence : Nat} {left : Expression} {mark : Punctuator} :
    Closed lexed .expression left →
    Settles lexed (level.operator start minimum left mark width precedence)
      (Closed lexed .expression)
  suffix {start : Nat} {allowCalls : Bool} {base : Expression} : Closed lexed .expression base →
    Settles lexed (level.suffix start allowCalls base) (Closed lexed .expression)
  typedSuffix {start : Nat} {allowCalls : Bool} {base value : Expression}
      {types : List TypeExpr} {before after : Cursor} :
    Closed lexed .expression base → (∀ type ∈ types, Closed lexed .type type) →
    before.On lexed → before.BehindTypes lexed types → before.NoEquals →
    level.typedSuffix start allowCalls base types before = .ok value after →
    Settled lexed (Closed lexed .expression value) after

structure Nesting.ClosesAngles (lexed : Lexed) (nesting : Nesting) : Prop where
  inner {level : Level} : nesting.inner = some level → level.ClosesAngles lexed
  reading : nesting.Reading
  types : nesting.YieldsTypes

namespace Nesting.ClosesAngles

variable {lexed : Lexed} {nesting : Nesting} {α : Type}

theorem enter (closes : nesting.ClosesAngles lexed) {expected : Expected}
    {next : Level → Parse α} {holds : α → Prop}
    (deeper : ∀ level, level.ClosesAngles lexed → Settles lexed (next level) holds) :
    Settles lexed (nesting.enter expected >>= next) holds := by
  refine ⟨fun on parsed => ?_⟩
  simp only [Parse.bind_eq_ok, enter_eq_ok] at parsed
  rcases parsed with ⟨level, _, ⟨inner, rfl⟩, parsed⟩
  exact (deeper level (closes.inner inner)).of_ok on parsed

theorem expression (closes : nesting.ClosesAngles lexed) :
    Settles lexed nesting.expression (Closed lexed .expression) :=
  closes.enter fun _ level => level.assignment

theorem type (closes : nesting.ClosesAngles lexed) :
    Yields nesting.type (Closed lexed .type) :=
  closes.types.type.imp fun _ => Expressionless.closed

end Nesting.ClosesAngles

attribute [local grind =] Node.children Expression.children Parameter.children

attribute [local grind .] closed_identifier closed_literal closed_functionBody

namespace Parse

variable {lexed : Lexed} {nesting : Nesting} {before after : Cursor}

/-! Where types end. -/

theorem listType_stop {mark : Punctuator} {member : Parse TypeExpr}
    {inner : TypeExpr → List Lexeme → Prop} {build : Span → List TypeExpr → TypeExpr}
    (range : ∀ span members, (build span members).span = span)
    (reads : Reads member inner fun type => [.type type])
    (memberStop : ∀ {before after : Cursor} {type : TypeExpr}, before.On lexed →
      member before = .ok type after → type.span.stop = after.lastStop)
    (on : before.On lexed) {type : TypeExpr}
    (parsed : listType mark build member before = .ok type after) :
    type.span.stop = after.lastStop := by
  simp only [listType, bind_eq_ok, currentStart_eq_ok, atMark_eq_ok] at parsed
  rcases parsed with ⟨start, _, ⟨starts, rfl⟩, leads, _, leadParsed, first, _, firstParsed, _, _,
    ⟨_, rfl⟩, parsed⟩
  have lead := accept_piece leadParsed
  split at parsed
  · simp only [bind_eq_ok, spanFrom_eq_ok, pure_eq_ok] at parsed
    rcases parsed with ⟨others, _, othersParsed, _, _, ⟨rfl, rfl⟩, rfl, rfl⟩
    rcases reads firstParsed with ⟨_, _, firstPiece⟩
    rcases repeated_induction (fun _ _ _ parsed => markTurn_leads reads parsed) othersParsed with
      ⟨_, _, othersPiece⟩
    have bound := on.start_le starts (lead.append (firstPiece.append othersPiece))
      (by simp [firstPiece.ne_nil])
    rw [range]
    exact Nat.max_eq_left bound
  · rcases pure_eq_ok.mp parsed with ⟨rfl, rfl⟩
    exact memberStop (on.piece lead) firstParsed

theorem unionType_stop (reading : nesting.Reading) (on : before.On lexed) {type : TypeExpr}
    (parsed : unionType nesting before = .ok type after) : type.span.stop = after.lastStop := by
  have postfixStop {before after : Cursor} {type : TypeExpr} (on : before.On lexed)
      (parsed : postfixType nesting before = .ok type after) :
      type.span.stop = after.lastStop := by
    rcases postfixType_forms reading parsed with ⟨_, _, whole⟩
    exact on.stop_of_whole whole
  have intersectionStop {before after : Cursor} {type : TypeExpr} (on : before.On lexed)
      (parsed : intersectionType nesting before = .ok type after) :
      type.span.stop = after.lastStop :=
    listType_stop (fun _ _ => rfl) (postfixType_forms reading).reads postfixStop on parsed
  exact listType_stop (fun _ _ => rfl) (intersectionType_reads reading) intersectionStop on parsed

/-! Type arguments. -/

/-- The last of some types with commas between them ends where the list does. -/
theorem repeated_requiredType_stop (closes : nesting.ClosesAngles lexed) (on : before.On lexed)
    {types : List TypeExpr}
    (parsed : repeated (requiredType nesting >>= commaTurn) before = .ok types after) :
    ∃ last, types.getLast? = some last ∧ last.span.stop = after.lastStop := by
  refine repeated_induction (motive := fun types before after => before.On lexed →
    ∃ last, types.getLast? = some last ∧ last.span.stop = after.lastStop) ?_ parsed on
  intro before turned after parsed
  simp only [requiredType, commaTurn, bind_eq_ok, Nesting.type, Nesting.enter_eq_ok] at parsed
  rcases parsed with ⟨type, between, ⟨_, _, required, level, _, ⟨inner, rfl⟩, typeParsed⟩, found,
    _, accepted, parsed⟩
  rcases requireTypeStart_eq_ok required with rfl
  rcases (closes.reading level inner).type typeParsed with ⟨_, _, typePiece⟩
  have piece := typePiece.append (accept_piece accepted)
  cases found with
  | false =>
      rcases pure_eq_ok.mp parsed with ⟨rfl, rfl⟩
      rcases (accept_piece accepted).eq_of_nil with rfl
      exact fun on => ⟨type, rfl, (closes.inner inner).typeStop on typeParsed⟩
  | true =>
      rcases pure_eq_ok.mp parsed with ⟨rfl, rfl⟩
      refine ⟨piece.length_lt (by simp [Lexeme.flag]), fun types later rest on => ?_⟩
      rcases rest (on.piece piece) with ⟨last, isLast, stop⟩
      refine ⟨last, ?_, stop⟩
      rw [List.getLast?_cons, isLast, Option.getD_some]

theorem typeArguments_behind (closes : nesting.ClosesAngles lexed) (on : before.On lexed)
    {types : List TypeExpr} (parsed : typeArguments nesting before = .ok types after) :
    after.BehindTypes lexed types := by
  simp only [typeArguments, bind_eq_ok, pure_eq_ok] at parsed
  rcases parsed with ⟨_, _, opened, _, between, listParsed, closing, _, closed, rfl, rfl⟩
  have reached := on.piece (expect_piece opened)
  have last := repeated_requiredType_stop closes reached listParsed
  rcases repeated_commaTurn_reads (requiredType_reads closes.reading) listParsed with
    ⟨_, _, listPiece⟩
  rcases (reached.piece listPiece).split with ⟨earlier, split, lastStop⟩
  rcases expectKind_eq_ok.mp closed with ⟨peeked, kind, rfl⟩
  rcases Cursor.ahead_of_peek peeked (by simp [kind]) with ⟨rest, ahead⟩
  rcases Cursor.next_of_ahead ahead with ⟨nextAhead, _, nextStop⟩
  rw [lastStop (by simp [ahead])] at last
  refine ⟨earlier, closing, ?_, Token.isMark_iff.mpr kind, nextStop.symm, last⟩
  rw [split, ahead, nextAhead]

theorem typeArgumentsInExpression?_behind (closes : nesting.ClosesAngles lexed)
    (on : before.On lexed) {found : Option (List TypeExpr)}
    (parsed : typeArgumentsInExpression? nesting before = .ok found after) :
    (∃ types, found = some types ∧ ¬ before.AtArrow ∧ (∀ type ∈ types, Closed lexed .type type) ∧
      after.BehindTypes lexed types ∧ after.NoEquals) ∨ found = none ∧ before = after := by
  simp only [typeArgumentsInExpression?, bind_eq_ok, atMark_eq_ok] at parsed
  rcases parsed with ⟨_, _, ⟨⟨first, peekedFirst, rfl⟩, rfl⟩, parsed⟩
  split at parsed
  · next isAngle =>
      have noArrow : ¬ before.AtArrow :=
        Cursor.not_atArrow_of_kind peekedFirst (Token.isMark_iff.mp isAngle) (by decide)
      rcases speculate_eq_ok parsed with ⟨types, rfl, attempted⟩ | ⟨rfl, rfl⟩
      · simp only [bind_eq_ok, current_eq_ok, get_eq_ok] at attempted
        rcases attempted with ⟨arguments, _, argumentsParsed, token, _, ⟨peeked, rfl⟩, _, _,
          ⟨rfl, rfl⟩, attempted⟩
        have typing := (typeArguments_typing closes.types).of_ok argumentsParsed
        have behind := typeArguments_behind closes on argumentsParsed
        split at attempted
        · cases (pure_eq_ok.mp attempted).1
        · next untouched =>
            split at attempted
            · rcases pure_eq_ok.mp attempted with ⟨same, rfl⟩
              cases same
              refine .inl ⟨_, rfl, noArrow, fun type member => (typing type member).closed, behind,
                fun other otherPeeked isEquals touches => ?_⟩
              cases peeked.symm.trans otherPeeked
              simp [isEquals, touches] at untouched
            · cases (pure_eq_ok.mp attempted).1
      · exact .inr ⟨rfl, rfl⟩
  · rcases pure_eq_ok.mp parsed with ⟨rfl, rfl⟩
    exact .inr ⟨rfl, rfl⟩

/-! Arguments, objects and arrays. -/

theorem arguments_closed (closes : nesting.ClosesAngles lexed) (on : before.On lexed)
    {arguments : List Expression} (parsed : Parse.arguments nesting before = .ok arguments after) :
    (∀ value ∈ arguments, Closed lexed .expression value) ∧ after.On lexed := by
  simp only [Parse.arguments, bind_eq_ok, pure_eq_ok] at parsed
  rcases parsed with ⟨_, _, opened, _, _, listParsed, _, _, closed, rfl, rfl⟩
  have settled := (closes.expression.commaList .closeParen).of_ok (on.piece (expect_piece opened))
    listParsed
  exact settled.expect (by decide) closed

theorem objectProperty_settles (closes : nesting.ClosesAngles lexed) :
    Settles lexed (objectProperty nesting) (Closed lexed .objectProperty) := by
  refine ⟨fun {before after property} on parsed => ?_⟩
  have reached := on.formed (objectProperty_forms closes.reading parsed)
  simp only [objectProperty, bind_eq_ok, current_eq_ok] at parsed
  rcases parsed with ⟨token, _, ⟨_, rfl⟩, key, _, keyParsed, found, _, accepted, parsed⟩
  have between := (on.formed (propertyKey_forms keyParsed)).piece (accept_piece accepted)
  have keyClosed : Closed lexed .propertyKey key := by
    refine closed_of_children rfl fun child member => ?_
    cases key <;> grind
  split at parsed
  · simp only [bind_eq_ok, spanFrom_eq_ok, pure_eq_ok] at parsed
    rcases parsed with ⟨value, _, valueParsed, _, _, ⟨rfl, rfl⟩, rfl, rfl⟩
    refine (closes.expression.of_ok between valueParsed).imp fun valueClosed => ?_
    refine closed_of_children rfl fun child member => ?_
    grind
  · refine ⟨reached, fun _ => ?_⟩
    cases key with
    | literal => exact absurd parsed unexpected_ne_ok
    | identifier name =>
        dsimp only at parsed
        split at parsed
        · simp only [bind_eq_ok, spanFrom_eq_ok, pure_eq_ok] at parsed
          rcases parsed with ⟨_, _, _, rfl, _⟩
          refine closed_of_children rfl fun child member => ?_
          grind
        · exact absurd parsed unexpected_ne_ok

theorem objectLiteral_closed (closes : nesting.ClosesAngles lexed) (on : before.On lexed)
    {value : Expression} (parsed : objectLiteral nesting before = .ok value after) :
    Closed lexed .expression value := by
  simp only [objectLiteral, bind_eq_ok, currentStart_eq_ok, spanFrom_eq_ok, pure_eq_ok] at parsed
  rcases parsed with ⟨_, _, ⟨_, rfl⟩, _, _, opened, properties, _, listParsed, _, _, closed, _, _,
    _, rfl, _⟩
  have settled := ((objectProperty_settles closes).commaList .closeBrace).of_ok
    (on.piece (expect_piece opened)) listParsed
  have propertiesClosed := (settled.expect (by decide) closed).1
  refine closed_untyped rfl fun child member => ?_
  grind

theorem arrayLiteral_closed (closes : nesting.ClosesAngles lexed) (on : before.On lexed)
    {value : Expression} (parsed : arrayLiteral nesting before = .ok value after) :
    Closed lexed .expression value := by
  simp only [arrayLiteral, bind_eq_ok, currentStart_eq_ok, spanFrom_eq_ok, pure_eq_ok] at parsed
  rcases parsed with ⟨_, _, ⟨_, rfl⟩, _, _, opened, elements, _, listParsed, _, _, closed, _, _,
    _, rfl, _⟩
  have settled := (closes.expression.commaList .closeBracket).of_ok
    (on.piece (expect_piece opened)) listParsed
  have elementsClosed := (settled.expect (by decide) closed).1
  refine closed_untyped rfl fun child member => ?_
  grind

theorem parenthesizedExpression_closed (closes : nesting.ClosesAngles lexed)
    (on : before.On lexed) {value : Expression}
    (parsed : parenthesizedExpression nesting before = .ok value after) :
    Closed lexed .expression value := by
  simp only [parenthesizedExpression, bind_eq_ok, currentStart_eq_ok, spanFrom_eq_ok, pure_eq_ok]
    at parsed
  rcases parsed with ⟨_, _, ⟨_, rfl⟩, _, _, opened, inner, _, innerParsed, _, _, closed, _, _, _,
    rfl, _⟩
  have settled := closes.expression.of_ok (on.piece (expect_piece opened)) innerParsed
  have innerClosed := (settled.expect (by decide) closed).1
  refine closed_untyped rfl fun child member => ?_
  grind

theorem literalOrName_closed : Yields literalOrName (Closed lexed .expression) := by
  apply Yields.andThen
  intro token
  split
  · refine .pure (closed_untyped rfl fun child member => ?_)
    grind
  · refine .pure (closed_untyped rfl fun child member => ?_)
    grind

theorem primaryExpression_settles (closes : nesting.ClosesAngles lexed) :
    Settles lexed (primaryExpression nesting) (Closed lexed .expression) := by
  refine ⟨fun {before after value} on parsed => ?_⟩
  refine ⟨on.formed (primaryExpression_forms closes.reading parsed), fun _ => ?_⟩
  simp only [primaryExpression, bind_eq_ok, current_eq_ok] at parsed
  rcases parsed with ⟨token, _, ⟨_, rfl⟩, parsed⟩
  rcases exists_branch parsed with ⟨branch, chosen, parsed⟩
  split at chosen <;> subst chosen
  · exact literalOrName_closed.of_ok parsed
  · exact literalOrName_closed.of_ok parsed
  · exact literalOrName_closed.of_ok parsed
  · exact parenthesizedExpression_closed closes on parsed
  · exact objectLiteral_closed closes on parsed
  · exact arrayLiteral_closed closes on parsed
  · exact absurd parsed unexpected_ne_ok

/-! Accesses and calls. -/

section Suffixes

variable {start : Nat} {allowCalls : Bool} {base value : Expression}

theorem suffixes_settled (closes : nesting.ClosesAngles lexed)
    (baseSettled : Settled lexed (Closed lexed .expression base) before)
    (parsed : suffixes nesting start allowCalls base before = .ok value after) :
    Settled lexed (Closed lexed .expression value) after := by
  have on := baseSettled.on
  simp only [suffixes, bind_eq_ok, current_eq_ok] at parsed
  rcases parsed with ⟨token, _, ⟨peeked, rfl⟩, parsed⟩
  have baseClosed {mark : Punctuator} (kind : token.kind = .punctuator mark)
      (noArrow : mark ≠ .arrow) : Closed lexed .expression base :=
    baseSettled.holds (Cursor.not_atArrow_of_kind peeked kind (by simpa using noArrow))
  have goesOn {mark : Punctuator} (kind : token.kind = .punctuator mark) (noArrow : mark ≠ .arrow)
      (parsed : (nesting.enter .expression >>= fun level => level.suffix start allowCalls base)
        before = .ok value after) : Settled lexed (Closed lexed .expression value) after :=
    (closes.enter fun _ level => level.suffix (baseClosed kind noArrow)).of_ok on parsed
  rcases exists_branch parsed with ⟨branch, chosen, parsed⟩
  split at chosen <;> subst chosen
  · next kind => exact goesOn kind (by decide) parsed
  · next kind => exact goesOn kind (by decide) parsed
  · next kind => exact goesOn kind (by decide) parsed
  · next kind =>
      split at parsed
      · exact goesOn kind (by decide) parsed
      · rcases pure_eq_ok.mp parsed with ⟨rfl, rfl⟩
        exact baseSettled
  · split at parsed
    · rcases bind_eq_ok.mp parsed with ⟨found, between, argumentsParsed, parsed⟩
      have reached := on.reads (typeArgumentsInExpression?_reads closes.reading) argumentsParsed
      rcases typeArgumentsInExpression?_behind closes on argumentsParsed with
        ⟨types, rfl, noArrow, typesClosed, behind, noEquals⟩ | ⟨rfl, rfl⟩
      · simp only [bind_eq_ok, Nesting.enter_eq_ok] at parsed
        rcases parsed with ⟨level, _, ⟨inner, rfl⟩, parsed⟩
        exact (closes.inner inner).typedSuffix (baseSettled.holds noArrow) typesClosed reached
          behind noEquals parsed
      · rcases pure_eq_ok.mp parsed with ⟨rfl, rfl⟩
        exact baseSettled
    · rcases pure_eq_ok.mp parsed with ⟨rfl, rfl⟩
      exact baseSettled
  · rcases pure_eq_ok.mp parsed with ⟨rfl, rfl⟩
    exact baseSettled

theorem suffix_settles (closes : nesting.ClosesAngles lexed)
    (baseClosed : Closed lexed .expression base) :
    Settles lexed (suffix nesting start allowCalls base) (Closed lexed .expression) := by
  refine ⟨fun {before after value} on parsed => ?_⟩
  simp only [suffix, bind_eq_ok, current_eq_ok] at parsed
  rcases parsed with ⟨token, _, ⟨_, rfl⟩, parsed⟩
  rcases exists_branch parsed with ⟨branch, chosen, parsed⟩
  split at chosen <;> subst chosen
  · simp only [bind_eq_ok, take_eq_ok, spanFrom_eq_ok] at parsed
    rcases parsed with ⟨_, _, ⟨_, rfl⟩, index, _, indexParsed, _, _, closed, _, _, ⟨_, rfl⟩,
      parsed⟩
    have settled := closes.expression.of_ok on.next indexParsed
    rcases settled.expect (by decide) closed with ⟨indexClosed, reached⟩
    refine suffixes_settled closes ⟨reached, fun _ => ?_⟩ parsed
    refine closed_untyped rfl fun child member => ?_
    grind
  · simp only [bind_eq_ok, spanFrom_eq_ok] at parsed
    rcases parsed with ⟨arguments, _, argumentsParsed, _, _, ⟨_, rfl⟩, parsed⟩
    rcases arguments_closed closes on argumentsParsed with ⟨argumentsClosed, reached⟩
    refine suffixes_settled closes ⟨reached, fun _ => ?_⟩ parsed
    refine closed_untyped rfl fun child member => ?_
    grind
  · simp only [bind_eq_ok, take_eq_ok, spanFrom_eq_ok] at parsed
    rcases parsed with ⟨_, _, ⟨_, rfl⟩, name, _, nameParsed, _, _, ⟨_, rfl⟩, parsed⟩
    refine suffixes_settled closes ⟨on.next.formed (identifierName_forms nameParsed), fun _ => ?_⟩
      parsed
    refine closed_untyped rfl fun child member => ?_
    grind

/-- A call closes its type arguments before the parenthesis that comes next; an instantiation
closes them unless an arrow comes next. -/
theorem typedSuffix_settled (closes : nesting.ClosesAngles lexed) {types : List TypeExpr}
    (baseClosed : Closed lexed .expression base)
    (typesClosed : ∀ type ∈ types, Closed lexed .type type) (on : before.On lexed)
    (behind : before.BehindTypes lexed types) (noEquals : before.NoEquals)
    (parsed : typedSuffix nesting start allowCalls base types before = .ok value after) :
    Settled lexed (Closed lexed .expression value) after := by
  simp only [typedSuffix, bind_eq_ok, atMark_eq_ok] at parsed
  rcases parsed with ⟨_, _, ⟨⟨token, peeked, rfl⟩, rfl⟩, parsed⟩
  split at parsed
  · next isParen =>
      simp only [bind_eq_ok, spanFrom_eq_ok] at parsed
      rcases parsed with ⟨arguments, _, argumentsParsed, _, _, ⟨_, rfl⟩, parsed⟩
      rcases arguments_closed closes on argumentsParsed with ⟨argumentsClosed, reached⟩
      have noArrow : ¬ before.AtArrow :=
        Cursor.not_atArrow_of_kind peeked (Token.isMark_iff.mp isParen) (by decide)
      have closed := behind.closed noEquals noArrow
      refine suffixes_settled closes ⟨reached, fun _ => ?_⟩ parsed
      refine closed_expression ?_ fun child member => ?_
      · rintro _ ⟨⟩
        exact closed
      · grind
  · simp only [bind_eq_ok, spanFrom_eq_ok] at parsed
    rcases parsed with ⟨_, _, ⟨_, rfl⟩, parsed⟩
    refine suffixes_settled closes ⟨on, fun noArrow => ?_⟩ parsed
    refine closed_expression ?_ fun child member => ?_
    · rintro _ ⟨⟩
      exact behind.closed noEquals noArrow
    · grind

end Suffixes

theorem newExpression_settles (closes : nesting.ClosesAngles lexed) :
    Settles lexed (newExpression nesting) (Closed lexed .expression) := by
  have newBase : Settles lexed (newBase nesting) (Closed lexed .expression) := by
    refine ⟨fun on parsed => ?_⟩
    simp only [Parse.newBase, bind_eq_ok, current_eq_ok] at parsed
    rcases parsed with ⟨token, _, ⟨_, rfl⟩, parsed⟩
    split at parsed
    · exact (closes.enter fun _ level => level.newExpression).of_ok on parsed
    · exact (primaryExpression_settles closes).of_ok on parsed
  refine ⟨fun {before after value} on parsed => ?_⟩
  simp only [newExpression, bind_eq_ok, currentStart_eq_ok, spanFrom_eq_ok, pure_eq_ok] at parsed
  rcases parsed with ⟨_, _, ⟨_, rfl⟩, _, _, newParsed, _, _, ⟨_, rfl⟩, base, _, baseParsed, callee,
    between, calleeParsed, found, place, typesParsed, arguments, _, argumentsParsed, _, _,
    ⟨_, rfl⟩, rfl, rfl⟩
  have reached := on.piece (expectKeyword_piece newParsed)
  have calleeSettled := suffixes_settled closes (newBase.of_ok reached baseParsed) calleeParsed
  have placeOn := calleeSettled.on.reads (typeArgumentsInExpression?_reads closes.reading)
    typesParsed
  have types := typeArgumentsInExpression?_behind closes calleeSettled.on typesParsed
  -- What has been read before the arguments, if there are any.
  have lead : Settled lexed (Closed lexed .expression callee ∧
      ∀ types ∈ found, TypesClosed lexed types ∧
        ∀ type ∈ types, Closed lexed .type type) place := by
    rcases types with ⟨types, rfl, noArrowBefore, typesClosed, behind, noEquals⟩ | ⟨rfl, rfl⟩
    · refine ⟨placeOn, fun noArrow => ⟨calleeSettled.holds noArrowBefore, ?_⟩⟩
      rintro _ ⟨⟩
      exact ⟨behind.closed noEquals noArrow, typesClosed⟩
    · exact calleeSettled.imp fun calleeClosed => ⟨calleeClosed, by simp⟩
  simp only [arguments?, bind_eq_ok, atMark_eq_ok] at argumentsParsed
  rcases argumentsParsed with ⟨_, _, ⟨⟨token, peeked, rfl⟩, rfl⟩, argumentsParsed⟩
  split at argumentsParsed
  · next isParen =>
      have noArrow : ¬ place.AtArrow :=
        Cursor.not_atArrow_of_kind peeked (Token.isMark_iff.mp isParen) (by decide)
      rcases lead.holds noArrow with ⟨calleeClosed, typesClosed⟩
      rcases map_eq_ok.mp argumentsParsed with ⟨list, listParsed, rfl⟩
      rcases arguments_closed closes placeOn listParsed with ⟨argumentsClosed, reached⟩
      refine ⟨reached, fun _ => closed_expression ?_ fun child member => ?_⟩
      · rintro types isTypes
        exact (typesClosed types isTypes).1
      · cases found <;> grind
  · rcases pure_eq_ok.mp argumentsParsed with ⟨rfl, rfl⟩
    refine lead.imp ?_
    rintro ⟨calleeClosed, typesClosed⟩
    refine closed_expression ?_ fun child member => ?_
    · rintro types isTypes
      exact (typesClosed types isTypes).1
    · cases found <;> grind

theorem leftHandSide_settles (closes : nesting.ClosesAngles lexed) :
    Settles lexed (leftHandSide nesting) (Closed lexed .expression) := by
  have leftHandBase : Settles lexed (leftHandBase nesting) (Closed lexed .expression) := by
    refine ⟨fun on parsed => ?_⟩
    simp only [Parse.leftHandBase, bind_eq_ok, current_eq_ok] at parsed
    rcases parsed with ⟨token, _, ⟨_, rfl⟩, parsed⟩
    split at parsed
    · exact (newExpression_settles closes).of_ok on parsed
    · exact (primaryExpression_settles closes).of_ok on parsed
  refine ⟨fun on parsed => ?_⟩
  simp only [leftHandSide, bind_eq_ok, currentStart_eq_ok] at parsed
  rcases parsed with ⟨_, _, ⟨_, rfl⟩, base, _, baseParsed, parsed⟩
  exact suffixes_settled closes (leftHandBase.of_ok on baseParsed) parsed

/-! Operators. -/

theorem unary_settles (closes : nesting.ClosesAngles lexed) :
    Settles lexed (unary nesting) (Closed lexed .expression) := by
  refine ⟨fun {before after value} on parsed => ?_⟩
  simp only [unary, bind_eq_ok, current_eq_ok] at parsed
  rcases parsed with ⟨token, _, ⟨_, rfl⟩, parsed⟩
  rcases exists_branch parsed with ⟨branch, chosen, parsed⟩
  split at chosen <;> subst chosen
  · split at parsed
    · simp only [bind_eq_ok, take_eq_ok, Nesting.enter_eq_ok, spanFrom_eq_ok, pure_eq_ok] at parsed
      rcases parsed with ⟨_, _, ⟨_, rfl⟩, level, _, ⟨inner, rfl⟩, operand, _, operandParsed, _, _,
        ⟨_, rfl⟩, rfl, rfl⟩
      refine ((closes.inner inner).unary.of_ok on.next operandParsed).imp fun operandClosed => ?_
      refine closed_untyped rfl fun child member => ?_
      grind
    · exact (leftHandSide_settles closes).of_ok on parsed
  · exact (leftHandSide_settles closes).of_ok on parsed

theorem not_atArrow_of_binaryOperator? {operator : BinaryOperator}
    (parsed : binaryOperator? before = .ok (some operator) after) : ¬ before.AtArrow := by
  rintro ⟨token, peeked, isArrow, _⟩
  simp only [binaryOperator?, bind_eq_ok, current_eq_ok] at parsed
  rcases parsed with ⟨_, _, ⟨found, rfl⟩, parsed⟩
  cases peeked.symm.trans found
  have kind := Token.isMark_iff.mp isArrow
  rw [if_neg (by simp [Token.isMark, kind])] at parsed
  have none := (pure_eq_ok.mp parsed).1
  rw [kind] at none
  cases none

section Operators

variable {start minimum : Nat} {left value : Expression}

theorem operators_settled (closes : nesting.ClosesAngles lexed)
    (leftSettled : Settled lexed (Closed lexed .expression left) before)
    (parsed : operators nesting start minimum left before = .ok value after) :
    Settled lexed (Closed lexed .expression value) after := by
  rcases bind_eq_ok.mp parsed with ⟨found, between, operatorParsed, parsed⟩
  rcases (binaryOperator?_eq_ok operatorParsed).1 with rfl
  cases found with
  | none =>
      rcases pure_eq_ok.mp parsed with ⟨rfl, rfl⟩
      exact leftSettled
  | some operator =>
      simp only at parsed
      split at parsed
      · rcases pure_eq_ok.mp parsed with ⟨rfl, rfl⟩
        exact leftSettled
      · have leftClosed := leftSettled.holds (not_atArrow_of_binaryOperator? operatorParsed)
        exact (closes.enter fun _ level => level.operator leftClosed).of_ok leftSettled.on parsed

theorem binary_settles (closes : nesting.ClosesAngles lexed) (minimum : Nat) :
    Settles lexed (binary nesting minimum) (Closed lexed .expression) := by
  refine ⟨fun on parsed => ?_⟩
  simp only [binary, bind_eq_ok, currentStart_eq_ok] at parsed
  rcases parsed with ⟨_, _, ⟨_, rfl⟩, left, _, leftParsed, parsed⟩
  exact operators_settled closes ((unary_settles closes).of_ok on leftParsed) parsed

theorem operator_settles (closes : nesting.ClosesAngles lexed) {width precedence : Nat}
    {mark : Punctuator} (leftClosed : Closed lexed .expression left) :
    Settles lexed (operator nesting start minimum left mark width precedence)
      (Closed lexed .expression) := by
  refine ⟨fun {before after value} on parsed => ?_⟩
  simp only [operator, bind_eq_ok, modify_eq_ok, spanFrom_eq_ok] at parsed
  rcases parsed with ⟨_, _, rfl, right, _, rightParsed, _, _, ⟨_, rfl⟩, parsed⟩
  have rightSettled := (binary_settles closes precedence).of_ok (on.skip width) rightParsed
  refine operators_settled closes (rightSettled.imp fun rightClosed => ?_) parsed
  refine closed_untyped rfl fun child member => ?_
  grind

end Operators

theorem conditional_settles (closes : nesting.ClosesAngles lexed) :
    Settles lexed (conditional nesting) (Closed lexed .expression) := by
  refine ⟨fun {before after value} on parsed => ?_⟩
  simp only [conditional, bind_eq_ok, currentStart_eq_ok] at parsed
  rcases parsed with ⟨_, _, ⟨_, rfl⟩, condition, _, conditionParsed, found, _, accepted, parsed⟩
  have conditionSettled := (binary_settles closes 0).of_ok on conditionParsed
  have accepted := conditionSettled.accept (by decide) accepted
  split at parsed
  · next isConditional =>
      rw [if_pos isConditional] at accepted
      rcases accepted with ⟨conditionClosed, reached⟩
      simp only [bind_eq_ok, spanFrom_eq_ok, pure_eq_ok] at parsed
      rcases parsed with ⟨whenTrue, _, trueParsed, _, _, colon, whenFalse, _, falseParsed, _, _,
        ⟨_, rfl⟩, rfl, rfl⟩
      have trueSettled := closes.expression.of_ok reached trueParsed
      rcases trueSettled.expect (by decide) colon with ⟨trueClosed, reached⟩
      refine (closes.expression.of_ok reached falseParsed).imp fun falseClosed => ?_
      refine closed_untyped rfl fun child member => ?_
      grind
  · next noConditional =>
      rw [if_neg noConditional] at accepted
      subst accepted
      rcases pure_eq_ok.mp parsed with ⟨rfl, rfl⟩
      exact conditionSettled

/-! Arrow functions. -/

theorem parameter_settles (closes : nesting.ClosesAngles lexed) (allowInitializer : Bool) :
    Settles lexed (parameter nesting allowInitializer) (Closed lexed .parameter) := by
  have initializers : Settles lexed (initializer? nesting allowInitializer) fun found =>
      ∀ value ∈ found, Closed lexed .expression value := by
    unfold initializer?
    split
    · exact .afterMark .equals closes.expression
    · refine ⟨fun on parsed => ?_⟩
      rcases pure_eq_ok.mp parsed with ⟨rfl, rfl⟩
      exact ⟨on, fun _ => by simp⟩
  refine ⟨fun {before after value} on parsed => ?_⟩
  simp only [parameter, bind_eq_ok, currentStart_eq_ok, spanFrom_eq_ok, pure_eq_ok] at parsed
  rcases parsed with ⟨_, _, ⟨_, rfl⟩, isRest, _, restParsed, name, _, nameParsed, optional, _,
    optionalParsed, declaredType, _, typeParsed, initializer, _, initializerParsed, _, _,
    ⟨_, rfl⟩, rfl, rfl⟩
  have reached := (((on.piece (accept_piece restParsed)).formed (identifier_forms nameParsed)).piece
    (accept_piece optionalParsed)).reads (declaredType?_reads closes.reading) typeParsed
  have typeClosed := (Yields.afterMark .colon closes.type).of_ok typeParsed
  refine (initializers.of_ok reached initializerParsed).imp fun initializerClosed => ?_
  refine closed_of_children rfl fun child member => ?_
  grind

theorem parameters_closed (closes : nesting.ClosesAngles lexed) {allowInitializers : Bool}
    (on : before.On lexed) {list : List Parameter}
    (parsed : parameters nesting allowInitializers before = .ok list after) :
    (∀ parameter ∈ list, Closed lexed .parameter parameter) ∧ after.On lexed := by
  simp only [parameters, bind_eq_ok, pure_eq_ok] at parsed
  rcases parsed with ⟨_, _, opened, _, _, listParsed, _, _, closed, rfl, rfl⟩
  have settled := ((parameter_settles closes allowInitializers).commaList .closeParen).of_ok
    (on.piece (expect_piece opened)) listParsed
  exact settled.expect (by decide) closed

theorem arrowBody_settles (closes : nesting.ClosesAngles lexed) :
    Settles lexed (arrowBody nesting) fun body =>
      ∀ value, body = .expression value → Closed lexed .expression value := by
  refine ⟨fun {before after body} on parsed => ?_⟩
  simp only [arrowBody, bind_eq_ok, atMark_eq_ok] at parsed
  rcases parsed with ⟨_, _, ⟨_, rfl⟩, parsed⟩
  split at parsed
  · rcases map_eq_ok.mp parsed with ⟨block, blockParsed, rfl⟩
    exact ⟨on.formed (functionBody_forms blockParsed), fun _ => by rintro _ ⟨⟩⟩
  · rcases map_eq_ok.mp parsed with ⟨value, valueParsed, rfl⟩
    refine (closes.expression.of_ok on valueParsed).imp fun valueClosed => ?_
    rintro _ ⟨⟩
    exact valueClosed

theorem closed_arrow {span : Span} {list : List Parameter} {result : Option TypeExpr}
    {body : ArrowBody} (parametersClosed : ∀ parameter ∈ list, Closed lexed .parameter parameter)
    (resultClosed : ∀ type ∈ result, Closed lexed .type type)
    (bodyClosed : ∀ value, body = .expression value → Closed lexed .expression value) :
    Closed lexed .expression (.arrow span list result body) := by
  refine closed_untyped rfl fun child member => ?_
  cases body <;> grind

theorem simpleArrow_settles (closes : nesting.ClosesAngles lexed) :
    Settles lexed (simpleArrow nesting) (Closed lexed .expression) := by
  refine ⟨fun {before after value} on parsed => ?_⟩
  simp only [simpleArrow, bind_eq_ok, take_eq_ok, spanFrom_eq_ok, pure_eq_ok] at parsed
  rcases parsed with ⟨token, _, ⟨_, rfl⟩, _, _, arrow, body, _, bodyParsed, _, _, ⟨_, rfl⟩, rfl,
    rfl⟩
  have plain : Closed lexed .parameter
      ⟨token.span, false, identifierOf token, false, none, none⟩ := by
    refine closed_of_children rfl fun child member => ?_
    grind
  refine ((arrowBody_settles closes).of_ok (on.next.piece (expect_piece arrow)) bodyParsed).imp ?_
  exact closed_arrow (by simpa using plain) (by simp)

theorem parenthesizedArrow_settles (closes : nesting.ClosesAngles lexed) :
    Settles lexed (parenthesizedArrow nesting) (Closed lexed .expression) := by
  refine ⟨fun {before after value} on parsed => ?_⟩
  simp only [parenthesizedArrow, bind_eq_ok, currentStart_eq_ok, spanFrom_eq_ok, pure_eq_ok]
    at parsed
  rcases parsed with ⟨_, _, ⟨_, rfl⟩, list, _, listParsed, result, _, resultParsed, _, _, arrow,
    body, _, bodyParsed, _, _, ⟨_, rfl⟩, rfl, rfl⟩
  rcases parameters_closed closes on listParsed with ⟨listClosed, reached⟩
  have resultClosed := (Yields.afterMark .colon closes.type).of_ok resultParsed
  have atBody := (reached.reads (declaredType?_reads closes.reading) resultParsed).piece
    (expect_piece arrow)
  exact ((arrowBody_settles closes).of_ok atBody bodyParsed).imp
    (closed_arrow listClosed resultClosed)

theorem arrow?_settles (closes : nesting.ClosesAngles lexed) :
    Settles lexed (arrow? nesting) fun found =>
      ∀ value ∈ found, Closed lexed .expression value := by
  refine ⟨fun {before after found} on parsed => ?_⟩
  have absent {before after : Cursor} {found : Option Expression} (on : before.On lexed)
      (parsed : (pure none : Parse (Option Expression)) before = .ok found after) :
      Settled lexed (∀ value ∈ found, Closed lexed .expression value) after := by
    rcases pure_eq_ok.mp parsed with ⟨rfl, rfl⟩
    exact ⟨on, fun _ => by simp⟩
  simp only [arrow?, bind_eq_ok, current_eq_ok] at parsed
  rcases parsed with ⟨token, _, ⟨_, rfl⟩, parsed⟩
  rcases exists_branch parsed with ⟨branch, chosen, parsed⟩
  split at chosen <;> subst chosen
  · simp only [bind_eq_ok, kindAhead_eq_ok] at parsed
    rcases parsed with ⟨_, _, ⟨_, rfl⟩, parsed⟩
    split at parsed
    · exact (simpleArrow_settles closes).present.of_ok on parsed
    · exact absent on parsed
  · simp only [bind_eq_ok, get_eq_ok] at parsed
    rcases parsed with ⟨_, _, ⟨rfl, rfl⟩, parsed⟩
    have settles := (parenthesizedArrow_settles closes).present
    rcases exists_branch parsed with ⟨branch, chosen, parsed⟩
    split at chosen <;> subst chosen
    · exact settles.of_ok on parsed
    · exact settles.speculate.of_ok on parsed
    · exact absent on parsed
  · exact absent on parsed

/-! All expressions. -/

theorem assignment_settles (closes : nesting.ClosesAngles lexed) :
    Settles lexed (assignment nesting) (Closed lexed .expression) := by
  refine ⟨fun {before after value} on parsed => ?_⟩
  rcases bind_eq_ok.mp parsed with ⟨found, between, arrowParsed, parsed⟩
  have settled := (arrow?_settles closes).of_ok on arrowParsed
  split at parsed
  · rcases pure_eq_ok.mp parsed with ⟨rfl, rfl⟩
    exact settled.imp fun closed => closed _ rfl
  · simp only [bind_eq_ok, currentStart_eq_ok, current_eq_ok] at parsed
    rcases parsed with ⟨_, _, ⟨_, rfl⟩, left, between, leftParsed, token, _, ⟨peeked, rfl⟩, parsed⟩
    have leftSettled := (conditional_settles closes).of_ok settled.on leftParsed
    rcases exists_branch parsed with ⟨branch, chosen, parsed⟩
    split at chosen <;> subst chosen
    · next mark kind =>
        split at parsed
        · next isAssignment =>
            have noArrow : ¬ between.AtArrow := by
              refine Cursor.not_atArrow_of_kind peeked kind ?_
              rintro ⟨⟩
              cases isAssignment
            have leftClosed := leftSettled.holds noArrow
            simp only [bind_eq_ok, take_eq_ok, spanFrom_eq_ok, pure_eq_ok] at parsed
            rcases parsed with ⟨_, _, ⟨_, rfl⟩, right, _, rightParsed, _, _, ⟨_, rfl⟩, rfl, rfl⟩
            refine (closes.expression.of_ok leftSettled.on.next rightParsed).imp ?_
            intro rightClosed
            refine closed_untyped rfl fun child member => ?_
            grind
        · rcases pure_eq_ok.mp parsed with ⟨rfl, rfl⟩
          exact leftSettled
    · rcases pure_eq_ok.mp parsed with ⟨rfl, rfl⟩
      exact leftSettled

end Parse

/-! The levels. -/

theorem Level.ofNesting_closesAngles {lexed : Lexed} {nesting : Nesting}
    (closes : nesting.ClosesAngles lexed) : (ofNesting nesting).ClosesAngles lexed where
  typeStop on parsed := Parse.unionType_stop closes.reading on parsed
  assignment := Parse.assignment_settles closes
  unary := Parse.unary_settles closes
  newExpression := Parse.newExpression_settles closes
  operator := Parse.operator_settles closes
  suffix := Parse.suffix_settles closes
  typedSuffix := Parse.typedSuffix_settled closes

theorem Nesting.ofRoom_closesAngles (lexed : Lexed) (rules : Rules) (room : Nat) :
    (ofRoom rules room).ClosesAngles lexed := by
  induction room with
  | zero => exact ⟨nofun, ofRoom_reading rules 0, ofRoom_yieldsTypes rules 0⟩
  | succ room induction =>
      refine ⟨?_, ofRoom_reading rules (room + 1), ofRoom_yieldsTypes rules (room + 1)⟩
      rintro level ⟨⟩
      exact Level.ofNesting_closesAngles induction

end TypedScript
