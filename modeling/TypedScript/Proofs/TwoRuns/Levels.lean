import TypedScript.Parser.Expressions
import TypedScript.Proofs.TwoRuns.Tokens

/-!
The levels of nesting, side by side. Where the run with the smaller limit refuses to go deeper the
other one goes on. Should there be no next token then the first fails with the error that the text
ends with, and so must the other: every rule of a level looks at the next token first.
-/

namespace TypedScript

/-- The parser fails at once where the text has no next token. -/
def Parse.LooksFirst {α : Type} (parser : Parse α) : Prop :=
  ∀ ⦃cursor error⦄, cursor.peek 0 = .error error →
    parser cursor = .error (.lexical error) cursor

namespace Parse.LooksFirst

variable {α β : Type}

theorem bind {first : Parse α} (looks : first.LooksFirst) (next : α → Parse β) :
    (first >>= next).LooksFirst := by
  intro cursor error failed
  simp only [Bind.bind, EStateM.bind, looks failed]

theorem current : Parse.current.LooksFirst := by
  intro cursor error failed
  simp only [Parse.current, Parse.peek, failed]

theorem unexpected (expected : Expected) : (Parse.unexpected expected : Parse α).LooksFirst :=
  current.bind _

theorem skip {next : PUnit → Parse β} (looks : ∀ done, (next done).LooksFirst) (count : Nat) :
    (modify (·.skip count) >>= next : Parse β).LooksFirst := by
  intro cursor error failed
  have noToken : cursor.ahead = [] := by
    cases ahead : cursor.ahead with
    | nil => rfl
    | cons token rest => simp [Cursor.peek, ahead] at failed
  have still : cursor.skip count = cursor := by
    induction count with
    | zero => rfl
    | succ count induction => rw [Cursor.skip_succ, induction, Cursor.next_of_nil noToken]
  change next ⟨⟩ (cursor.skip count) = _
  rw [still]
  exact looks ⟨⟩ failed

end Parse.LooksFirst

structure Level.LooksFirst (level : Level) : Prop where
  type : level.type.LooksFirst
  arraySuffix (start : Nat) (element : TypeExpr) : (level.arraySuffix start element).LooksFirst
  assignment : level.assignment.LooksFirst
  unary : level.unary.LooksFirst
  newExpression : level.newExpression.LooksFirst
  operator (start minimum : Nat) (left : Expression) (mark : Punctuator) (width precedence : Nat) :
    (level.operator start minimum left mark width precedence).LooksFirst
  suffix (start : Nat) (allowCalls : Bool) (base : Expression) :
    (level.suffix start allowCalls base).LooksFirst
  typedSuffix (start : Nat) (allowCalls : Bool) (base : Expression)
    (typeArguments : List TypeExpr) :
    (level.typedSuffix start allowCalls base typeArguments).LooksFirst

theorem Level.ofNesting_looksFirst (nesting : Nesting) : (Level.ofNesting nesting).LooksFirst where
  type := (Parse.LooksFirst.current.bind _).bind _
  arraySuffix _ _ := (Parse.LooksFirst.current.bind _).bind _
  assignment := (Parse.LooksFirst.current.bind _).bind _
  unary := Parse.LooksFirst.current.bind _
  newExpression := (Parse.LooksFirst.current.bind _).bind _
  operator _ _ _ _ width _ :=
    .skip (fun _ => ((Parse.LooksFirst.current.bind _).bind _).bind _) width
  suffix _ _ _ := Parse.LooksFirst.current.bind _
  typedSuffix _ _ _ _ := (Parse.LooksFirst.current.bind _).bind _

namespace TwoRuns

variable (runs : TwoRuns)

structure Levels (left right : Level) : Prop where
  type : runs.Alike (runs.Same TypeExpr.relocate) left.type right.type
  arraySuffix {start otherStart : Nat} {element otherElement : TypeExpr} :
    runs.Offsets start otherStart → runs.Same TypeExpr.relocate element otherElement →
    runs.Alike (runs.Same TypeExpr.relocate) (left.arraySuffix start element)
      (right.arraySuffix otherStart otherElement)
  assignment : runs.Alike (runs.Same Expression.relocate) left.assignment right.assignment
  unary : runs.Alike (runs.Same Expression.relocate) left.unary right.unary
  newExpression :
    runs.Alike (runs.Same Expression.relocate) left.newExpression right.newExpression
  operator {start otherStart : Nat} {operand otherOperand : Expression}
    {before otherBefore : Cursor}
      (minimum : Nat) (mark : Punctuator) {width : Nat} (precedence : Nat) :
    runs.Offsets start otherStart → runs.Same Expression.relocate operand otherOperand →
    runs.Related before otherBefore → width ≤ before.ahead.length →
    runs.Outcome runs.Related (runs.Same Expression.relocate)
      (left.operator start minimum operand mark width precedence before)
      (right.operator otherStart minimum otherOperand mark width precedence otherBefore)
  suffix {start otherStart : Nat} {base otherBase : Expression} (allowCalls : Bool) :
    runs.Offsets start otherStart → runs.Same Expression.relocate base otherBase →
    runs.Alike (runs.Same Expression.relocate) (left.suffix start allowCalls base)
      (right.suffix otherStart allowCalls otherBase)
  typedSuffix {start otherStart : Nat} {base otherBase : Expression}
      {typeArguments otherArguments : List TypeExpr} (allowCalls : Bool) :
    runs.Offsets start otherStart → runs.Same Expression.relocate base otherBase →
    runs.Same (each TypeExpr.relocate) typeArguments otherArguments →
    runs.Alike (runs.Same Expression.relocate)
      (left.typedSuffix start allowCalls base typeArguments)
      (right.typedSuffix otherStart allowCalls otherBase otherArguments)

inductive Inner : Option Level → Option Level → Prop
  | deeper {left right} : runs.Levels left right → Inner (some left) (some right)
  | none : runs.extra = 0 → Inner none none
  | refused {right} : 0 < runs.extra → right.LooksFirst → Inner none (some right)

structure Nestings (left right : Nesting) : Prop where
  rules : left.rules = .ofLimit runs.limit
  otherRules : right.rules = .ofLimit (runs.limit + runs.extra)
  inner : runs.Inner left.inner right.inner

variable {runs} {α β : Type} {values : α → β → Prop} {outer otherOuter : Nesting}

theorem Nestings.enter_outcome (nestings : runs.Nestings outer otherOuter) (expected : Expected)
    {left right : Cursor} (related : runs.Related left right)
    {first : Level → Parse α} {second : Level → Parse β}
    (looks : ∀ level, level.LooksFirst → (second level).LooksFirst)
    (deeper : ∀ level other, runs.Levels level other →
      runs.Outcome runs.Related values (first level left) (second other right)) :
    runs.Outcome runs.Related values ((outer.enter expected >>= first) left)
      ((otherOuter.enter expected >>= second) right) := by
  have inner := nestings.inner
  rw [Nesting.enter, Nesting.enter, nestings.rules, nestings.otherRules]
  revert inner
  generalize outer.inner = level
  generalize otherOuter.inner = other
  intro inner
  cases inner with
  | deeper levels => exact deeper _ _ levels
  | none same =>
      have fails : runs.Alike (fun _ _ : Level => False)
          (Parse.failAt (.nestingLimitExceeded runs.limit) expected)
          (Parse.failAt (.nestingLimitExceeded (runs.limit + runs.extra)) expected) := by
        rw [same]
        exact failAt_alike _ expected fun _ => trivial
      exact (fails related).bind fun _ _ _ _ impossible => impossible.elim
  | refused wider looksFirst =>
      rcases related.peek 0 with ⟨token, _, _, seen, _⟩ |
        ⟨error, otherError, failed, otherFailed, ending, otherEnding⟩ | ⟨error, failed, stops⟩
      · simp only [Parse.failAt, Parse.current, Bind.bind, EStateM.bind, Parse.peek, seen]
        exact .early (.refused wider)
      · simp only [Parse.failAt, Parse.current, Bind.bind, EStateM.bind, Parse.peek, failed]
        change runs.Outcome runs.Related values _ (second _ right)
        rw [looks _ looksFirst otherFailed]
        exact .error (.lexical ending otherEnding) related
      · simp only [Parse.failAt, Parse.current, Bind.bind, EStateM.bind, Parse.peek, failed]
        exact .early stops

theorem Nestings.enter (nestings : runs.Nestings outer otherOuter) (expected : Expected)
    {first : Level → Parse α} {second : Level → Parse β}
    (looks : ∀ level, level.LooksFirst → (second level).LooksFirst)
    (deeper : ∀ level other, runs.Levels level other →
      runs.Alike values (first level) (second other)) :
    runs.Alike values (outer.enter expected >>= first) (otherOuter.enter expected >>= second) := by
  intro left right related
  exact nestings.enter_outcome expected related looks fun level other levels =>
    deeper level other levels related

theorem Nestings.type (nestings : runs.Nestings outer otherOuter) :
    runs.Alike (runs.Same TypeExpr.relocate) outer.type otherOuter.type := by
  apply nestings.enter
  · intro level looksFirst
    exact looksFirst.type
  · intro level other levels
    exact levels.type

theorem Nestings.expression (nestings : runs.Nestings outer otherOuter) :
    runs.Alike (runs.Same Expression.relocate) outer.expression otherOuter.expression := by
  apply nestings.enter
  · intro level looksFirst
    exact looksFirst.assignment
  · intro level other levels
    exact levels.assignment

end TwoRuns

end TypedScript
