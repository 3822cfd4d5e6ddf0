import TypedScript.Parser.Machine.Statements

/-!
A parser with a state beside a parser of the grammar. Where the grammar has so many levels left, the
state counts how many are taken; where the grammar yields a tree, the machine yields it as it is
stored. The machine is back on its level whenever it has read something or failed; only in the midst
of a loop that wraps nodes it may be deeper.
-/

namespace TypedScript

def Parse.Turn.map {α β : Type} (change : α → β) : Turn α → Turn β
  | .stop => .stop
  | .last item => .last (change item)
  | .more item => .more (change item)

theorem Parse.Turn.map_id {α : Type} : Turn.map (id : α → α) = id := by
  funext turn
  cases turn <;> rfl

namespace Machine

open Parse

variable {α β γ δ : Type}

def outcome (depth : Nat) (stored : α → β) :
    EStateM.Result SyntaxError Cursor α → EStateM.Result SyntaxError ParserState β
  | .ok value after => .ok (stored value) ⟨after, depth⟩
  | .error error after => .error error ⟨after, depth⟩

/-- The machine does what the parser does, and ends on the level where it began. -/
def Follows (depth : Nat) (stored : α → β) (machine : Machine β) (parser : Parse α) : Prop :=
  ∀ cursor, machine ⟨cursor, depth⟩ = outcome depth stored (parser cursor)

def Leads (depth : Nat) (stored : α → β) (machine : Machine β) (parser : Parse α) : Prop :=
  ∀ cursor, ∃ last, machine ⟨cursor, depth⟩ = outcome last stored (parser cursor)

variable {depth : Nat} {stored : α → β} {machine : Machine β} {parser : Parse α}

theorem Follows.leads (follows : Follows depth stored machine parser) :
    Leads depth stored machine parser :=
  fun cursor => ⟨depth, follows cursor⟩

/-! Putting parsers together. -/

section Next

variable {further : γ → δ} {machineNext : β → Machine δ} {parserNext : α → Parse γ}

theorem Follows.bind (first : Follows depth stored machine parser)
    (next : ∀ value, Follows depth further (machineNext (stored value)) (parserNext value)) :
    Follows depth further (machine >>= machineNext) (parser >>= parserNext) := by
  intro cursor
  simp only [Bind.bind, EStateM.bind, first cursor]
  cases parser cursor with
  | ok value after => exact next value after
  | error => rfl

theorem Follows.bindLeads (first : Follows depth stored machine parser)
    (next : ∀ value, Leads depth further (machineNext (stored value)) (parserNext value)) :
    Leads depth further (machine >>= machineNext) (parser >>= parserNext) := by
  intro cursor
  simp only [Bind.bind, EStateM.bind, first cursor]
  cases parser cursor with
  | ok value after => exact next value after
  | error => exact ⟨depth, rfl⟩

theorem Follows.map (first : Follows depth stored machine parser) {change : α → γ}
    {changeStored : β → δ} (same : ∀ value, changeStored (stored value) = further (change value)) :
    Follows depth further (changeStored <$> machine) (change <$> parser) := by
  intro cursor
  simp only [Functor.map, EStateM.map, first cursor]
  cases parser cursor with
  | ok value after =>
      simp only [outcome]
      rw [same value]
  | error => rfl

end Next

theorem Follows.pure {value : α} {other : β} (same : other = stored value) :
    Follows depth stored (Pure.pure other) (Pure.pure value) := by
  intro cursor
  rw [same]
  rfl

theorem Follows.ite {condition : Prop} [Decidable condition] {machineElse : Machine β}
    {parserElse : Parse α} (yes : Follows depth stored machine parser)
    (no : Follows depth stored machineElse parserElse) :
    Follows depth stored (if condition then machine else machineElse)
      (if condition then parser else parserElse) := by
  split
  · exact yes
  · exact no

theorem Leads.ite {condition : Prop} [Decidable condition] {machineElse : Machine β}
    {parserElse : Parse α} (yes : Leads depth stored machine parser)
    (no : Leads depth stored machineElse parserElse) :
    Leads depth stored (if condition then machine else machineElse)
      (if condition then parser else parserElse) := by
  split
  · exact yes
  · exact no

theorem follows_lift (parser : Parse α) : Follows depth id (liftM parser : Machine α) parser := by
  intro cursor
  change ofParse parser _ = _
  unfold ofParse
  dsimp only
  cases parser cursor <;> rfl

theorem Follows.of_lift {machineNext : α → Machine β} {parserNext : α → Parse γ}
    {stored : γ → β} (first : Parse α)
    (next : ∀ value, Follows depth stored (machineNext value) (parserNext value)) :
    Follows depth stored (liftM first >>= machineNext) (first >>= parserNext) :=
  (follows_lift first).bind next

theorem Leads.of_lift {machineNext : α → Machine β} {parserNext : α → Parse γ}
    {stored : γ → β} (first : Parse α)
    (next : ∀ value, Leads depth stored (machineNext value) (parserNext value)) :
    Leads depth stored (liftM first >>= machineNext) (first >>= parserNext) :=
  (follows_lift first).bindLeads next

theorem Follows.of_get {machineNext : ParserState → Machine β} {parserNext : Cursor → Parse α}
    (next : ∀ cursor, Follows depth stored (machineNext ⟨cursor, depth⟩) (parserNext cursor)) :
    Follows depth stored (get >>= machineNext) (get >>= parserNext) :=
  fun cursor => next cursor cursor

/-! Failing. What fails does so in the same way whatever it was to yield. -/

def FailAlike (failing : Parse β) (other : Parse α) : Prop :=
  ∀ cursor, ∃ error after, failing cursor = .error error after ∧ other cursor = .error error after

namespace FailAlike

theorem throw (error : SyntaxError) :
    FailAlike (throw error : Parse β) (throw error : Parse α) :=
  fun cursor => ⟨error, cursor, rfl, rfl⟩

theorem bind (first : Parse γ) {next : γ → Parse β} {otherNext : γ → Parse α}
    (fails : ∀ value, FailAlike (next value) (otherNext value)) :
    FailAlike (first >>= next) (first >>= otherNext) := by
  intro cursor
  simp only [Bind.bind, EStateM.bind]
  cases first cursor with
  | ok value after => exact fails value after
  | error error after => exact ⟨error, after, rfl, rfl⟩

theorem ite {condition : Prop} [Decidable condition] {first second : Parse β}
    {other otherSecond : Parse α} (yes : FailAlike first other)
    (no : FailAlike second otherSecond) :
    FailAlike (if condition then first else second)
      (if condition then other else otherSecond) := by
  split
  · exact yes
  · exact no

theorem failAt (fault : GrammarFault) (expected : Expected) :
    FailAlike (failAt fault expected : Parse β) (failAt fault expected : Parse α) :=
  .bind current fun _ => .throw _

theorem follows {failing : Parse β} (fails : FailAlike failing parser) :
    Follows depth stored (liftM failing) parser := by
  intro cursor
  rcases fails cursor with ⟨error, after, failed, otherFailed⟩
  rw [follows_lift, failed, otherFailed]
  rfl

end FailAlike

theorem failAt_follows (fault : GrammarFault) (expected : Expected) :
    Follows depth stored (liftM (failAt fault expected : Parse β)) (failAt fault expected) :=
  (FailAlike.failAt fault expected).follows

theorem unexpected_follows (expected : Expected) :
    Follows depth stored (liftM (unexpected expected : Parse β)) (unexpected expected) :=
  FailAlike.follows (.bind current fun _ => .ite (.failAt _ _) (.failAt _ _))

theorem identifierExpected_follows :
    Follows depth stored (liftM (identifierExpected : Parse β)) identifierExpected :=
  FailAlike.follows (.bind current fun _ => .ite (.failAt _ _) (.failAt _ _))

theorem typeExpected_follows :
    Follows depth stored (liftM (typeExpected : Parse β)) typeExpected :=
  failAt_follows _ _

/-! Repetition and trial. -/

theorem repeated_follows {machineTurn : Machine (Turn β)} {turn : Parse (Turn α)}
    (turns : Follows depth (Turn.map stored) machineTurn turn) :
    Follows depth (List.map stored) (Machine.repeated machineTurn) (Parse.repeated turn) := by
  intro cursor
  induction shorter : cursor.ahead.length using Nat.strongRecOn generalizing cursor with
  | ind length induction =>
      unfold Machine.repeated Parse.repeated
      rw [turns cursor]
      cases turn cursor with
      | error => rfl
      | ok turned after =>
          cases turned with
          | stop => rfl
          | last item => rfl
          | more item =>
              simp only [outcome, Turn.map]
              split
              · next progress =>
                  rw [induction _ (shorter ▸ progress) after rfl]
                  cases Parse.repeated turn after <;> rfl
              · rfl

theorem speculate_follows {attempt : Machine (Option β)} {other : Parse (Option α)}
    (follows : Follows depth (Option.map stored) attempt other) :
    Follows depth (Option.map stored) (Machine.speculate attempt)
      (Parse.speculate SyntaxError.isFinal other) := by
  intro cursor
  unfold Machine.speculate Parse.speculate
  rw [follows cursor]
  cases other cursor with
  | ok found after => cases found <;> rfl
  | error error after =>
      simp only [outcome]
      split <;> rfl

theorem commaTurn_follows (item : α) :
    Follows depth (Turn.map stored) (Machine.commaTurn (stored item)) (Parse.commaTurn item) :=
  .of_lift _ fun _ => .ite (.pure rfl) (.pure rfl)

theorem commaList_follows (closing : Punctuator) (item : Follows depth stored machine parser) :
    Follows depth (List.map stored) (Machine.commaList closing machine)
      (Parse.commaList closing parser) := by
  apply repeated_follows
  refine .of_lift _ fun closes => .ite (.pure rfl) ?_
  exact item.bind commaTurn_follows

theorem afterMark_follows (mark : Punctuator) (item : Follows depth stored machine parser) :
    Follows depth (Option.map stored) (Machine.afterMark mark machine)
      (Parse.afterMark mark parser) :=
  .of_lift _ fun _ => .ite (item.map fun _ => rfl) (.pure rfl)

theorem afterWord_follows (word : String) (item : Follows depth stored machine parser) :
    Follows depth (Option.map stored) (Machine.afterWord word machine)
      (Parse.afterWord word parser) :=
  .of_lift _ fun _ => .ite (item.map fun _ => rfl) (.pure rfl)

/-! Levels. -/

theorem Leads.chained (leads : Leads depth stored machine parser) :
    Follows depth stored (Machine.chained machine) parser := by
  intro cursor
  rcases leads cursor with ⟨last, leads⟩
  unfold Machine.chained
  rw [leads]
  cases parser cursor <;> rfl

structure Calls.Follow (calls : Calls) (depth : Nat) (level : Level) : Prop where
  type : Follows depth TypeExpr.stored calls.type level.type
  arraySuffix : ∀ start element, Leads depth TypeExpr.stored
    (calls.arraySuffix start element.stored) (level.arraySuffix start element)
  assignment : Follows depth Expression.stored calls.assignment level.assignment
  unary : Follows depth Expression.stored calls.unary level.unary
  newExpression : Follows depth Expression.stored calls.newExpression level.newExpression
  operator : ∀ start minimum left mark width precedence, Leads depth Expression.stored
    (calls.operator start minimum left.stored mark width precedence)
    (level.operator start minimum left mark width precedence)
  suffix : ∀ start allowCalls base, Leads depth Expression.stored
    (calls.suffix start allowCalls base.stored) (level.suffix start allowCalls base)
  typedSuffix : ∀ start allowCalls base typeArguments, Leads depth Expression.stored
    (calls.typedSuffix start allowCalls base.stored (typeArguments.map TypeExpr.stored))
    (level.typedSuffix start allowCalls base typeArguments)

/-- As many levels are left in the grammar as may still be taken at this depth. -/
structure Calls.Agree (calls : Calls) (depth : Nat) (nesting : Nesting) : Prop where
  rules : nesting.rules = .ofLimit calls.limit
  full : nesting.inner = none → calls.limit ≤ depth
  deeper : ∀ level, nesting.inner = some level →
    depth < calls.limit ∧ calls.Follow (depth + 1) level

namespace Calls.Agree

variable {calls : Calls} {nesting : Nesting}

theorem deepen (agree : calls.Agree depth nesting) {what : Expected} {parser : Level → Parse α}
    (next : ∀ level, calls.Follow (depth + 1) level →
      Leads (depth + 1) stored machine (parser level)) :
    Leads depth stored (Machine.deepen calls.limit what >>= fun _ => machine)
      (nesting.enter what >>= parser) := by
  intro cursor
  have asked : (Machine.deepen calls.limit what >>= fun _ => machine) ⟨cursor, depth⟩ =
      ((if calls.limit ≤ depth then liftM (failAt (.nestingLimitExceeded calls.limit) what)
        else modify fun state => { state with depth := state.depth + 1 }) >>= fun _ => machine)
        ⟨cursor, depth⟩ := rfl
  rw [asked]
  unfold Nesting.enter
  cases inner : nesting.inner with
  | none =>
      rcases FailAlike.failAt (β := Unit) (α := Level) (.nestingLimitExceeded nesting.rules.limit)
        what cursor with ⟨error, after, failed, otherFailed⟩
      have limit : nesting.rules.limit = calls.limit := congrArg Rules.limit agree.rules
      have lifted : Follows depth id
          (liftM (failAt (.nestingLimitExceeded nesting.rules.limit) what : Parse Unit))
          (failAt (.nestingLimitExceeded nesting.rules.limit) what) := follows_lift _
      replace lifted := lifted cursor
      rw [failed] at lifted
      refine ⟨depth, ?_⟩
      rw [if_pos (agree.full inner), ← limit]
      simp only [Bind.bind, EStateM.bind]
      rw [lifted, otherFailed]
      rfl
  | some level =>
      rcases agree.deeper level inner with ⟨room, follow⟩
      rw [if_neg (Nat.not_le_of_lt room)]
      exact next level follow cursor

theorem nested (agree : calls.Agree depth nesting) {what : Expected} {parser : Level → Parse α}
    (next : ∀ level, calls.Follow (depth + 1) level →
      Follows (depth + 1) stored machine (parser level)) :
    Follows depth stored (Machine.nested calls.limit what machine)
      (nesting.enter what >>= parser) :=
  (agree.deepen fun level follow => (next level follow).leads).chained

theorem type (agree : calls.Agree depth nesting) :
    Follows depth TypeExpr.stored calls.nestedType nesting.type :=
  agree.nested fun _ follow => follow.type

theorem expression (agree : calls.Agree depth nesting) :
    Follows depth Expression.stored calls.nestedExpression nesting.expression :=
  agree.nested fun _ follow => follow.assignment

end Calls.Agree

/-! Nodes. -/

theorem finish_follows (kind : Kind) (start : Nat) :
    Follows depth (NodeData.mk kind) (finish kind start) (spanFrom start) :=
  (follows_lift (spanFrom start)).map fun _ => rfl

theorem literalFromToken?_eq (token : Token) :
    literalFromToken? token = (literalOf? token).map Literal.stored := by
  unfold literalFromToken? literalOf?
  cases token.kind with
  | identifier =>
      dsimp only
      split
      · rfl
      · split
        · rfl
        · split <;> rfl
  | _ => rfl

theorem identifier_follows : Follows depth Identifier.stored identifier Parse.identifier :=
  .of_lift _ fun _ => .ite (.of_lift _ fun _ => .pure rfl) identifierExpected_follows

theorem identifierName_follows :
    Follows depth Identifier.stored identifierName Parse.identifierName :=
  .of_lift _ fun _ => .ite (.of_lift _ fun _ => .pure rfl) identifierExpected_follows

theorem functionBody_follows :
    Follows depth FunctionBody.stored functionBody Parse.functionBody := by
  refine .of_lift _ fun start => .of_lift _ fun _ => .of_get fun cursor => ?_
  dsimp only
  cases bodyLength? 0 cursor.ahead with
  | none => exact .of_lift _ fun _ => unexpected_follows _
  | some count =>
      refine .of_lift _ fun _ => .of_lift _ fun _ => ?_
      exact (finish_follows _ start).bind fun _ => .pure rfl

end Machine

end TypedScript
