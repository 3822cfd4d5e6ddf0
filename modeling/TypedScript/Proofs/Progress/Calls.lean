import TypedScript.Parser.Expressions

/-!
How deep calls of grammar rules lie in each other. Five rules may come to call themselves again:
types, expressions with their operands, and what begins with `new`. The grammar is written down once
more here, with a watcher who knows which calls of these rules are open and how many levels were
taken where each was made. The watcher raises an alarm at a call that is not made at a greater depth
than all open calls of its rule, or at a depth beyond the limit. The watched grammar is the grammar
itself, whatever the alarm: it is never raised.
-/

namespace TypedScript

structure Watch where
  limit : Nat
  /-- The error that a call fails with if it is not deep enough or too deep. -/
  alarm : SyntaxError

namespace Watch

open Parse

inductive Rule where
  | type
  | assignment
  | unary
  | newExpression
  | binary
deriving DecidableEq, Repr

/-- A call of a rule, and how many levels are taken where it is made. -/
structure Call where
  rule : Rule
  depth : Nat
deriving DecidableEq, Repr

/-- A call lies deeper than every call of the same rule around it, and not too deep. -/
def Call.Allowed (limit : Nat) (around : List Call) (call : Call) : Prop :=
  call.depth ≤ limit ∧ ∀ other ∈ around, other.rule = call.rule → other.depth < call.depth

instance (limit : Nat) (around : List Call) (call : Call) :
    Decidable (call.Allowed limit around) :=
  inferInstanceAs (Decidable (_ ∧ _))

section Grammar

variable (watch : Watch) {α : Type}

def call (around : List Call) (rule : Rule) (depth : Nat) (body : List Call → Parse α) : Parse α :=
  if Call.Allowed watch.limit around ⟨rule, depth⟩ then body (⟨rule, depth⟩ :: around)
  else throw watch.alarm

/-! The rules that call one of the five at their own depth. The nesting depends on the calls that
are open where it is used. -/

variable (depth : Nat) (nesting : List Call → Nesting) (around : List Call)

def leftHandBase : Parse Expression := do
  if (← current).kind = .keyword .newWord then
    watch.call around .newExpression depth fun around => newExpression (nesting around)
  else
    primaryExpression (nesting around)

def leftHandSide : Parse Expression := do
  let start ← currentStart
  let base ← watch.leftHandBase depth nesting around
  suffixes (nesting around) start true base

def unary : Parse Expression := do
  let token ← current
  match token.kind with
  | .punctuator mark =>
      if mark.isUnary then
        let _ ← take
        let operand ← (← (nesting around).enter .expression).unary
        return .unary (← spanFrom token.start) mark operand
      else
        watch.leftHandSide depth nesting around
  | _ => watch.leftHandSide depth nesting around

def binary (minimum : Nat) : Parse Expression := do
  let start ← currentStart
  let left ← watch.call around .unary depth (watch.unary depth nesting)
  operators (nesting around) start minimum left

def operator (start minimum : Nat) (left : Expression) (mark : Punctuator)
    (width precedence : Nat) : Parse Expression := do
  modify (·.skip width)
  let right ← watch.call around .binary depth fun around =>
    watch.binary depth nesting around precedence
  operators (nesting around) start minimum (.binary (← spanFrom start) left mark right)

def conditional : Parse Expression := do
  let start ← currentStart
  let condition ← watch.call around .binary depth fun around =>
    watch.binary depth nesting around 0
  if ← accept .question then
    let whenTrue ← (nesting around).expression
    let _ ← expect .colon
    let whenFalse ← (nesting around).expression
    return .conditional (← spanFrom start) condition whenTrue whenFalse
  else
    return condition

def assignment : Parse Expression := do
  match ← arrow? (nesting around) with
  | some arrow => return arrow
  | none =>
      let start ← currentStart
      let left ← watch.conditional depth nesting around
      match (← current).kind with
      | .punctuator mark =>
          if mark.isAssignment then
            let _ ← take
            let right ← (nesting around).expression
            return .binary (← spanFrom start) left mark right
          else
            return left
      | _ => return left

/-- The rules one level below `depth`. Types and expressions are called where they are entered, the
others after the level is taken. -/
def level : Level where
  type := watch.call around .type depth fun around => unionType (nesting around)
  arraySuffix := arraySuffix (nesting around)
  assignment := watch.call around .assignment depth (watch.assignment (depth + 1) nesting)
  unary := watch.call around .unary (depth + 1) (watch.unary (depth + 1) nesting)
  newExpression := watch.call around .newExpression (depth + 1) fun around =>
    newExpression (nesting around)
  operator := watch.operator (depth + 1) nesting around
  suffix := suffix (nesting around)
  typedSuffix := typedSuffix (nesting around)

def alarmed : Level where
  type := throw watch.alarm
  arraySuffix _ _ := throw watch.alarm
  assignment := throw watch.alarm
  unary := throw watch.alarm
  newExpression := throw watch.alarm
  operator _ _ _ _ _ _ := throw watch.alarm
  suffix _ _ _ := throw watch.alarm
  typedSuffix _ _ _ _ := throw watch.alarm

end Grammar

/-- The depth below which `room` more levels lie. Where there are none the limit refuses the calls
of types and expressions, but they are watched as well. -/
def nesting (watch : Watch) (rules : Rules) : (room depth : Nat) → (around : List Call) → Nesting
  | 0, depth, around =>
      if Call.Allowed watch.limit around ⟨.type, depth⟩ ∧
          Call.Allowed watch.limit around ⟨.assignment, depth⟩ then
        ⟨rules, none⟩
      else
        ⟨rules, some watch.alarmed⟩
  | room + 1, depth, around =>
      ⟨rules, some (watch.level depth (watch.nesting rules room (depth + 1)) around)⟩

/-! Which calls are open. -/

/-- All calls were made at smaller depths than this one, or at this one and by some of these
rules. -/
def Open (depth : Nat) (rules : List Rule) (calls : List Call) : Prop :=
  ∀ call ∈ calls, call.depth < depth ∨ call.depth = depth ∧ call.rule ∈ rules

/-- The rules that are called without a level being taken: operators call operands, and operands
call what begins with `new`. -/
def levelRules : List Rule :=
  [.newExpression, .unary, .binary]

namespace Open

variable {depth limit : Nat} {rules : List Rule} {around : List Call} {rule : Rule}

theorem nil : Open depth rules [] := by
  intro call member
  cases member

theorem mono (isOpen : Open depth rules around) {more : List Rule} (subset : rules ⊆ more) :
    Open depth more around := by
  intro call member
  exact (isOpen call member).imp_right fun same => ⟨same.1, subset same.2⟩

theorem cons (isOpen : Open depth rules around) :
    Open depth (rule :: rules) (⟨rule, depth⟩ :: around) := by
  intro call member
  rcases List.mem_cons.mp member with rfl | member
  · exact .inr ⟨rfl, List.mem_cons_self⟩
  · exact isOpen.mono (List.subset_cons_self rule rules) call member

theorem deeper (isOpen : Open depth rules around) : Open (depth + 1) [] around := by
  intro call member
  rcases isOpen call member with less | same
  · exact .inl (Nat.lt_succ_of_lt less)
  · exact .inl (Nat.lt_succ_of_le (Nat.le_of_eq same.1))

theorem allowed (isOpen : Open depth rules around) (fresh : rule ∉ rules) (within : depth ≤ limit) :
    Call.Allowed limit around ⟨rule, depth⟩ := by
  refine ⟨within, fun other member same => ?_⟩
  rcases isOpen other member with less | ⟨_, used⟩
  · exact less
  · rw [same] at used
    exact absurd used fresh

end Open

/-! The watched rules are the rules. -/

section Faithful

variable {watch : Watch} {α : Type} {depth : Nat} {around : List Call}

theorem call_eq {rules : List Rule} {rule : Rule} {body : List Call → Parse α}
    (isOpen : Open depth rules around) (fresh : rule ∉ rules) (within : depth ≤ watch.limit) :
    watch.call around rule depth body = body (⟨rule, depth⟩ :: around) :=
  if_pos (isOpen.allowed fresh within)

/-- A watched depth is the same as a depth of the grammar, whatever calls are open there. -/
structure Agrees (watch : Watch) (depth : Nat) (watched : List Call → Nesting)
    (nesting : Nesting) : Prop where
  within : depth ≤ watch.limit
  eq {around : List Call} : Open depth levelRules around → watched around = nesting

variable {watched : List Call → Nesting} {nesting : Nesting}

theorem leftHandBase_eq (agrees : Agrees watch depth watched nesting)
    (isOpen : Open depth [.unary, .binary] around) :
    watch.leftHandBase depth watched around = Parse.leftHandBase nesting := by
  rw [leftHandBase, call_eq isOpen (by decide) agrees.within, agrees.eq isOpen.cons,
    agrees.eq (isOpen.mono (by simp [levelRules]))]
  rfl

theorem leftHandSide_eq (agrees : Agrees watch depth watched nesting)
    (isOpen : Open depth [.unary, .binary] around) :
    watch.leftHandSide depth watched around = Parse.leftHandSide nesting := by
  rw [leftHandSide, leftHandBase_eq agrees isOpen, agrees.eq (isOpen.mono (by simp [levelRules]))]
  rfl

theorem unary_eq (agrees : Agrees watch depth watched nesting)
    (isOpen : Open depth [.unary, .binary] around) :
    watch.unary depth watched around = Parse.unary nesting := by
  rw [unary, leftHandSide_eq agrees isOpen, agrees.eq (isOpen.mono (by simp [levelRules]))]
  rfl

theorem binary_eq (agrees : Agrees watch depth watched nesting)
    (isOpen : Open depth [.binary] around) (minimum : Nat) :
    watch.binary depth watched around minimum = Parse.binary nesting minimum := by
  rw [binary, call_eq isOpen (by decide) agrees.within, unary_eq agrees isOpen.cons,
    agrees.eq (isOpen.mono (by simp [levelRules]))]
  rfl

theorem call_binary_eq (agrees : Agrees watch depth watched nesting) (isOpen : Open depth [] around)
    (minimum : Nat) :
    (watch.call around .binary depth fun around => watch.binary depth watched around minimum) =
      Parse.binary nesting minimum := by
  rw [call_eq isOpen (by decide) agrees.within, binary_eq agrees isOpen.cons]

theorem operator_eq (agrees : Agrees watch depth watched nesting) (isOpen : Open depth [] around) :
    watch.operator depth watched around = Parse.operator nesting := by
  funext start minimum left mark width precedence
  rw [operator, call_binary_eq agrees isOpen, agrees.eq (isOpen.mono (List.nil_subset _))]
  rfl

theorem conditional_eq (agrees : Agrees watch depth watched nesting)
    (isOpen : Open depth [] around) :
    watch.conditional depth watched around = Parse.conditional nesting := by
  rw [conditional, call_binary_eq agrees isOpen, agrees.eq (isOpen.mono (List.nil_subset _))]
  rfl

theorem assignment_eq (agrees : Agrees watch depth watched nesting)
    (isOpen : Open depth [] around) :
    watch.assignment depth watched around = Parse.assignment nesting := by
  rw [assignment, conditional_eq agrees isOpen, agrees.eq (isOpen.mono (List.nil_subset _))]
  rfl

theorem level_eq (agrees : Agrees watch (depth + 1) watched nesting)
    (isOpen : Open depth levelRules around) :
    watch.level depth watched around = Level.ofNesting nesting := by
  have within := agrees.within
  have above := Nat.le_of_succ_le within
  have same : watched around = nesting := agrees.eq (isOpen.deeper.mono (List.nil_subset _))
  rw [level, call_eq isOpen (by decide) above, call_eq isOpen (by decide) above,
    call_eq isOpen.deeper List.not_mem_nil within, call_eq isOpen.deeper List.not_mem_nil within,
    agrees.eq (isOpen.cons.deeper.mono (List.nil_subset _)),
    assignment_eq agrees isOpen.cons.deeper,
    unary_eq agrees (isOpen.deeper.cons.mono (by simp)),
    agrees.eq (isOpen.deeper.cons.mono (by simp [levelRules])),
    operator_eq agrees isOpen.deeper, same]
  rfl

end Faithful

theorem nesting_eq (watch : Watch) (rules : Rules) {room depth : Nat} {around : List Call}
    (isOpen : Open depth levelRules around) (levels : depth + room = watch.limit) :
    watch.nesting rules room depth around = .ofRoom rules room := by
  induction room generalizing depth around with
  | zero =>
      have within : depth ≤ watch.limit := Nat.le_of_eq levels
      rw [nesting, if_pos ⟨isOpen.allowed (by decide) within, isOpen.allowed (by decide) within⟩]
      rfl
  | succ room induction =>
      have agrees : Agrees watch (depth + 1) (watch.nesting rules room (depth + 1))
          (.ofRoom rules room) := by
        refine ⟨by omega, fun isOpen => induction isOpen ?_⟩
        rw [← levels, Nat.succ_add, Nat.add_succ]
      rw [nesting, level_eq agrees isOpen]
      rfl

end Watch

end TypedScript
