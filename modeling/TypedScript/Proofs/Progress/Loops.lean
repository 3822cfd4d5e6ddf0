import TypedScript.Parser.Statements
import TypedScript.Proofs.Reading.Statements

/-!
Loops that come to an end because every turn that is followed by another one takes a token. A loop
is told by what one turn of it does to its state; nothing makes it stop but its own turns.
-/

namespace TypedScript

namespace Parse

variable {State α : Type}

/-- A loop that takes `count` turns: each turn fails, or ends the loop with a value, or leads to
the state of the next turn and has then taken at least one token. -/
inductive LoopRuns (turn : State → Parse (State ⊕ α)) :
    (count : Nat) → State → Cursor → EStateM.Result SyntaxError Cursor α → Prop
  | failed {state before error after} :
      turn state before = .error error after → LoopRuns turn 1 state before (.error error after)
  | ended {state before value after} :
      turn state before = .ok (.inr value) after → LoopRuns turn 1 state before (.ok value after)
  | again {count state next before between result} :
      turn state before = .ok (.inl next) between →
      between.ahead.length < before.ahead.length →
      LoopRuns turn count next between result → LoopRuns turn (count + 1) state before result

structure IsLoop (turn : State → Parse (State ⊕ α)) (whole : State → Parse α) : Prop where
  unfolds (state : State) : whole state = turn state >>= Sum.elim whole pure
  takes {state next : State} {before after : Cursor} :
    turn state before = .ok (.inl next) after → after.ahead.length < before.ahead.length

theorem IsLoop.runs {turn : State → Parse (State ⊕ α)} {whole : State → Parse α}
    (loop : IsLoop turn whole) (state : State) (before : Cursor) :
    ∃ count ≤ before.ahead.length + 1, LoopRuns turn count state before (whole state before) := by
  induction size : before.ahead.length using Nat.strongRecOn generalizing state before with
  | ind length induction =>
      have unfolded := congrFun (loop.unfolds state) before
      simp only [Bind.bind, EStateM.bind] at unfolded
      rw [unfolded]
      cases turned : turn state before with
      | error error after => exact ⟨1, Nat.le_add_left 1 length, .failed turned⟩
      | ok outcome after =>
          cases outcome with
          | inr value => exact ⟨1, Nat.le_add_left 1 length, .ended turned⟩
          | inl next =>
              have shorter := loop.takes turned
              rcases induction _ (size ▸ shorter) next after rfl with ⟨count, few, rest⟩
              exact ⟨count + 1, by omega, .again turned shorter rest⟩

theorem failAt_bind {α β : Type} (fault : GrammarFault) (expected : Expected)
    (next : α → Parse β) : failAt fault expected >>= next = failAt fault expected := by
  simp only [failAt, bind_assoc]
  rfl

theorem unexpected_bind {α β : Type} (expected : Expected) (next : α → Parse β) :
    unexpected expected >>= next = unexpected expected := by
  simp only [unexpected, bind_assoc]
  congr 1
  funext token
  split
  · exact failAt_bind _ _ _
  · exact failAt_bind _ _ _

/-! Lists. The state of a loop that reads a list is what it has read so far. -/

def gather (turn : Parse (Turn α)) (items : List α) : Parse (List α ⊕ List α) := do
  match ← turn with
  | .stop => return .inr items
  | .last item => return .inr (items ++ [item])
  | .more item => return .inl (items ++ [item])

def TakesToGoOn (turn : Parse (Turn α)) : Prop :=
  ∀ ⦃before item after⦄, turn before = .ok (.more item) after →
    after.ahead.length < before.ahead.length

/-- Repetition is the plain loop: none of its turns ends it for having taken no token. -/
theorem TakesToGoOn.isLoop {turn : Parse (Turn α)} (takes : TakesToGoOn turn) :
    IsLoop (gather turn) fun items => (items ++ ·) <$> repeated turn where
  unfolds items := by
    funext before
    simp only [gather, map_eq_pure_bind, bind_assoc]
    simp only [Bind.bind, EStateM.bind]
    rw [repeated]
    cases turned : turn before with
    | error error after => rfl
    | ok outcome after =>
        cases outcome with
        | stop => simp [pure, EStateM.pure]
        | last item => rfl
        | more item =>
            dsimp only
            rw [if_pos (takes turned)]
            cases rest : repeated turn after with
            | error error later => simp [pure, EStateM.pure, EStateM.bind, rest]
            | ok others later => simp [pure, EStateM.pure, EStateM.bind, rest]
  takes := by
    intro items next before after turned
    simp only [gather, bind_eq_ok] at turned
    rcases turned with ⟨outcome, _, read, turned⟩
    cases outcome with
    | stop => cases turned
    | last item => cases turned
    | more item =>
        cases turned
        exact takes read

inductive ListTurn (nesting : Nesting) : {α : Type} → Parse (Turn α) → Prop
  | nameParts : ListTurn nesting namePart
  | typeArguments : ListTurn nesting (requiredType nesting >>= commaTurn)
  | tupleElements : ListTurn nesting (listTurn .closeBracket (requiredType nesting))
  | intersection : ListTurn nesting (markTurn .ampersand (postfixType nesting))
  | union : ListTurn nesting (markTurn .bar (intersectionType nesting))
  | members : ListTurn nesting (memberTurn nesting)
  | typeParameters : ListTurn nesting (typeParameterTurn nesting)
  | parameters (allowInitializers : Bool) :
      ListTurn nesting (listTurn .closeParen (parameter nesting allowInitializers))
  | arguments : ListTurn nesting (listTurn .closeParen nesting.expression)
  | arrayElements : ListTurn nesting (listTurn .closeBracket nesting.expression)
  | properties : ListTurn nesting (listTurn .closeBrace (objectProperty nesting))
  | specifiers : ListTurn nesting (listTurn .closeBrace specifier)
  | extendedTypes : ListTurn nesting (typeReference nesting >>= commaTurn)
  | statements : ListTurn nesting (statementTurn nesting)

section Commas

variable {item : Parse α} {spelled : α → List Lexeme → Prop} {node : α → Node}

theorem commaTurn_takes (reads : Reads item spelled fun value => [node value]) :
    TakesToGoOn (item >>= commaTurn) := by
  intro before value after turned
  rcases bind_eq_ok.mp turned with ⟨first, between, itemParsed, turned⟩
  rcases reads itemParsed with ⟨_, spelling, piece⟩
  exact (commaTurn_leads spelling piece turned).1

theorem listTurn_takes (closing : Punctuator)
    (reads : Reads item spelled fun value => [node value]) :
    TakesToGoOn (listTurn closing item) := by
  intro before value after turned
  simp only [listTurn, bind_eq_ok, atMark_eq_ok] at turned
  rcases turned with ⟨_, _, ⟨_, rfl⟩, turned⟩
  split at turned
  · cases turned
  · exact commaTurn_takes reads turned

end Commas

theorem ListTurn.takes {nesting : Nesting} {turn : Parse (Turn α)} (isTurn : ListTurn nesting turn)
    (reading : nesting.Reading) : TakesToGoOn turn := by
  intro before item after turned
  cases isTurn with
  | nameParts => exact (namePart_leads turned).1
  | typeArguments => exact commaTurn_takes (requiredType_reads reading) turned
  | tupleElements => exact listTurn_takes _ (requiredType_reads reading) turned
  | intersection => exact (markTurn_leads (postfixType_forms reading).reads turned).1
  | union => exact (markTurn_leads (intersectionType_reads reading) turned).1
  | members => exact (memberTurn_leads reading turned).1
  | typeParameters => exact (typeParameterTurn_leads reading turned).1
  | parameters allowInitializers =>
      exact listTurn_takes _ (parameter_forms reading allowInitializers).reads turned
  | arguments => exact listTurn_takes _ reading.expression.reads turned
  | arrayElements => exact listTurn_takes _ reading.expression.reads turned
  | properties => exact listTurn_takes _ (objectProperty_forms reading).reads turned
  | specifiers => exact listTurn_takes _ importSpecifier_forms.reads turned
  | extendedTypes => exact commaTurn_takes (typeReference_forms reading).reads turned
  | statements => exact (statementTurn_leads reading turned).1

end Parse

end TypedScript
