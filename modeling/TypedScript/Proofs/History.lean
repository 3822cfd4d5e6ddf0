import TypedScript.Proofs.Machine.Statements
import TypedScript.Proofs.NestingLimit

/-!
Types and expressions read one after another by one parser. A call, also one that fails, gives back
all levels of nesting and leaves behind no more than how many tokens have been taken: what the next
call answers is what it would have answered had these tokens been taken one by one and nothing else
been done before.
-/

namespace TypedScript

namespace Parse

def takes : Nat → Parse Unit
  | 0 => pure ()
  | count + 1 => do
      let _ ← take
      takes count

theorem takes_eq {cursor : Cursor} {count : Nat} (enough : count ≤ cursor.ahead.length) :
    takes count cursor = .ok () (cursor.skip count) := by
  induction count generalizing cursor with
  | zero => rfl
  | succ count induction =>
      cases ahead : cursor.ahead with
      | nil =>
          rw [ahead] at enough
          cases enough
      | cons token rest =>
          have taken : take cursor = .ok token cursor.next := by
            simp only [take, current, Parse.peek, Cursor.peek, ahead, bind, EStateM.bind,
              List.getElem?_cons_zero]
            rfl
          have stillEnough : count ≤ cursor.next.ahead.length := by
            rw [Cursor.next_ahead, ahead, List.tail_cons]
            rw [ahead, List.length_cons] at enough
            exact Nat.le_of_succ_le_succ enough
          simp only [takes, bind, EStateM.bind, taken]
          exact induction stillEnough

end Parse

theorem Cursor.skip_lastStop (cursor : Cursor) (count : Nat) :
    (cursor.skip count).lastStop =
      ((cursor.ahead.take count).getLast?.map (·.stop)).getD cursor.lastStop := by
  induction count with
  | zero => rfl
  | succ count induction =>
      rw [skip_succ, next_lastStop, skip_ahead, List.head?_drop, induction, List.take_add_one,
        List.getLast?_append]
      cases cursor.ahead[count]? with
      | none => rfl
      | some token => rfl

def Lexed.Holds (lexed : Lexed) (cursor : Cursor) : Prop :=
  ∃ count ≤ lexed.tokens.length, cursor = (Cursor.ofLexed lexed).skip count

def Cursor.Reaches (before after : Cursor) : Prop :=
  ∃ count ≤ before.ahead.length, after = before.skip count

theorem Cursor.Reaches.holds {lexed : Lexed} {before after : Cursor}
    (reaches : before.Reaches after) (holds : lexed.Holds before) : lexed.Holds after := by
  rcases holds with ⟨first, within, rfl⟩
  rcases reaches with ⟨second, inside, rfl⟩
  rw [Cursor.skip_ahead, List.length_drop] at inside
  refine ⟨first + second, ?_, Cursor.skip_skip _ _ _⟩
  change second ≤ lexed.tokens.length - first at inside
  omega

def Parse.place {α : Type} : EStateM.Result SyntaxError Cursor α → Cursor
  | .ok _ after => after
  | .error _ after => after

namespace TwoRuns

def beside (lexed : Lexed) (count limit : Nat) : TwoRuns :=
  { ofLimits lexed limit 0 with
    passed := count
    otherPassed := count
    sinceBeginning := greater_same rfl
    goOn :=
      .ofForall₂ (List.forall₂_same.mpr fun token _ => alike_self token)
        (ending_alike_self lexed.ending)
    touching := fun found foundNext otherFound otherFoundNext _ _ =>
      touching_self found foundNext otherFound otherFoundNext
    lookahead := False.elim }

theorem reaches_of_alike {lexed : Lexed} {count limit : Nat} {α : Type} {values : α → α → Prop}
    {parser : Parse α} (alike : (beside lexed count limit).Alike values parser parser) :
    ((Cursor.ofLexed lexed).skip count).Reaches
      (Parse.place (parser ((Cursor.ofLexed lexed).skip count))) := by
  have outcome := alike (beside lexed count limit).related_beginning
  change (beside lexed count limit).Outcome _ values (parser ((Cursor.ofLexed lexed).skip count))
    (parser ((Cursor.ofLexed lexed).skip count)) at outcome
  revert outcome
  generalize parser ((Cursor.ofLexed lexed).skip count) = result
  intro outcome
  cases outcome with
  | ok _ related =>
      rcases related with ⟨index, inside, arrived, _⟩
      exact ⟨index, inside, arrived⟩
  | error _ related =>
      rcases related with ⟨index, inside, arrived, _⟩
      exact ⟨index, inside, arrived⟩
  | early stops =>
      -- With one limit and one text neither run can stop before the other.
      cases stops with
      | refused wider => exact absurd wider (Nat.lt_irrefl 0)
      | brokenOff cut => exact cut.elim

end TwoRuns

namespace Fragment

def reach (nesting : Nesting) (cursor : Cursor) : List Kind → Cursor
  | [] => cursor
  | kind :: rest =>
      match parser nesting kind cursor with
      | .ok _ after => reach nesting after rest
      | .error _ after => reach nesting after rest

theorem parser_alike {runs : TwoRuns} {outer otherOuter : Nesting}
    (nestings : runs.Nestings outer otherOuter) (kind : Kind) :
    runs.Alike (fun _ _ => True) (parser outer kind) (parser otherOuter kind) := by
  cases kind with
  | type => exact nestings.type.map fun _ _ _ => trivial
  | expression => exact nestings.expression.map fun _ _ _ => trivial

/-- A call that begins among the tokens of a text ends among them, whether it fails or not. -/
theorem parser_holds {lexed : Lexed} {cursor : Cursor} (limit : Nat) (kind : Kind)
    (holds : lexed.Holds cursor) :
    lexed.Holds (Parse.place (parser (.outermost (.ofLimit limit)) kind cursor)) := by
  rcases holds with ⟨count, within, rfl⟩
  have nestings : (TwoRuns.beside lexed count limit).Nestings (.outermost (.ofLimit limit))
      (.outermost (.ofLimit limit)) := TwoRuns.nestings_outermost
  have reached := TwoRuns.reaches_of_alike (parser_alike nestings kind)
  exact reached.holds ⟨count, within, rfl⟩

theorem reach_holds {lexed : Lexed} {cursor : Cursor} (limit : Nat) (history : List Kind)
    (holds : lexed.Holds cursor) :
    lexed.Holds (reach (.outermost (.ofLimit limit)) cursor history) := by
  induction history generalizing cursor with
  | nil => exact holds
  | cons kind rest induction =>
      have after := parser_holds limit kind holds
      rw [reach]
      revert after
      cases parser (.outermost (.ofLimit limit)) kind cursor with
      | ok => exact induction
      | error => exact induction

end Fragment

namespace Machine

theorem after_eq (options : ParseOptions) (cursor : Cursor) (history : List Fragment.Kind) :
    after options ⟨cursor, 0⟩ history =
      ⟨Fragment.reach (.outermost (.ofLimit options.nestingLimit)) cursor history, 0⟩ := by
  induction history generalizing cursor with
  | nil => rfl
  | cons kind rest induction =>
      change after options (answer options ⟨cursor, 0⟩ kind).2 rest = _
      rw [answer_eq, Fragment.reach]
      cases Fragment.parser _ kind cursor with
      | ok fragment later => exact induction later
      | error error later => exact induction later

theorem after_history (options : ParseOptions) (source : String) (history : List Fragment.Kind) :
    let lexed := lexRecorded options.keywords source
    ∃ count ≤ lexed.tokens.length,
      after options (start options.keywords source) history =
        ⟨(Cursor.ofLexed lexed).skip count, 0⟩ := by
  intro lexed
  have atBeginning : lexed.Holds (.ofLexed lexed) := ⟨0, Nat.zero_le _, rfl⟩
  rcases Fragment.reach_holds options.nestingLimit history atBeginning with
    ⟨count, enough, arrived⟩
  refine ⟨count, enough, ?_⟩
  rw [← arrived]
  exact after_eq options (.ofLexed lexed) history

/-- However many calls there have been and however they have ended, no level is left taken, the end
of the last token taken is known, and the parser answers every call as a new one does that has
merely taken as many tokens. -/
theorem answer_after_history (options : ParseOptions) (source : String)
    (history : List Fragment.Kind) :
    let tokens := (lexRecorded options.keywords source).tokens
    let beginning := start options.keywords source
    let state := after options beginning history
    state.depth = 0 ∧
      ∃ count ≤ tokens.length,
        state.cursor.ahead = tokens.drop count ∧
        state.cursor.lastStop = ((tokens.take count).getLast?.map (·.stop)).getD 0 ∧
        ∃ fresh, ofParse (Parse.takes count) beginning = .ok () fresh ∧
          ∀ kind, (answer options state kind).1 = (answer options fresh kind).1 := by
  intro tokens beginning state
  let lexed := lexRecorded options.keywords source
  rcases after_history options source history with ⟨count, enough, arrived⟩
  have taken : ofParse (Parse.takes count) beginning =
      .ok () ⟨(Cursor.ofLexed lexed).skip count, 0⟩ := by
    change ofParse _ ⟨.ofLexed lexed, 0⟩ = _
    unfold ofParse
    rw [Parse.takes_eq enough]
  rw [show state = _ from arrived]
  refine ⟨rfl, count, enough, ?_, ?_, _, taken, fun kind => rfl⟩
  · exact Cursor.skip_ahead _ count
  · exact Cursor.skip_lastStop _ count

end Machine

end TypedScript
