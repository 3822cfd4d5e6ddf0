import TypedScript.Parser.Entry
import TypedScript.Proofs.Progress.Bodies
import TypedScript.Proofs.Progress.Calls
import TypedScript.Proofs.Progress.Chains
import TypedScript.Proofs.Progress.Productions

/-!
Reading a text comes to an end: nothing goes back, loops take tokens, and calls that lie in each
other go deeper until the limit refuses them.
-/

namespace TypedScript

open Parse

inductive GrammarLoop (rules : Rules) :
    {State α : Type} → (State → Parse (State ⊕ α)) → (State → Parse α) → Prop
  | list {room α} {turn : Parse (Turn α)} :
      ListTurn (.ofRoom rules room) turn →
      GrammarLoop rules (gather turn) fun items => (items ++ ·) <$> repeated turn
  | arrays (start : Nat) :
      GrammarLoop rules (arrayTurn rules start)
        fun state => arraySuffixes (.ofRoom rules state.1) start state.2
  | suffixes (start : Nat) (allowCalls : Bool) :
      GrammarLoop rules (suffixTurn rules start allowCalls)
        fun state => suffixes (.ofRoom rules state.1) start allowCalls state.2
  | operators (start minimum : Nat) :
      GrammarLoop rules (operatorTurn rules start minimum)
        fun state => operators (.ofRoom rules state.1) start minimum state.2
  | body : GrammarLoop rules bodyTurn bodyRest

theorem GrammarLoop.isLoop {rules : Rules} {State α : Type} {turn : State → Parse (State ⊕ α)}
    {whole : State → Parse α} (loop : GrammarLoop rules turn whole) : IsLoop turn whole := by
  cases loop with
  | list isTurn => exact (isTurn.takes (Nesting.ofRoom_reading rules _)).isLoop
  | arrays start => exact arraySuffixes_isLoop rules start
  | suffixes start allowCalls => exact suffixes_isLoop rules start allowCalls
  | operators start minimum => exact operators_isLoop rules start minimum
  | body => exact bodyRest_isLoop

structure MakesProgress (options : ParseOptions) (source : String) : Prop where
  /-- A statement, a type, an expression, a member or a parameter that has been read has taken a
  token. -/
  advances {room : Nat} {α : Type} {parser : Parse α} {before after : Cursor} {value : α} :
    Solid (.ofRoom (.ofLimit options.nestingLimit) room) parser →
    parser before = .ok value after → after.ahead.length < before.ahead.length
  /-- No call stops before the place where it began, whether it fails or not. -/
  neverGoesBack {room : Nat} {α : Type} {parser : Parse α} {cursor : Cursor} :
    Production (.ofRoom (.ofLimit options.nestingLimit) room) parser →
    (lex options.keywords source).Holds cursor → cursor.Reaches (place (parser cursor))
  /-- Every turn of a loop that is followed by another one takes a token, and so there are at most
  as many of them as there are tokens ahead. -/
  loopsEnd {State α : Type} {turn : State → Parse (State ⊕ α)} {whole : State → Parse α} :
    GrammarLoop (.ofLimit options.nestingLimit) turn whole → ∀ state before,
      ∃ count ≤ before.ahead.length + 1, LoopRuns turn count state before (whole state before)
  bodiesLoop :
    functionBody = do
      let start ← currentStart
      let _ ← expect .openBrace
      let count ← bodyRest (0, 0)
      let _ ← expect .closeBrace
      return ⟨← spanFrom start, count⟩
  /-- A call of a rule within a call of the same rule is made at a greater depth, and no call at a
  depth beyond the limit: who watches for that sees no alarm. -/
  goesDeeper (alarm : SyntaxError) :
    (Watch.mk options.nestingLimit alarm).nesting (.ofLimit options.nestingLimit)
      options.nestingLimit 0 [] = .outermost (.ofLimit options.nestingLimit)
  /-- A program is the plain loop over its statements, and it ends with a tree or an error. -/
  ends : ∃ count ≤ (lex options.keywords source).tokens.length + 1, ∃ outcome,
    LoopRuns (gather (statementTurn (.outermost (.ofLimit options.nestingLimit)))) count []
      (Cursor.ofLexed (lex options.keywords source)) outcome ∧
    parseProgram options source =
      match outcome with
      | .ok statements _ => .ok ⟨⟨0, source.utf8ByteSize⟩, statements⟩
      | .error error _ => .error error

theorem parser_makesProgress (options : ParseOptions) (source : String) :
    MakesProgress options source where
  advances solid parsed := solid.takes (Nesting.ofRoom_reading _ _) parsed
  neverGoesBack production holds := production.reaches holds
  loopsEnd loop := loop.isLoop.runs
  bodiesLoop := functionBody_eq
  goesDeeper alarm := Watch.nesting_eq _ _ .nil (Nat.zero_add _)
  ends := by
    have turns : TakesToGoOn (statementTurn (.outermost (.ofLimit options.nestingLimit))) :=
      ListTurn.statements.takes (Nesting.ofRoom_reading _ _)
    rcases turns.isLoop.runs [] (Cursor.ofLexed (lex options.keywords source)) with
      ⟨count, few, runs⟩
    simp only [List.nil_append, id_map'] at runs
    refine ⟨count, few, _, runs, ?_⟩
    simp only [parseProgram, Parse.run, statements]
    cases repeated (statementTurn (.outermost (.ofLimit options.nestingLimit)))
        (Cursor.ofLexed (lex options.keywords source)) with
    | ok statements after => rfl
    | error error after => rfl

end TypedScript
