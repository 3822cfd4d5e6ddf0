import TypedScript.Proofs.EntryPoints
import TypedScript.Proofs.ErrorPlaces
import TypedScript.Proofs.Rerun.Statements

/-!
Errors in trials. A trial of type arguments or of an arrow function takes back its errors, but for
lexical ones and those of the nesting limit. If it took back these as well then other texts would be
read: not such ones as have a lexical error, since every tree takes the whole text, but such ones as
are refused because only the trial nests too deep.
-/

namespace TypedScript

def Rules.forgiving (limit : Nat) : Rules :=
  ⟨limit, fun _ => false⟩

/-! Reading whole texts by other rules. -/

section Under

variable (rules : Rules) (keywords : KeywordSet) (source : String)

def Parse.runUnder {α : Type} (parser : Nesting → Parse α) : Except SyntaxError α :=
  match parser (Nesting.outermost rules) (Cursor.ofLexed (lex keywords source)) with
  | .ok value _ => .ok value
  | .error error _ => .error error

def parseProgramUnder : Except SyntaxError Program := do
  let statements ← Parse.runUnder rules keywords source Parse.statements
  return ⟨⟨0, source.utf8ByteSize⟩, statements⟩

def parseTypeUnder : Except SyntaxError TypeExpr :=
  Parse.runUnder rules keywords source fun nesting => do
    let type ← nesting.type
    Parse.endOfInput
    return type

def parseExpressionUnder : Except SyntaxError Expression :=
  Parse.runUnder rules keywords source fun nesting => do
    let expression ← nesting.expression
    Parse.endOfInput
    return expression

end Under

theorem parseProgram_eq_under (options : ParseOptions) (source : String) :
    parseProgram options source =
      parseProgramUnder (.ofLimit options.nestingLimit) options.keywords source :=
  rfl

theorem parseType_eq_under (options : ParseOptions) (source : String) :
    parseType options source =
      parseTypeUnder (.ofLimit options.nestingLimit) options.keywords source :=
  rfl

theorem parseExpression_eq_under (options : ParseOptions) (source : String) :
    parseExpression options source =
      parseExpressionUnder (.ofLimit options.nestingLimit) options.keywords source :=
  rfl

/-- Two answers to a text differ only where one is that the text nests too deep. -/
structure SharesTrees {α : Type} (limit : Nat) (answer forgiving : Except SyntaxError α) :
    Prop where
  kept (tree : α) : answer = .ok tree → forgiving = .ok tree
  found (tree : α) : forgiving = .ok tree → answer = .ok tree ∨ Refused limit answer

theorem SharesTrees.map {α β : Type} {limit : Nat} {answer forgiving : Except SyntaxError α}
    (shares : SharesTrees limit answer forgiving) (build : α → β) :
    SharesTrees limit (build <$> answer) (build <$> forgiving) := by
  refine ⟨fun tree read => ?_, fun tree read => ?_⟩
  · cases answer with
    | error error => cases read
    | ok inner =>
        rw [shares.kept inner rfl]
        exact read
  · cases forgiving with
    | error error => cases read
    | ok inner =>
        rcases shares.found inner rfl with same | ⟨expected, found, refused⟩
        · rw [same]
          exact .inl read
        · rw [refused]
          exact .inr ⟨expected, found, rfl⟩

namespace Parse

variable {α : Type} {options : ParseOptions} {source : String} {parser : Nesting → Parse α}

theorem runUnder_eq_ok {rules : Rules} {keywords : KeywordSet} {value : α}
    (read : runUnder rules keywords source parser = .ok value) :
    ∃ after, parser (.outermost rules) (.ofLexed (lex keywords source)) = .ok value after := by
  unfold runUnder at read
  split at read
  · next after parsed =>
      cases read
      exact ⟨after, parsed⟩
  · cases read

theorem run_sharesTrees
    (alike : ∀ (rerun : Rerun) outer otherOuter, rerun.tail = [] →
      rerun.Nestings outer otherOuter → rerun.AlikeAt [] (parser outer) (parser otherOuter))
    (complete : ∀ {rules value after},
      parser (.outermost rules) (.ofLexed (lex options.keywords source)) = .ok value after →
      ∃ token, (lex options.keywords source).ending = .endOfFile token)
    (justified : Justified (lex options.keywords source) source (run options source parser)) :
    SharesTrees options.nestingLimit (run options source parser)
      (runUnder (.forgiving options.nestingLimit) options.keywords source parser) := by
  let rerun : Rerun := ⟨[], options.nestingLimit⟩
  have nestings : rerun.Nestings (.outermost (.forgiving options.nestingLimit))
      (.outermost (.ofLimit options.nestingLimit)) :=
    Rerun.nestings_ofRoom (fun _ (never : false = true) => nomatch never) options.nestingLimit 0
  have outcome := alike rerun _ _ rfl nestings
    (Rerun.Related.of_eq rfl (.ofLexed (lex options.keywords source)))
  refine ⟨fun tree read => ?_, fun tree read => ?_⟩
  · rcases run_eq_ok read with ⟨after, parsed⟩
    rw [parsed] at outcome
    unfold runUnder
    revert outcome
    generalize parser _ (.ofLexed (lex options.keywords source)) = forgiving
    intro outcome
    cases outcome with
    | ok same => rw [same]
  · rcases runUnder_eq_ok read with ⟨after, parsed⟩
    rcases complete parsed with ⟨last, ending⟩
    rw [parsed] at outcome
    unfold run at justified ⊢
    revert outcome justified
    dsimp only
    generalize parser _ (.ofLexed (lex options.keywords source)) = answer
    intro justified outcome
    cases outcome with
    | ok same => exact .inl (congrArg Except.ok same.symm)
    | stopped stops =>
        cases stops with
        | lexical => exact absurd justified (not_justified_lexical ending)
        | refused => exact .inr ⟨_, _, rfl⟩

end Parse

/-- If trials took back all errors then every tree would still be read, and others only from texts
that are refused because they nest too deep. -/
theorem trials_miss_only_refused (options : ParseOptions) (source : String) :
    SharesTrees options.nestingLimit (parseProgram options source)
      (parseProgramUnder (.forgiving options.nestingLimit) options.keywords source) ∧
    SharesTrees options.nestingLimit (parseType options source)
      (parseTypeUnder (.forgiving options.nestingLimit) options.keywords source) ∧
    SharesTrees options.nestingLimit (parseExpression options source)
      (parseExpressionUnder (.forgiving options.nestingLimit) options.keywords source) := by
  refine ⟨?_, ?_, ?_⟩
  · have statements := Parse.run_sharesTrees
      (fun _ _ _ alone nestings => Rerun.statements_alone nestings alone)
      (fun read => (Parse.statements_eq_ok (Nesting.ofRoom_reading _ _) read).1)
      (Parse.statements_justified options source)
    exact statements.map (Program.mk ⟨0, source.utf8ByteSize⟩)
  · exact Parse.run_sharesTrees
      (fun _ _ _ alone nestings => Rerun.whole_alone (nestings.type.alike []) alone)
      (Parse.whole_complete fun reading => reading.type) (parseType_justified options source)
  · exact Parse.run_sharesTrees
      (fun _ _ _ alone nestings => Rerun.whole_alone (nestings.expression.alike []) alone)
      (Parse.whole_complete fun reading => reading.expression.reads)
      (parseExpression_justified options source)

/-- The result type that is tried after `(a)` may hold a type one level deeper than the limit, while
the branch of the conditional that is read there in the end stays within it. -/
theorem trial_refuses_conditional :
    (∃ tree, parseExpressionUnder (.forgiving 3) .full "x ? (a) : [b]" = .ok tree) ∧
      Refused 3 (parseExpression ⟨3, .full⟩ "x ? (a) : [b]") := by
  have accepted : (parseExpressionUnder (.forgiving 3) .full "x ? (a) : [b]").isOk = true := by
    decide +kernel
  have rejected : (match parseExpression ⟨3, .full⟩ "x ? (a) : [b]" with
      | .error (.grammar error) => error.fault == .nestingLimitExceeded 3
      | _ => false) = true := by decide +kernel
  refine ⟨exists_of_isOk accepted, ?_⟩
  split at rejected
  · next error failed =>
      rcases error with ⟨fault, expected, found⟩
      cases beq_iff_eq.mp rejected
      exact ⟨expected, found, failed⟩
  · cases rejected

end TypedScript
