import TypedScript.Proofs.TwoRuns.Statements

/-!
A larger nesting limit changes no answer. Under a limit a text is refused because it nests too deep,
or it is read as under any larger limit, and if it is wrong then the error is the same one.
-/

namespace TypedScript

def Refused {α : Type} (limit : Nat) (result : Except SyntaxError α) : Prop :=
  ∃ expected found, result = .error (.grammar ⟨.nestingLimitExceeded limit, expected, found⟩)

namespace TwoRuns

/-! One text read with two limits. No offset is forgotten. -/

theorem alike_self (token : Token) : token.Alike Eq token :=
  ⟨rfl, rfl, rfl, rfl, rfl, rfl⟩

theorem ending_alike_self (ending : Ending) : ending.Alike Eq ending := by
  cases ending with
  | endOfFile token => exact .endOfFile (alike_self token)
  | failure error => exact .failure rfl

theorem touching_self {tokens : List Token} {index next : Nat}
    {first second otherFirst otherSecond : Token} (found : tokens[index]? = some first)
    (foundNext : tokens[next]? = some second) (otherFound : tokens[index]? = some otherFirst)
    (otherFoundNext : tokens[next]? = some otherSecond) :
    second.start = first.stop ↔ otherSecond.start = otherFirst.stop := by
  rw [found] at otherFound
  rw [foundNext] at otherFoundNext
  rw [Option.some.inj otherFound, Option.some.inj otherFoundNext]

def ofLimits (lexed : Lexed) (limit extra : Nat) : TwoRuns where
  left := lexed
  right := lexed
  passed := 0
  otherPassed := 0
  Offsets := Eq
  move := id
  otherMove := id
  limit := limit
  extra := extra
  cut := False
  moves := moves_same
  greater := greater_same
  sinceBeginning := greater_same rfl
  goOn :=
    .ofForall₂ (List.forall₂_same.mpr fun token _ => alike_self token)
      (ending_alike_self lexed.ending)
  touching found foundNext otherFound otherFoundNext _ _ :=
    touching_self found foundNext otherFound otherFoundNext
  lookahead := False.elim

theorem Errors.eq {lexed : Lexed} {limit extra : Nat} {error other : SyntaxError}
    (errors : (ofLimits lexed limit extra).Errors error other) : error = other := by
  cases errors with
  | lexical failed otherFailed =>
      rcases failed.symm.trans otherFailed with ⟨⟩
      rfl
  | grammar index found otherFound =>
      rcases found.symm.trans otherFound with ⟨⟩
      rfl

theorem run_limits {α : Type} {view : (Nat → Nat) → α → α} (still : ∀ value, view id value = value)
    {parser : Nesting → Parse α}
    (alike : ∀ (runs : TwoRuns) outer otherOuter, runs.Nestings outer otherOuter →
      runs.Alike (runs.Same view) (parser outer) (parser otherOuter))
    (keywords : KeywordSet) (source : String) {limit larger : Nat} (le : limit ≤ larger) :
    Refused limit (Parse.run ⟨limit, keywords⟩ source parser) ∨
      Parse.run ⟨limit, keywords⟩ source parser = Parse.run ⟨larger, keywords⟩ source parser := by
  let runs := ofLimits (lex keywords source) limit (larger - limit)
  have sum : runs.limit + runs.extra = larger := Nat.add_sub_cancel' le
  rcases run_cases (alike runs) ⟨limit, keywords⟩ ⟨larger, keywords⟩ source source rfl rfl rfl sum
    with ⟨value, other, read, otherRead, same⟩ | ⟨error, other, failed, otherFailed, errors⟩ |
      ⟨_, refused⟩
  · right
    have equal : value = other := (still value).symm.trans (same.trans (still other))
    rw [read, otherRead, equal]
  · right
    rw [failed, otherFailed, errors.eq]
  · exact .inl refused

end TwoRuns

/-- A text that is not refused under a limit is read alike under every larger one. -/
theorem answers_of_larger_limit (keywords : KeywordSet) (source : String) {limit larger : Nat}
    (le : limit ≤ larger) :
    (Refused limit (parseProgram ⟨limit, keywords⟩ source) ∨
      parseProgram ⟨limit, keywords⟩ source = parseProgram ⟨larger, keywords⟩ source) ∧
    (Refused limit (parseType ⟨limit, keywords⟩ source) ∨
      parseType ⟨limit, keywords⟩ source = parseType ⟨larger, keywords⟩ source) ∧
    (Refused limit (parseExpression ⟨limit, keywords⟩ source) ∨
      parseExpression ⟨limit, keywords⟩ source = parseExpression ⟨larger, keywords⟩ source) := by
  refine ⟨?_, ?_, ?_⟩
  · rcases TwoRuns.run_limits (map_eq_self Statement.relocate_id).1
      (fun _ _ _ => TwoRuns.statements_alike) keywords source le with
      ⟨expected, found, refused⟩ | same
    · refine .inl ⟨expected, found, ?_⟩
      rw [parseProgram, refused]
      rfl
    · rw [parseProgram, parseProgram, same]
      exact .inr rfl
  · exact TwoRuns.run_limits TypeExpr.relocate_id
      (fun _ _ _ nestings => TwoRuns.whole_alike nestings.type) keywords source le
  · exact TwoRuns.run_limits Expression.relocate_id
      (fun _ _ _ nestings => TwoRuns.whole_alike nestings.expression) keywords source le

theorem answers_of_larger_limit_parens :
    2 ≤ 3 ∧ 3 ≤ 1000 ∧ Refused 2 (parseExpression ⟨2, .full⟩ "((a))") ∧
      parseExpression ⟨3, .full⟩ "((a))" = parseExpression ⟨1000, .full⟩ "((a))" := by
  have twoLeThree : 2 ≤ 3 := by decide
  have threeLeThousand : 3 ≤ 1000 := by decide
  have accepted : (parseExpression ⟨3, .full⟩ "((a))").isOk = true := by decide +kernel
  have rejected : (parseExpression ⟨2, .full⟩ "((a))").isOk = false := by decide +kernel
  refine ⟨twoLeThree, threeLeThousand, ?_, ?_⟩
  · rcases (answers_of_larger_limit .full "((a))" twoLeThree).2.2 with refused | same
    · exact refused
    · rw [same, accepted] at rejected
      cases rejected
  · rcases (answers_of_larger_limit .full "((a))" threeLeThousand).2.2 with
      ⟨_, _, refused⟩ | same
    · rw [refused] at accepted
      cases accepted
    · exact same

end TypedScript
