import TypedScript.Proofs.Checked.Places
import TypedScript.Proofs.History

/-!
Texts for which 32 bits are enough. Main statement: what the machine reads in such a text, whole or
piece by piece, is what the grammar reads in it, as it is stored.
-/

namespace TypedScript.Machine

variable {source : String}

theorem result_readRecorded {α β : Type} (options : ParseOptions)
    (small : source.utf8ByteSize + 1 < Numeral.bound32) (stored : α → β)
    (parser : Nesting → Parse α) :
    result stored (readRecorded options source parser) =
      (Parse.run options source parser).map stored := by
  unfold readRecorded Parse.run
  rw [lexRecorded_eq options.keywords small]
  dsimp only
  cases parser _ (Cursor.ofLexed (lex options.keywords source)) <;> rfl

theorem parseProgram_exact (options : ParseOptions)
    (small : source.utf8ByteSize + 1 < Numeral.bound32) :
    parseProgram options source =
      (TypedScript.parseProgram options source).map Program.stored := by
  rw [parseProgram_eq, result_readRecorded options small, TypedScript.parseProgram,
    low32_of_lt (Nat.lt_of_succ_lt small)]
  cases Parse.run options source Parse.statements <;> rfl

theorem parseType_exact (options : ParseOptions)
    (small : source.utf8ByteSize + 1 < Numeral.bound32) :
    parseType options source = (TypedScript.parseType options source).map TypeExpr.stored := by
  rw [parseType_eq, result_readRecorded options small]
  rfl

theorem parseExpression_exact (options : ParseOptions)
    (small : source.utf8ByteSize + 1 < Numeral.bound32) :
    parseExpression options source =
      (TypedScript.parseExpression options source).map Expression.stored := by
  rw [parseExpression_eq, result_readRecorded options small]
  rfl

theorem parseFrom_concat (nesting : Nesting) (cursor : Cursor) (history : List Fragment.Kind)
    (kind : Fragment.Kind) :
    Fragment.parseFrom nesting cursor (history ++ [kind]) =
      Fragment.parseFrom nesting cursor history ++
        Fragment.parseFrom nesting (Fragment.reach nesting cursor history) [kind] := by
  induction history generalizing cursor with
  | nil => rfl
  | cons first rest induction =>
      rw [List.cons_append, Fragment.parseFrom, Fragment.parseFrom, Fragment.reach]
      cases Fragment.parser nesting first cursor with
      | ok fragment after => exact congrArg (_ :: ·) (induction after)
      | error error after => exact congrArg (_ :: ·) (induction after)

theorem answer_exact (options : ParseOptions) (small : source.utf8ByteSize + 1 < Numeral.bound32)
    (history : List Fragment.Kind) (kind : Fragment.Kind) :
    (parseFragments options source (history ++ [kind])).getLast?.map (·.map Fragment.stored) =
      some (answer options (after options (start options.keywords source) history) kind).1 := by
  have beginning : start options.keywords source =
      ⟨.ofLexed (lex options.keywords source), 0⟩ := by
    rw [← lexRecorded_eq options.keywords small]
    rfl
  rw [beginning, after_eq, answer_eq, parseFragments, parseFrom_concat]
  cases found : Fragment.parser (.outermost (.ofLimit options.nestingLimit)) kind
      (Fragment.reach (.outermost (.ofLimit options.nestingLimit))
        (.ofLexed (lex options.keywords source)) history) with
  | ok fragment later =>
      rw [Fragment.parseFrom, found]
      simp [Fragment.parseFrom, Except.map]
  | error error later =>
      rw [Fragment.parseFrom, found]
      simp [Fragment.parseFrom, Except.map]

end TypedScript.Machine
