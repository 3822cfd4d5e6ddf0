import TypedScript.Proofs.Machine.Statements
import TypedScript.Proofs.TwoRuns.Statements

/-!
Where tokens stand does not matter. Two texts may have the same tokens in different places: other
blanks, other comments, other lines. Then they are read as the same program but for its ranges, or
they fail with the same error at tokens of the same index. Places matter in one way only: a closing
angle bracket and an equals sign are one operator if they touch, which is read off their recorded
offsets.
-/

namespace TypedScript

/-! Forgetting places. -/

def Token.withoutPlace (token : Token) : Token :=
  { token with position := ⟨0, 0, 0⟩, stop := 0 }

def LexicalError.withoutPlace (error : LexicalError) : LexicalError :=
  { error with position := ⟨0, 0, 0⟩ }

def Ending.withoutPlace : Ending → Ending
  | .endOfFile token => .endOfFile token.withoutPlace
  | .failure error => .failure error.withoutPlace

def SyntaxError.withoutPlace : SyntaxError → SyntaxError
  | .lexical error => .lexical error.withoutPlace
  | .grammar error => .grammar { error with found := error.found.withoutPlace }

namespace Lexed

/-- For each token but the last, whether it is a closing angle bracket that touches an equals sign
after it. -/
def joined (lexed : Lexed) : List Bool :=
  lexed.tokens.zipWith (fun first second =>
    first.isMark .greaterThan && second.isMark .equals && second.start == first.stop)
    lexed.tokens.tail

structure SameButLayout (left right : Lexed) : Prop where
  tokens : left.tokens.map Token.withoutPlace = right.tokens.map Token.withoutPlace
  ending : left.ending.withoutPlace = right.ending.withoutPlace
  joined : left.joined = right.joined

end Lexed

/-- The error is about the token with this index, or about the place after the last token where no
other one begins. -/
def SyntaxError.PointsAt (lexed : Lexed) (index : Nat) : SyntaxError → Prop
  | .lexical error => lexed.ending = .failure error ∧ index = lexed.tokens.length
  | .grammar error => lexed.withEnd[index]? = some error.found

/-! Texts that differ in their layout as two runs. -/

theorem Token.alike_of_withoutPlace {token other : Token}
    (same : token.withoutPlace = other.withoutPlace) :
    token.Alike (fun _ _ => True) other := by
  rcases Token.mk.inj same with ⟨kind, text, _, _, afterLineBreak, hasEscape⟩
  exact ⟨kind, text, afterLineBreak, hasEscape, trivial, trivial⟩

theorem Token.Alike.withoutPlace {offsets : Nat → Nat → Prop} {token other : Token}
    (alike : token.Alike offsets other) : token.withoutPlace = other.withoutPlace := by
  rw [Token.withoutPlace, Token.withoutPlace, alike.kind, alike.text, alike.afterLineBreak,
    alike.hasEscape]

theorem rel_getElem? {α β : Type} {items : α → β → Prop} {left : List α} {right : List β}
    (alike : List.Forall₂ items left right) (index : Nat) :
    Option.Rel items left[index]? right[index]? := by
  induction alike generalizing index with
  | nil => exact .none
  | cons first _ induction =>
      cases index with
      | zero => exact .some first
      | succ index => exact induction index

namespace Lexed

variable {left right : Lexed}

theorem joined_getElem? {lexed : Lexed} {index : Nat} {first second : Token}
    (found : lexed.tokens[index]? = some first)
    (foundNext : lexed.tokens[index + 1]? = some second) :
    lexed.joined[index]? = some (first.isMark .greaterThan && second.isMark .equals &&
      second.start == first.stop) := by
  rw [joined, List.getElem?_zipWith, found, List.getElem?_tail, foundNext]

theorem SameButLayout.alike (same : SameButLayout left right) :
    List.Forall₂ (Token.Alike fun _ _ => True) left.tokens right.tokens := by
  have equal := same.tokens
  rw [← List.forall₂_eq_eq_eq, List.forall₂_map_left_iff, List.forall₂_map_right_iff] at equal
  exact equal.imp fun _ _ => Token.alike_of_withoutPlace

theorem SameButLayout.ending_alike (same : SameButLayout left right) :
    Ending.Alike (fun _ _ => True) left.ending right.ending := by
  have equal := same.ending
  revert equal
  generalize left.ending = ending
  generalize right.ending = other
  intro equal
  cases ending with
  | endOfFile token =>
      cases other with
      | endOfFile otherToken =>
          exact .endOfFile (Token.alike_of_withoutPlace (Ending.endOfFile.inj equal))
      | failure => cases equal
  | failure error =>
      cases other with
      | endOfFile => cases equal
      | failure otherError =>
          exact .failure (LexicalError.mk.inj (Ending.failure.inj equal)).1

theorem SameButLayout.alike_of_getElem? (same : SameButLayout left right) {index : Nat}
    {token other : Token} (found : left.tokens[index]? = some token)
    (otherFound : right.tokens[index]? = some other) : token.Alike (fun _ _ => True) other := by
  have alike := rel_getElem? same.alike index
  rw [found, otherFound] at alike
  cases alike with
  | some tokens => exact tokens

theorem SameButLayout.touching (same : SameButLayout left right) {index : Nat}
    {first second otherFirst otherSecond : Token}
    (found : left.tokens[index]? = some first) (foundNext : left.tokens[index + 1]? = some second)
    (otherFound : right.tokens[index]? = some otherFirst)
    (otherFoundNext : right.tokens[index + 1]? = some otherSecond)
    (isAngle : first.isMark .greaterThan = true) (isEquals : second.isMark .equals = true) :
    second.start = first.stop ↔ otherSecond.start = otherFirst.stop := by
  have firsts := same.alike_of_getElem? found otherFound
  have seconds := same.alike_of_getElem? foundNext otherFoundNext
  have joins := joined_getElem? found foundNext
  rw [same.joined, joined_getElem? otherFound otherFoundNext, ← firsts.isMark, ← seconds.isMark,
    isAngle, isEquals] at joins
  simp only [Bool.true_and, Option.some.injEq] at joins
  simpa using (Bool.eq_iff_iff.mp joins).symm

def SameButLayout.runs (same : SameButLayout left right) (limit : Nat) : TwoRuns where
  left := left
  right := right
  passed := 0
  otherPassed := 0
  Offsets := fun _ _ => True
  move := fun _ => 0
  otherMove := fun _ => 0
  limit := limit
  extra := 0
  cut := False
  moves := fun _ => rfl
  greater := fun _ _ => trivial
  sinceBeginning := fun _ => trivial
  goOn := .ofForall₂ same.alike same.ending_alike
  touching := by
    intro index
    rw [Nat.zero_add, Nat.zero_add]
    exact same.touching
  lookahead := False.elim

end Lexed

namespace TwoRuns

theorem Errors.withoutPlace {left right : Lexed} {same : left.SameButLayout right} {limit : Nat}
    {error other : SyntaxError} (errors : (same.runs limit).Errors error other) :
    error.withoutPlace = other.withoutPlace := by
  have ending := same.ending_alike
  cases errors with
  | lexical failed otherFailed =>
      rw [show left.ending = _ from failed, show right.ending = _ from otherFailed] at ending
      cases ending with
      | failure same =>
          simp only [SyntaxError.withoutPlace, LexicalError.withoutPlace, same]
  | grammar _ _ _ alike => simp only [SyntaxError.withoutPlace, alike.withoutPlace]

theorem withEnd_of_peek {lexed : Lexed} {index : Nat} {token : Token}
    (found : (Cursor.ofLexed lexed).peek index = .ok token) :
    lexed.withEnd[min index lexed.tokens.length]? = some token := by
  rcases Nat.lt_or_ge index lexed.tokens.length with within | beyond
  · have present : lexed.withEnd[index]? = lexed.tokens[index]? := by
      rw [Lexed.withEnd]
      split
      · exact List.getElem?_append_left within
      · rfl
    rw [Nat.min_eq_left (Nat.le_of_lt within), present]
    rw [Cursor.peek, Cursor.ofLexed, List.getElem?_eq_getElem within] at found
    rw [List.getElem?_eq_getElem within, Except.ok.inj found]
  · rw [Nat.min_eq_right beyond, Lexed.withEnd]
    simp only [Cursor.peek, Cursor.ofLexed, List.getElem?_eq_none beyond] at found
    cases ending : lexed.ending with
    | endOfFile last =>
        rw [ending] at found
        rw [List.getElem?_concat_length, Except.ok.inj found]
    | failure error =>
        rw [ending] at found
        cases found

theorem Errors.pointAt {left right : Lexed} {same : left.SameButLayout right} {limit : Nat}
    {error other : SyntaxError} (errors : (same.runs limit).Errors error other) :
    ∃ index, error.PointsAt left index ∧ other.PointsAt right index := by
  have length := same.alike.length_eq
  cases errors with
  | lexical failed otherFailed =>
      exact ⟨left.tokens.length, ⟨failed, rfl⟩, otherFailed, length⟩
  | grammar index found otherFound =>
      rw [Lexed.SameButLayout.runs, Nat.zero_add] at found otherFound
      refine ⟨min index left.tokens.length, withEnd_of_peek found, ?_⟩
      rw [length]
      exact withEnd_of_peek otherFound

end TwoRuns

namespace Machine

/-- Two texts whose recorded tokens differ in their layout only are read as trees that are the same
but for their ranges, or they fail with the same error at tokens of the same index. A token touches
another one if the offset where it is recorded to end is the one where the other is recorded to
begin. -/
theorem parseProgram_layout (options : ParseOptions) (source other : String)
    (same : (lexRecorded options.keywords source).SameButLayout
      (lexRecorded options.keywords other)) :
    (∃ tree otherTree : Program, parseProgram options source = .ok tree.stored ∧
      parseProgram options other = .ok otherTree.stored ∧
      tree.withoutSpans = otherTree.withoutSpans) ∨
    ∃ error otherError index, parseProgram options source = .error error ∧
      parseProgram options other = .error otherError ∧
      error.withoutPlace = otherError.withoutPlace ∧
      error.PointsAt (lexRecorded options.keywords source) index ∧
      otherError.PointsAt (lexRecorded options.keywords other) index := by
  let runs := same.runs options.nestingLimit
  have outcome : runs.Outcome runs.Related (runs.Same (each Statement.relocate))
      (readRecorded options source Parse.statements)
      (readRecorded options other Parse.statements) :=
    TwoRuns.statements_alike TwoRuns.nestings_outermost runs.related_beginning
  rw [parseProgram_eq, parseProgram_eq]
  revert outcome
  generalize readRecorded options source Parse.statements = first
  generalize readRecorded options other Parse.statements = second
  intro outcome
  cases outcome with
  | ok lists =>
      refine .inl ⟨_, _, rfl, rfl, ?_⟩
      simp only [Program.withoutSpans, Program.relocate, Span.relocate]
      exact congrArg _ lists
  | error errors =>
      rcases errors.pointAt with ⟨index, points, otherPoints⟩
      exact .inr ⟨_, _, index, rfl, rfl, errors.withoutPlace, points, otherPoints⟩
  | early stops =>
      cases stops with
      | refused wider => exact absurd wider (Nat.lt_irrefl 0)
      | brokenOff cut => exact cut.elim

theorem parseProgram_layout_comment :
    (lexRecorded .full "let a = b >= f<T>(c);").SameButLayout
        (lexRecorded .full "let a=b>= /* then */ f < T >  ( c ) ;") ∧
      ∃ tree otherTree : Program,
        parseProgram .default "let a = b >= f<T>(c);" = .ok tree.stored ∧
        parseProgram .default "let a=b>= /* then */ f < T >  ( c ) ;" = .ok otherTree.stored ∧
        tree.withoutSpans = otherTree.withoutSpans := by
  have same : (lexRecorded .full "let a = b >= f<T>(c);").SameButLayout
      (lexRecorded .full "let a=b>= /* then */ f < T >  ( c ) ;") :=
    ⟨by decide +kernel, by decide +kernel, by decide +kernel⟩
  have accepted : (parseProgram .default "let a = b >= f<T>(c);").isOk = true := by
    decide +kernel
  refine ⟨same, ?_⟩
  rcases parseProgram_layout .default _ _ same with programs | ⟨error, _, _, failed, _⟩
  · exact programs
  · rw [failed] at accepted
    cases accepted

-- Without the condition on brackets that touch, blanks would matter.
example :
    (parseProgram .default "a >= b").isOk = true ∧
      (parseProgram .default "a > = b").isOk = false := by
  decide +kernel

end Machine

end TypedScript
