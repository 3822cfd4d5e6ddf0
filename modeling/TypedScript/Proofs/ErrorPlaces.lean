import TypedScript.Proofs.LayoutIndependence
import TypedScript.Proofs.NestingLimit
import TypedScript.Proofs.Reading.Programs
import TypedScript.Proofs.Tiling

/-!
Where errors point. Main statement: a text that is read has tokens up to its end, and a text that is
not read has an error at a place of its own, which is the place where it has no next token, or the
range of one of its tokens.
-/

namespace TypedScript

/-! The text that an error points at. -/

namespace Tiles

variable {source : String} {start : Nat} {tokens : List Token} {ending : Ending}

theorem slice_of_mem (tiles : Tiles source start tokens ending) {token : Token}
    (member : token ∈ tokens) : token.span.slice? source = some token.text := by
  induction tiles with
  | endOfFile => cases member
  | failure => cases member
  | token follows _ _ _ induction =>
      rcases List.mem_cons.mp member with rfl | member
      · exact follows.text
      · exact induction member

theorem slice_of_end (tiles : Tiles source start tokens ending) {token : Token}
    (isEnd : ending = .endOfFile token) : token.span.slice? source = some token.text := by
  induction tiles with
  | endOfFile follows =>
      cases isEnd
      exact follows.text
  | failure => cases isEnd
  | token _ _ _ _ induction => exact induction isEnd

theorem slice_of_withEnd {lexed : Lexed} (tiles : Tiles source start lexed.tokens lexed.ending)
    {token : Token} (member : token ∈ lexed.withEnd) :
    token.span.slice? source = some token.text := by
  unfold Lexed.withEnd at member
  split at member
  · next last isEnd =>
      rcases List.mem_append.mp member with member | member
      · exact tiles.slice_of_mem member
      · cases List.mem_singleton.mp member
        exact tiles.slice_of_end isEnd
  · exact tiles.slice_of_mem member

theorem slice_of_failure (tiles : Tiles source start tokens ending) {error : LexicalError}
    (failed : ending = .failure error) :
    ∃ char, error.fault.IsAbout char ∧
      error.span.slice? source = some (String.singleton char) := by
  induction tiles with
  | endOfFile => cases failed
  | failure _ place =>
      cases failed
      exact place
  | token _ _ _ _ induction => exact induction failed

end Tiles

namespace SyntaxError

def ComesFrom (lexed : Lexed) : SyntaxError → Prop
  | .lexical error => lexed.error? = some error
  | .grammar error => error.found ∈ lexed.withEnd ∧ error.fault.Fits error.found

def IsAbout (text : String) : SyntaxError → Prop
  | .lexical error => ∃ char, error.fault.IsAbout char ∧ text = String.singleton char
  | .grammar error => text = error.found.text

structure Located (lexed : Lexed) (source : String) (error : SyntaxError) : Prop where
  comesFrom : error.ComesFrom lexed
  start : error.span.start = error.position.offset
  covers : ∃ text, error.span.slice? source = some text ∧ error.IsAbout text

theorem ComesFrom.located {keywords : KeywordSet} {source : String} {error : SyntaxError}
    (comesFrom : error.ComesFrom (lex keywords source)) :
    error.Located (lex keywords source) source := by
  rcases Lexer.ofSource_stands keywords source with ⟨opening, stands⟩
  have tiles : Tiles source 0 (lex keywords source).tokens (lex keywords source).ending :=
    Lexer.run_tiles _ source [] opening stands
  cases error with
  | lexical error =>
      refine ⟨comesFrom, rfl, ?_⟩
      have failed : (lex keywords source).ending = .failure error := by
        cases ending : (lex keywords source).ending with
        | endOfFile token => simp [ComesFrom, Lexed.error?, ending] at comesFrom
        | failure other =>
            simp only [ComesFrom, Lexed.error?, ending, Option.some.injEq] at comesFrom
            rw [comesFrom]
      rcases tiles.slice_of_failure failed with ⟨char, about, slice⟩
      exact ⟨String.singleton char, slice, char, about, rfl⟩
  | grammar error =>
      refine ⟨comesFrom, rfl, error.found.text, ?_, rfl⟩
      exact tiles.slice_of_withEnd comesFrom.1

end SyntaxError

/-! Answers. -/

theorem TwoRuns.Errors.comesFrom {runs : TwoRuns} {error other : SyntaxError}
    (errors : runs.Errors error other) : error.ComesFrom runs.left := by
  cases errors with
  | lexical failed _ => simp only [SyntaxError.ComesFrom, Lexed.error?, failed]
  | grammar index found _ _ fits =>
      exact ⟨List.mem_of_getElem? (withEnd_of_peek found), fits⟩

/-- What an answer says about a text: it has tokens up to its end, or there is an error in it. -/
def Justified {α : Type} (lexed : Lexed) (source : String) : Except SyntaxError α → Prop
  | .ok _ => lexed.error? = none
  | .error error => error.Located lexed source

/-- Tokens that go up to the end of the text leave no place for an error in between. -/
theorem not_justified_lexical {α : Type} {lexed : Lexed} {source : String} {last : Token}
    {error : LexicalError} (ending : lexed.ending = .endOfFile last) :
    ¬Justified lexed source (.error (.lexical error) : Except SyntaxError α) := by
  intro justified
  have failed := justified.comesFrom
  simp [SyntaxError.ComesFrom, Lexed.error?, ending] at failed

namespace Parse

variable {options : ParseOptions} {source : String} {α : Type}

/-- A parser never fails but at a place of the text. -/
theorem run_justified {view : (Nat → Nat) → α → α} {parser : Nesting → Parse α}
    (alike : ∀ (runs : TwoRuns) outer otherOuter, runs.Nestings outer otherOuter →
      runs.Alike (runs.Same view) (parser outer) (parser otherOuter))
    (complete : ∀ {value}, run options source parser = .ok value →
      (lex options.keywords source).error? = none) :
    Justified (lex options.keywords source) source (run options source parser) := by
  -- A text beside itself: the two runs share their errors.
  let runs := TwoRuns.ofLimits (lex options.keywords source) options.nestingLimit 0
  rcases TwoRuns.run_cases (alike runs) options options source source rfl rfl rfl rfl with
    ⟨value, _, read, _⟩ | ⟨error, _, failed, _, errors⟩ | ⟨wider, _⟩
  · rw [read]
    exact complete read
  · rw [failed]
    exact errors.comesFrom.located
  · exact absurd wider (Nat.lt_irrefl 0)

theorem run_whole {parser : Nesting → Parse α} {spelled : α → List Lexeme → Prop}
    {nodes : α → List Node} (reads : ∀ {nesting : Nesting}, nesting.Reading →
      Reads (parser nesting) spelled nodes) {value : α}
    (parsed : run options source (fun nesting => do
      let value ← parser nesting
      endOfInput
      return value) = .ok value) :
    (lex options.keywords source).error? = none := by
  rcases run_eq_ok parsed with ⟨_, read⟩
  rcases whole_complete reads read with ⟨token, ending⟩
  rw [Lexed.error?, ending]

theorem statements_justified (options : ParseOptions) (source : String) :
    Justified (lex options.keywords source) source (run options source statements) := by
  refine run_justified (fun _ _ _ => TwoRuns.statements_alike) fun {list} read => ?_
  rcases run_eq_ok read with ⟨after, parsed⟩
  rcases (parseProgram_eq_ok (parseProgram_iff.mpr ⟨list, after, parsed, rfl⟩)).2.1 with
    ⟨token, ending⟩
  rw [Lexed.error?, ending]

end Parse

section Answers

variable (options : ParseOptions) (source : String)

theorem parseProgram_justified :
    Justified (lex options.keywords source) source (parseProgram options source) := by
  have statements := Parse.statements_justified options source
  unfold parseProgram
  cases result : Parse.run options source Parse.statements with
  | ok list =>
      rw [result] at statements
      exact statements
  | error error =>
      rw [result] at statements
      exact statements

theorem parseType_justified :
    Justified (lex options.keywords source) source (parseType options source) :=
  Parse.run_justified (fun _ _ _ nestings => TwoRuns.whole_alike nestings.type)
    (Parse.run_whole fun reading => reading.type)

theorem parseExpression_justified :
    Justified (lex options.keywords source) source (parseExpression options source) :=
  Parse.run_justified (fun _ _ _ nestings => TwoRuns.whole_alike nestings.expression)
    (Parse.run_whole fun reading => reading.expression.reads)

end Answers

/-- Every answer to a text is justified by its tokens. -/
theorem answers_justified (options : ParseOptions) (source : String) :
    Justified (lex options.keywords source) source (parseProgram options source) ∧
      Justified (lex options.keywords source) source (parseType options source) ∧
      Justified (lex options.keywords source) source (parseExpression options source) :=
  ⟨parseProgram_justified options source, parseType_justified options source,
    parseExpression_justified options source⟩

end TypedScript
