import TypedScript.Options
import TypedScript.Parser.Statements

/-!
Reading whole texts: a program, exactly one type, or exactly one expression; and reading types and
expressions one after another.
-/

namespace TypedScript

theorem exists_of_isOk {ε α : Type} {result : Except ε α} (accepted : result.isOk = true) :
    ∃ value, result = .ok value := by
  cases result with
  | ok value => exact ⟨value, rfl⟩
  | error => cases accepted

namespace Parse

/-- Fails unless the text is over. -/
def endOfInput : Parse Unit := do
  if (← current).kind ≠ .endOfFile then
    failAt .unexpectedToken (.token .endOfFile)

def run (options : ParseOptions) (source : String) (parser : Nesting → Parse α) :
    Except SyntaxError α :=
  let nesting := Nesting.outermost (.ofLimit options.nestingLimit)
  match parser nesting (Cursor.ofLexed (lex options.keywords source)) with
  | .ok value _ => .ok value
  | .error error _ => .error error

theorem run_eq_ok {options : ParseOptions} {source : String} {parser : Nesting → Parse α}
    {value : α} (parsed : run options source parser = .ok value) :
    ∃ after, parser (.outermost (.ofLimit options.nestingLimit))
      (.ofLexed (lex options.keywords source)) = .ok value after := by
  unfold run at parsed
  dsimp only at parsed
  split at parsed
  · next found =>
      cases parsed
      exact ⟨_, found⟩
  · cases parsed

end Parse

def parseProgram (options : ParseOptions) (source : String) : Except SyntaxError Program := do
  let statements ← Parse.run options source Parse.statements
  return ⟨⟨0, source.utf8ByteSize⟩, statements⟩

/-- A program is the list of its statements with the range of the whole text. -/
theorem parseProgram_iff {options : ParseOptions} {source : String} {program : Program} :
    parseProgram options source = .ok program ↔ ∃ list after,
      Parse.statements (.outermost (.ofLimit options.nestingLimit))
        (.ofLexed (lex options.keywords source)) = .ok list after ∧
      program = ⟨⟨0, source.utf8ByteSize⟩, list⟩ := by
  unfold parseProgram Parse.run
  dsimp only
  cases Parse.statements (.outermost (.ofLimit options.nestingLimit))
    (.ofLexed (lex options.keywords source)) with
  | ok list after =>
      constructor
      · intro parsed
        cases parsed
        exact ⟨list, after, rfl, rfl⟩
      · rintro ⟨_, _, same, rfl⟩
        cases same
        rfl
  | error error after =>
      constructor
      · intro parsed
        cases parsed
      · rintro ⟨_, _, same, _⟩
        cases same

def parseType (options : ParseOptions) (source : String) : Except SyntaxError TypeExpr :=
  Parse.run options source fun nesting => do
    let type ← nesting.type
    Parse.endOfInput
    return type

def parseExpression (options : ParseOptions) (source : String) :
    Except SyntaxError Expression :=
  Parse.run options source fun nesting => do
    let expression ← nesting.expression
    Parse.endOfInput
    return expression

/-- A part of a text: a type or an expression. -/
inductive Fragment where
  | type (type : TypeExpr)
  | expression (expression : Expression)

namespace Fragment

inductive Kind where
  | type
  | expression
deriving DecidableEq, Repr

def parser (nesting : Nesting) : Kind → Parse Fragment
  | .type => .type <$> nesting.type
  | .expression => .expression <$> nesting.expression

/-- Reads fragments one after another. Each begins where the one before stopped, also if that one
failed. -/
def parseFrom (nesting : Nesting) (cursor : Cursor) : List Kind → List (Except SyntaxError Fragment)
  | [] => []
  | kind :: rest =>
      match parser nesting kind cursor with
      | .ok fragment after => .ok fragment :: parseFrom nesting after rest
      | .error error after => .error error :: parseFrom nesting after rest

end Fragment

def parseFragments (options : ParseOptions) (source : String) (kinds : List Fragment.Kind) :
    List (Except SyntaxError Fragment) :=
  Fragment.parseFrom (Nesting.outermost (.ofLimit options.nestingLimit))
    (Cursor.ofLexed (lex options.keywords source)) kinds

end TypedScript
