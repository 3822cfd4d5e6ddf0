import TypedScript.Text.Characters
import TypedScript.Text.Position

/-!
What stands between tokens: white space, line terminators and comments.
-/

namespace TypedScript.Trivia

/-- Where in the space between tokens a character stands. -/
inductive Mode where
  | plain
  | lineComment
  | blockComment
deriving DecidableEq, Repr

namespace Mode

def afterLineBreak : Mode → Mode
  | .lineComment => .plain
  | mode => mode

end Mode

structure Gap where
  rest : List Char
  position : Position
  brokeLine : Bool
deriving DecidableEq, Repr

/-- Skips the space before the next token. A block comment that is never closed runs to the end of
the text. -/
def skip : Mode → List Char → Position → Bool → Gap
  | _, [], here, broke => ⟨[], here, broke⟩
  | mode, '\r' :: '\n' :: rest, here, _ => skip mode.afterLineBreak rest (here.newLine 2) true
  | .plain, '/' :: '/' :: rest, here, broke => skip .lineComment rest (here.steps ['/', '/']) broke
  | .plain, '/' :: '*' :: rest, here, broke => skip .blockComment rest (here.steps ['/', '*']) broke
  | .blockComment, '*' :: '/' :: rest, here, broke => skip .plain rest (here.steps ['*', '/']) broke
  | mode, char :: rest, here, broke =>
      if isLineTerminator char then
        skip mode.afterLineBreak rest (here.newLine char.utf8Size) true
      else if mode != .plain || isBlank char then
        skip mode rest (here.step char) broke
      else
        ⟨char :: rest, here, broke⟩

/-- Skipping never adds to a text. -/
theorem skip_rest_suffix (mode : Mode) (chars : List Char) (here : Position) (broke : Bool) :
    (skip mode chars here broke).rest <:+ chars := by
  fun_induction skip mode chars here broke with
  | case1 => exact List.suffix_refl _
  | case2 _ _ _ _ induction => exact induction.trans ⟨_ :: [_], rfl⟩
  | case3 _ _ _ induction => exact induction.trans ⟨_ :: [_], rfl⟩
  | case4 _ _ _ induction => exact induction.trans ⟨_ :: [_], rfl⟩
  | case5 _ _ _ induction => exact induction.trans ⟨_ :: [_], rfl⟩
  | case6 _ _ _ _ _ _ _ _ _ _ induction => exact induction.trans (List.suffix_cons _ _)
  | case7 _ _ _ _ _ _ _ _ _ _ _ induction => exact induction.trans (List.suffix_cons _ _)
  | case8 => exact List.suffix_refl _

end TypedScript.Trivia
