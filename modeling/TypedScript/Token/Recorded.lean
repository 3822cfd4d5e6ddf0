import TypedScript.Text.Numeral
import TypedScript.Token.Lexer

/-!
Tokens as they are recorded. Offsets, lines and columns have 32 bits each, and what a number needs
beyond them is lost. Kinds, characters and flags stay as they are.
-/

namespace TypedScript

def low32 (value : Nat) : Nat :=
  value % Numeral.bound32

theorem low32_of_lt {value : Nat} (small : value < Numeral.bound32) : low32 value = value :=
  Nat.mod_eq_of_lt small

theorem low32_low32 (value : Nat) : low32 (low32 value) = low32 value :=
  Nat.mod_mod value Numeral.bound32

def Position.low32 (position : Position) : Position :=
  ⟨TypedScript.low32 position.offset, TypedScript.low32 position.line,
    TypedScript.low32 position.column⟩

def Token.low32 (token : Token) : Token :=
  { token with position := token.position.low32, stop := TypedScript.low32 token.stop }

def LexicalError.low32 (error : LexicalError) : LexicalError :=
  { error with position := error.position.low32 }

def Ending.low32 : Ending → Ending
  | .endOfFile token => .endOfFile token.low32
  | .failure error => .failure error.low32

theorem Token.WellFormed.low32 {token : Token} (wellFormed : token.WellFormed) :
    token.low32.WellFormed :=
  ⟨wellFormed.notEnd, wellFormed.lexed, wellFormed.spelled, wellFormed.denotes⟩

theorem Ending.WellFormed.low32 {ending : Ending} (wellFormed : ending.WellFormed) :
    ending.low32.WellFormed := by
  cases ending with
  | endOfFile => exact wellFormed
  | failure => exact wellFormed

def Lexed.low32 (lexed : Lexed) : Lexed where
  tokens := lexed.tokens.map Token.low32
  ending := lexed.ending.low32
  wellFormed := List.forall_mem_map.mpr fun token member => (lexed.wellFormed token member).low32
  endingWellFormed := lexed.endingWellFormed.low32

def lexRecorded (keywords : KeywordSet) (source : String) : Lexed :=
  (lex keywords source).low32

end TypedScript
