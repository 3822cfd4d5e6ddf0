import TypedScript.Lexicon.TokenKind
import TypedScript.Text.Position
import TypedScript.Text.Quoted
import TypedScript.Text.Span
import TypedScript.Token.Escape

/-!
Tokens, and the errors that keep a text from having them.
-/

namespace TypedScript

structure Token where
  kind : TokenKind
  /-- The characters of the token, the quotes of a string included. -/
  text : String
  position : Position
  stop : Nat
  /-- Whether a line ended between this token and the one before. -/
  afterLineBreak : Bool
  hasEscape : Bool
deriving DecidableEq, Repr

namespace Token

def start (token : Token) : Nat :=
  token.position.offset

def span (token : Token) : Span :=
  ⟨token.start, token.stop⟩

def isMark (token : Token) (mark : Punctuator) : Bool :=
  token.kind == .punctuator mark

/-- Whether this is the plain name `word`. Words such as `from` and `as` are names that mean
something in some places only. -/
def isWord (token : Token) (word : String) : Bool :=
  token.kind == .identifier && token.text == word

def body (token : Token) : List Char :=
  (token.text.toList.drop 1).dropLast

def stringValue? (token : Token) : Option String :=
  if token.kind != .stringLiteral || token.text.utf8ByteSize < 2 then none
  else if token.hasEscape then some (String.ofList (Escape.resolve token.body))
  else some (String.ofList token.body)

/-- What a text can have as a token: it does not stand for the end, it is a punctuator only if the
lexer looks for that one, it is spelled as its kind demands, and it denotes something if it is a
string. -/
structure WellFormed (token : Token) : Prop where
  notEnd : token.kind ≠ .endOfFile
  lexed : ∀ mark, token.kind = .punctuator mark → mark ∈ Punctuator.lexed
  spelled : ∀ text, token.kind.spelling? = some text → token.text = text
  denotes : token.kind = .stringLiteral → token.stringValue?.isSome

end Token

inductive LexicalFault where
  /-- A string runs into the end of its line or of the text. -/
  | unterminatedString
  | unexpectedCharacter (char : Char)
deriving DecidableEq, Repr

namespace LexicalFault

def message : LexicalFault → String
  | .unterminatedString => "unterminated string literal"
  | .unexpectedCharacter char => "unexpected character " ++ Quoted.character char

def width : LexicalFault → Nat
  | .unterminatedString => 1
  | .unexpectedCharacter char => char.utf8Size

end LexicalFault

/-- The first place of a text where no token begins. -/
structure LexicalError where
  fault : LexicalFault
  position : Position
deriving DecidableEq, Repr

namespace LexicalError

def span (error : LexicalError) : Span :=
  ⟨error.position.offset, error.position.offset + error.fault.width⟩

def message (error : LexicalError) : String :=
  error.fault.message ++ " at " ++ error.position.text

end LexicalError

end TypedScript
