import TypedScript.Diagnostic
import TypedScript.Token.Basic

/-!
Why a text is not a program. Reading stops at the first error: either the text has no next token
where one was needed, or the next token does not fit.
-/

namespace TypedScript

inductive Expected where
  | token (kind : TokenKind)
  | word (text : String)
  | identifier
  | type
  | expression
  | declaration
deriving DecidableEq, Repr

namespace Expected

def text : Expected → String
  | .token kind => "'" ++ kind.title ++ "'"
  | .word text => "'" ++ text ++ "'"
  | .identifier => "identifier"
  | .type => "type"
  | .expression => "expression"
  | .declaration => "declaration or statement"

def title : Expected → String
  | .token kind => "'" ++ kind.title ++ "'"
  | .word text => "'" ++ text ++ "'"
  | .identifier => "Identifier"
  | .type => "Type"
  | .expression => "Expression"
  | .declaration => "Declaration or statement"

end Expected

inductive GrammarFault where
  | typeExpected
  | identifierExpected
  | unexpectedToken
  | unexpectedEnd
  /-- Types or expressions nest deeper than `limit`. -/
  | nestingLimitExceeded (limit : Nat)
deriving DecidableEq, Repr

structure GrammarError where
  fault : GrammarFault
  expected : Expected
  found : Token
deriving DecidableEq, Repr

namespace GrammarError

def foundText (error : GrammarError) : String :=
  if error.found.kind = .endOfFile then "end of input" else "'" ++ error.found.text ++ "'"

def message (error : GrammarError) : String :=
  let problem := match error.fault with
    | .typeExpected => s!"type expected, found {error.foundText}"
    | .identifierExpected => s!"identifier expected, found {error.foundText}"
    | .unexpectedToken => s!"unexpected {error.foundText}, expected {error.expected.text}"
    | .unexpectedEnd => s!"unexpected end of input, expected {error.expected.text}"
    | .nestingLimitExceeded limit => s!"{error.expected.text} nested deeper than {limit} levels"
  s!"{problem} at {error.found.position.text}"

def diagnostic (error : GrammarError) : Diagnostic :=
  let plain := match error.fault with
    | .typeExpected => Diagnostic.ofMessage .typeExpected []
    | .identifierExpected => Diagnostic.ofMessage .identifierExpected []
    | .unexpectedToken =>
        match error.expected with
        | .token kind => Diagnostic.ofMessage .tokenExpected [kind.title]
        | .word text => Diagnostic.ofMessage .tokenExpected [text]
        | other => Diagnostic.ofMessage .unexpectedToken [error.found.text, other.title]
    | .unexpectedEnd => Diagnostic.ofMessage .unexpectedEnd []
    | .nestingLimitExceeded limit => Diagnostic.ofMessage .nestingLimitExceeded [toString limit]
  plain.withPlace error.found.position error.found.span

def label (error : GrammarError) : String :=
  match error.fault with
  | .nestingLimitExceeded limit => s!"nesting limit of {limit} reached here"
  | .unexpectedEnd => "input ends here"
  | _ => "found " ++ error.foundText

end GrammarError

namespace LexicalError

def diagnostic (error : LexicalError) : Diagnostic :=
  let message := match error.fault with
    | .unterminatedString => Message.unterminatedString
    | .unexpectedCharacter _ => Message.invalidCharacter
  (Diagnostic.ofMessage message []).withPlace error.position error.span

end LexicalError

inductive SyntaxError where
  | lexical (error : LexicalError)
  | grammar (error : GrammarError)
deriving DecidableEq, Repr

namespace SyntaxError

def position : SyntaxError → Position
  | .lexical error => error.position
  | .grammar error => error.found.position

def span : SyntaxError → Span
  | .lexical error => error.span
  | .grammar error => error.found.span

def message : SyntaxError → String
  | .lexical error => error.message
  | .grammar error => error.message

def diagnostic : SyntaxError → Diagnostic
  | .lexical error => error.diagnostic
  | .grammar error => error.diagnostic

def label : SyntaxError → String
  | .lexical error => error.fault.message
  | .grammar error => error.label

/-- Whether the error stands however the text is read at this point: the text has no next token, or
it nests too deep. -/
def isFinal : SyntaxError → Bool
  | .lexical _ => true
  | .grammar error =>
      match error.fault with
      | .nestingLimitExceeded _ => true
      | _ => false

end SyntaxError

end TypedScript
