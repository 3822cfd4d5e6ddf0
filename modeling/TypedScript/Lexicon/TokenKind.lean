import TypedScript.Lexicon.Keyword
import TypedScript.Lexicon.Punctuator

/-!
The kinds of tokens.
-/

namespace TypedScript

inductive TokenClass where
  | identifier
  | keyword
  | numericLiteral
  | stringLiteral
  | punctuation
  | operator
  | endOfInput
deriving DecidableEq, Repr

namespace TokenClass

def name : TokenClass → String
  | .identifier => "Identifier"
  | .keyword => "Keyword"
  | .numericLiteral => "NumericLiteral"
  | .stringLiteral => "StringLiteral"
  | .punctuation => "Punctuation"
  | .operator => "Operator"
  | .endOfInput => "EndOfInput"

end TokenClass

inductive TokenKind where
  | endOfFile
  | numericLiteral
  | stringLiteral
  | punctuator (mark : Punctuator)
  | identifier
  | keyword (word : Keyword)
deriving DecidableEq, Repr

namespace TokenKind

def name : TokenKind → String
  | .endOfFile => "EndOfFileToken"
  | .numericLiteral => "NumericLiteral"
  | .stringLiteral => "StringLiteral"
  | .punctuator mark => mark.name
  | .identifier => "Identifier"
  | .keyword word => word.name

def title : TokenKind → String
  | .endOfFile => "end of input"
  | .numericLiteral => "numeric literal"
  | .stringLiteral => "string literal"
  | .punctuator mark => mark.spelling
  | .identifier => "identifier"
  | .keyword word => word.spelling

def tokenClass : TokenKind → TokenClass
  | .endOfFile => .endOfInput
  | .numericLiteral => .numericLiteral
  | .stringLiteral => .stringLiteral
  | .punctuator mark => if mark.isOperator then .operator else .punctuation
  | .identifier => .identifier
  | .keyword _ => .keyword

def all : List TokenKind :=
  [.endOfFile, .numericLiteral, .stringLiteral] ++ Punctuator.all.map .punctuator ++
    [.identifier] ++ Keyword.all.map .keyword

theorem mem_all (kind : TokenKind) : kind ∈ all := by
  cases kind <;> simp [all, Punctuator.mem_all, Keyword.mem_all]

def spelling? : TokenKind → Option String
  | .punctuator mark => some mark.spelling
  | .keyword word => some word.spelling
  | _ => none

def punctuator? : TokenKind → Option Punctuator
  | .punctuator mark => some mark
  | _ => none

theorem punctuator?_eq_some_iff {kind : TokenKind} {mark : Punctuator} :
    kind.punctuator? = some mark ↔ kind = .punctuator mark := by
  cases kind <;> simp [punctuator?]

def keyword? : TokenKind → Option Keyword
  | .keyword word => some word
  | _ => none

/-- Whether a token of this kind may stand as the name of a member or a property. -/
def isName : TokenKind → Bool
  | .identifier | .keyword _ => true
  | _ => false

def startsType : TokenKind → Bool
  | .identifier | .numericLiteral | .stringLiteral => true
  | .punctuator mark =>
      (mark matches .openParen | .openBrace | .openBracket | .lessThan | .bar | .ampersand)
  | _ => false

def startsExpression : TokenKind → Bool
  | .identifier | .numericLiteral | .stringLiteral | .keyword .newWord => true
  | .punctuator mark => (mark matches .openParen | .openBrace | .openBracket) || mark.isUnary
  | _ => false

/-- Whether type arguments before a token of this kind read as such although no call follows. A
token that could begin an operand or continue a comparison makes the angle brackets comparisons
instead, unless a line break stands before it. -/
def followsTypeArguments (kind : TokenKind) (afterLineBreak : Bool) : Bool :=
  match kind with
  | .punctuator .lessThan | .punctuator .greaterThan | .punctuator .plus | .punctuator .minus =>
      false
  | _ =>
      afterLineBreak || (kind.punctuator?.bind Punctuator.precedence?).isSome ||
        !kind.startsExpression

end TokenKind

end TypedScript
