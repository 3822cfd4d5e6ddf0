/-!
Punctuators: the marks and operators of the language.
-/

namespace TypedScript

/-- A token of fixed spelling that is no word. The first thirteen are punctuation marks, the
others operators. -/
inductive Punctuator where
  | openBrace
  | closeBrace
  | openParen
  | closeParen
  | openBracket
  | closeBracket
  | dot
  | dotDotDot
  | semicolon
  | comma
  | questionDot
  | colon
  | arrow
  | lessThan
  | greaterThan
  | lessThanEquals
  | greaterThanEquals
  | equalsEquals
  | exclamationEquals
  | equalsEqualsEquals
  | exclamationEqualsEquals
  | plus
  | minus
  | asterisk
  | slash
  | percent
  | ampersand
  | bar
  | caret
  | exclamation
  | tilde
  | ampersandAmpersand
  | barBar
  | question
  | questionQuestion
  | equals
  | plusEquals
  | minusEquals
  | asteriskEquals
  | slashEquals
deriving DecidableEq, Repr

namespace Punctuator

def spelling : Punctuator → String
  | .openBrace => "\x7b"
  | .closeBrace => "\x7d"
  | .openParen => "("
  | .closeParen => ")"
  | .openBracket => "["
  | .closeBracket => "]"
  | .dot => "."
  | .dotDotDot => "..."
  | .semicolon => ";"
  | .comma => ","
  | .questionDot => "?."
  | .colon => ":"
  | .arrow => "=>"
  | .lessThan => "<"
  | .greaterThan => ">"
  | .lessThanEquals => "<="
  | .greaterThanEquals => ">="
  | .equalsEquals => "=="
  | .exclamationEquals => "!="
  | .equalsEqualsEquals => "==="
  | .exclamationEqualsEquals => "!=="
  | .plus => "+"
  | .minus => "-"
  | .asterisk => "*"
  | .slash => "/"
  | .percent => "%"
  | .ampersand => "&"
  | .bar => "|"
  | .caret => "^"
  | .exclamation => "!"
  | .tilde => "~"
  | .ampersandAmpersand => "&&"
  | .barBar => "||"
  | .question => "?"
  | .questionQuestion => "??"
  | .equals => "="
  | .plusEquals => "+="
  | .minusEquals => "-="
  | .asteriskEquals => "*="
  | .slashEquals => "/="

def name : Punctuator → String
  | .openBrace => "OpenBraceToken"
  | .closeBrace => "CloseBraceToken"
  | .openParen => "OpenParenToken"
  | .closeParen => "CloseParenToken"
  | .openBracket => "OpenBracketToken"
  | .closeBracket => "CloseBracketToken"
  | .dot => "DotToken"
  | .dotDotDot => "DotDotDotToken"
  | .semicolon => "SemicolonToken"
  | .comma => "CommaToken"
  | .questionDot => "QuestionDotToken"
  | .colon => "ColonToken"
  | .arrow => "EqualsGreaterThanToken"
  | .lessThan => "LessThanToken"
  | .greaterThan => "GreaterThanToken"
  | .lessThanEquals => "LessThanEqualsToken"
  | .greaterThanEquals => "GreaterThanEqualsToken"
  | .equalsEquals => "EqualsEqualsToken"
  | .exclamationEquals => "ExclamationEqualsToken"
  | .equalsEqualsEquals => "EqualsEqualsEqualsToken"
  | .exclamationEqualsEquals => "ExclamationEqualsEqualsToken"
  | .plus => "PlusToken"
  | .minus => "MinusToken"
  | .asterisk => "AsteriskToken"
  | .slash => "SlashToken"
  | .percent => "PercentToken"
  | .ampersand => "AmpersandToken"
  | .bar => "BarToken"
  | .caret => "CaretToken"
  | .exclamation => "ExclamationToken"
  | .tilde => "TildeToken"
  | .ampersandAmpersand => "AmpersandAmpersandToken"
  | .barBar => "BarBarToken"
  | .question => "QuestionToken"
  | .questionQuestion => "QuestionQuestionToken"
  | .equals => "EqualsToken"
  | .plusEquals => "PlusEqualsToken"
  | .minusEquals => "MinusEqualsToken"
  | .asteriskEquals => "AsteriskEqualsToken"
  | .slashEquals => "SlashEqualsToken"

def punctuationMarks : List Punctuator := [
    .openBrace, .closeBrace, .openParen, .closeParen, .openBracket, .closeBracket, .dot,
    .dotDotDot, .semicolon, .comma, .questionDot, .colon, .arrow]

def operators : List Punctuator := [
    .lessThan, .greaterThan, .lessThanEquals, .greaterThanEquals, .equalsEquals,
    .exclamationEquals, .equalsEqualsEquals, .exclamationEqualsEquals, .plus, .minus, .asterisk,
    .slash, .percent, .ampersand, .bar, .caret, .exclamation, .tilde, .ampersandAmpersand,
    .barBar, .question, .questionQuestion, .equals, .plusEquals, .minusEquals, .asteriskEquals,
    .slashEquals]

def all : List Punctuator :=
  punctuationMarks ++ operators

theorem mem_all (mark : Punctuator) : mark ∈ all := by
  cases mark <;> decide

def isOperator (mark : Punctuator) : Bool :=
  operators.contains mark

def isAssignment : Punctuator → Bool
  | .equals | .plusEquals | .minusEquals | .asteriskEquals | .slashEquals => true
  | _ => false

def isUnary : Punctuator → Bool
  | .exclamation | .minus | .plus | .tilde => true
  | _ => false

def precedence? : Punctuator → Option Nat
  | .questionQuestion => some 1
  | .barBar => some 2
  | .ampersandAmpersand => some 3
  | .bar => some 4
  | .caret => some 5
  | .ampersand => some 6
  | .equalsEquals | .exclamationEquals | .equalsEqualsEquals | .exclamationEqualsEquals => some 7
  | .lessThan | .greaterThan | .lessThanEquals | .greaterThanEquals => some 8
  | .plus | .minus => some 9
  | .asterisk | .slash | .percent => some 10
  | _ => none

/-- The punctuators that the lexer looks for, longer ones before shorter ones. Greater-or-equal is
not among them: a closing angle bracket always stands alone, so that two of them may close two
lists of type arguments. -/
def lexed : List Punctuator := [
    .dotDotDot, .equalsEqualsEquals, .exclamationEqualsEquals, .questionDot, .lessThanEquals,
    .equalsEquals, .arrow, .exclamationEquals, .ampersandAmpersand, .barBar,
    .questionQuestion, .plusEquals, .minusEquals, .asteriskEquals, .slashEquals, .openBrace,
    .closeBrace, .openParen, .closeParen, .openBracket, .closeBracket, .dot, .semicolon, .comma,
    .colon, .lessThan, .greaterThan, .plus, .minus, .asterisk, .slash, .percent, .ampersand,
    .bar, .caret, .exclamation, .tilde, .question, .equals]

theorem lexed_longest_first :
    lexed.Pairwise fun earlier later => later.spelling.length ≤ earlier.spelling.length := by
  decide +kernel

end Punctuator

end TypedScript
