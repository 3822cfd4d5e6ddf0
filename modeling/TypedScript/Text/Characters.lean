import TypedScript.Text.XidStart
import TypedScript.Text.XidContinue

/-!
The character classes that the lexer goes by.
-/

namespace TypedScript

def isBlank (char : Char) : Bool :=
  char == ' ' || char == '\t' || char == '\x0b' || char == '\x0c' || char == '\u00a0' ||
    char == '\u1680' || ('\u2000' ≤ char && char ≤ '\u200b') || char == '\u202f' ||
    char == '\u205f' || char == '\u3000' || char == '\ufeff'

/-- The characters that end a line. A carriage return and the line feed after it end one line
together. -/
def isLineTerminator (char : Char) : Bool :=
  char == '\n' || char == '\r' || char == '\u2028' || char == '\u2029'

def isAscii (char : Char) : Bool :=
  char.toNat < 0x80

def isDigit (char : Char) : Bool :=
  '0' ≤ char && char ≤ '9'

def isAsciiLetter (char : Char) : Bool :=
  ('a' ≤ char && char ≤ 'z') || ('A' ≤ char && char ≤ 'Z')

def isIdentifierStart (char : Char) : Bool :=
  isAsciiLetter char || char == '_' || char == '$' ||
    (!isAscii char && xidStart.contains char)

/-- Whether a character may continue a name. Beyond those that may begin one these are digits,
combining marks and the two join controls. -/
def isIdentifierPart (char : Char) : Bool :=
  isAsciiLetter char || isDigit char || char == '_' || char == '$' ||
    (!isAscii char && (xidStart.contains char || xidContinueOnly.contains char ||
      char == '\u200c' || char == '\u200d'))

theorem isIdentifierPart_of_start {char : Char} (start : isIdentifierStart char = true) :
    isIdentifierPart char = true := by
  unfold isIdentifierStart at start
  unfold isIdentifierPart
  grind

end TypedScript
