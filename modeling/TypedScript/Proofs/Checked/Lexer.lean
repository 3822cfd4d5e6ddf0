import TypedScript.Proofs.Checked.Bytes
import TypedScript.Token.Recorded

/-!
A lexer that goes through the bytes of a text. It keeps the offset of the next character, and apart
from it the place up to which lines and columns are counted. Lines, columns and offsets are given in
32 bits. Whatever may go wrong on the way is checked: `none` stands for a slice that is cut within a
character, out of range or ends before it begins, for a line or a column that needs more than 32
bits, and for a loop that does not come nearer to its end.
-/

namespace TypedScript

structure ByteLexer where
  source : String
  keywords : KeywordSet
  offset : Nat
  line : Nat
  column : Nat
  counted : Nat
  done : Bool

namespace ByteLexer

/-! Looking and moving. -/

def bytes (lexer : ByteLexer) : List UInt8 :=
  lexer.source.toUTF8.toList

def left (lexer : ByteLexer) : Nat :=
  lexer.source.utf8ByteSize - lexer.offset

def rest (lexer : ByteLexer) : Option (List Char) :=
  Span.dropBytes lexer.offset lexer.source.toList

/-- The next character, unless the text is over. -/
def current (lexer : ByteLexer) : Option (Option Char) :=
  lexer.rest.map List.head?

def byteAt (lexer : ByteLexer) (ahead : Nat) : Option UInt8 :=
  lexer.bytes[lexer.offset + ahead]?

def advance (lexer : ByteLexer) (width : Nat) : ByteLexer :=
  { lexer with offset := lexer.offset + width }

def newLine (lexer : ByteLexer) (start : Nat) : Option ByteLexer := do
  let line ← sum? Numeral.bound32 lexer.line 1
  return { lexer with line := line, column := 1, counted := start }

/-- Counts up to `offset`, which must not lie before the place up to which lines are counted. -/
def positionAt (lexer : ByteLexer) (offset : Nat) : Option (Position × ByteLexer) := do
  let passed ← Span.chars? ⟨lexer.counted, offset⟩ lexer.source.toList
  let column ← sum? Numeral.bound32 lexer.column (low32 passed.length)
  return (⟨low32 offset, lexer.line, column⟩, { lexer with column := column, counted := offset })

/-! White space and comments. -/

def countTurn (bytes : List UInt8) :
    Nat × Bool × ByteLexer → Option (Nat × Bool × ByteLexer ⊕ Bool × ByteLexer)
  | (start, found, lexer) => do
      let rest ← bytesFrom? bytes start
      match ← LineBreak.search rest 0 with
      | none => return .inr (found, lexer)
      | some terminator =>
          let next := start + (terminator.offset + terminator.width)
          return .inl (next, true, ← lexer.newLine next)

def countLines (bytes : List UInt8) (start : Nat) (found : Bool) (lexer : ByteLexer) :
    Option (Bool × ByteLexer) :=
  loop (bytes.length - ·.1) (countTurn bytes) (start, found, lexer)

/-- How many bytes stand before the first line terminator. -/
def lineWidth (bytes : List UInt8) : Option Nat := do
  match ← LineBreak.search bytes 0 with
  | none => return bytes.length
  | some terminator => return terminator.offset

/-- Passes a carriage return and the line feed after it, or another line terminator. -/
def passTerminator (lexer : ByteLexer) (char : Char) : Option ByteLexer :=
  let passed := lexer.advance char.utf8Size
  let after := if char = '\r' ∧ passed.byteAt 0 = some 0x0a then passed.advance 1 else passed
  after.newLine after.offset

def triviaTurn : Bool × ByteLexer → Option (Bool × ByteLexer ⊕ Bool × ByteLexer)
  | (broke, lexer) => do
      match ← lexer.current with
      | none => return .inr (broke, lexer)
      | some char =>
          if isLineTerminator char then return .inl (true, ← lexer.passTerminator char)
          else if char = '/' ∧ lexer.byteAt 1 = some 0x2f then
            let width ← lineWidth (← bytesFrom? lexer.bytes lexer.offset)
            return .inl (broke, lexer.advance width)
          else if char = '/' ∧ lexer.byteAt 1 = some 0x2a then
            let body := lexer.offset + 2
            let stop := body + commentWidth (← bytesFrom? lexer.bytes body)
            let (ended, after) ← countLines (← bytesTo? lexer.bytes stop) body false lexer
            return .inl (broke || ended, { after with offset := stop })
          else if isBlank char then return .inl (broke, lexer.advance char.utf8Size)
          else return .inr (broke, lexer)

/-- Skips white space and comments, and says whether a line ended in them. -/
def skipTrivia (lexer : ByteLexer) (broke : Bool) : Option (Bool × ByteLexer) :=
  loop (·.2.left) triviaTurn (broke, lexer)

/-! Tokens. -/

def stringTurn (quote : Char) :
    Bool × ByteLexer → Option (Bool × ByteLexer ⊕ Option Bool × ByteLexer)
  | (escaped, lexer) => do
      match ← lexer.current with
      | none => return .inr (none, lexer)
      | some char =>
          if char = quote then return .inr (some escaped, lexer.advance 1)
          else if char = '\\' then
            let after := lexer.advance 1
            match ← after.current with
            | none => return .inr (none, after)
            | some next =>
                if isLineTerminator next then return .inl (true, ← after.passTerminator next)
                else return .inl (true, after.advance next.utf8Size)
          else if char = '\n' ∨ char = '\r' then return .inr (none, lexer)
          else return .inl (escaped, lexer.advance char.utf8Size)

def scanString (lexer : ByteLexer) (quote : Char) (escaped : Bool) :
    Option (Option Bool × ByteLexer) :=
  loop (·.2.left) (stringTurn quote) (escaped, lexer)

def nameTurn (lexer : ByteLexer) : Option (ByteLexer ⊕ ByteLexer) := do
  match ← lexer.current with
  | none => return .inr lexer
  | some char =>
      if isIdentifierPart char then return .inl (lexer.advance char.utf8Size) else return .inr lexer

def scanName (lexer : ByteLexer) : Option ByteLexer :=
  loop left nameTurn lexer

def digitTurn (lexer : ByteLexer) : Option (ByteLexer ⊕ ByteLexer) :=
  some (if (lexer.byteAt 0).any isDigitByte then .inl (lexer.advance 1) else .inr lexer)

def skipDigits (lexer : ByteLexer) : Option ByteLexer :=
  loop left digitTurn lexer

def scanNumber (lexer : ByteLexer) : Option ByteLexer := do
  let whole ← lexer.skipDigits
  if whole.byteAt 0 = some 0x2e ∧ (whole.byteAt 1).any isDigitByte then
    (whole.advance 1).skipDigits
  else return whole

def token (lexer : ByteLexer) (start : Nat) (position : Position) (broke : Bool) (kind : TokenKind)
    (hasEscape : Bool) : Option (Except LexicalError Token × ByteLexer) := do
  let text ← Span.slice? ⟨start, lexer.offset⟩ lexer.source
  return (.ok ⟨kind, text, position, low32 lexer.offset, broke, hasEscape⟩, lexer)

def number (lexer : ByteLexer) (position : Position) (broke : Bool) :
    Option (Except LexicalError Token × ByteLexer) := do
  let after ← lexer.scanNumber
  after.token lexer.offset position broke .numericLiteral false

def string (lexer : ByteLexer) (quote : Char) (position : Position) (broke : Bool) :
    Option (Except LexicalError Token × ByteLexer) := do
  match ← (lexer.advance 1).scanString quote false with
  | (none, after) => return (.error ⟨.unterminatedString, position⟩, after)
  | (some escaped, after) => after.token lexer.offset position broke .stringLiteral escaped

def name (lexer : ByteLexer) (position : Position) (broke : Bool) :
    Option (Except LexicalError Token × ByteLexer) := do
  let after ← lexer.scanName
  let text ← Span.chars? ⟨lexer.offset, after.offset⟩ after.source.toList
  after.token lexer.offset position broke (Scan.nameKind after.keywords text) false

def scanToken (lexer : ByteLexer) (position : Position) (broke : Bool) :
    Option (Except LexicalError Token × ByteLexer) := do
  match ← lexer.current with
  | none => return (.ok ⟨.endOfFile, "", position, low32 lexer.offset, broke, false⟩, lexer)
  | some first =>
      if first == '.' && (lexer.byteAt 1).any isDigitByte then lexer.number position broke
      else
        match Scan.mark? first (← lexer.rest).tail with
        | some (width, mark) =>
            (lexer.advance width).token lexer.offset position broke (.punctuator mark) false
        | none =>
            if Scan.isQuote first then lexer.string first position broke
            else if isDigit first then lexer.number position broke
            else if isIdentifierStart first then lexer.name position broke
            else return (.error ⟨.unexpectedCharacter first, position⟩, lexer)

def scan (lexer : ByteLexer) : Option (Except LexicalError Token × ByteLexer) := do
  let (broke, lexer) ← lexer.skipTrivia false
  let (position, lexer) ← lexer.positionAt lexer.offset
  lexer.scanToken position broke

/-! All tokens. -/

/-- Starts reading. A first line that begins with `#!` is skipped up to its terminator. -/
def ofSource (keywords : KeywordSet) (source : String) : Option ByteLexer := do
  let lexer : ByteLexer := ⟨source, keywords, 0, 1, 1, 0, false⟩
  if ['#', '!'].isPrefixOf source.toList then return lexer.advance (← lineWidth lexer.bytes)
  else return lexer

def next (lexer : ByteLexer) : Option (Option (Except LexicalError Token) × ByteLexer) := do
  if lexer.done then return (none, lexer)
  else
    let (result, after) ← lexer.scan
    let done :=
      match result with
      | .ok token => token.kind = .endOfFile
      | .error _ => true
    return (some result, { after with done := done })

/-- A use of a lexer. A scan goes on even after an error. -/
inductive Call where
  | scan
  | next
deriving DecidableEq, Repr

def answer (lexer : ByteLexer) : Call → Option (Option (Except LexicalError Token) × ByteLexer)
  | .scan => do
      let (result, after) ← lexer.scan
      return (some result, after)
  | .next => lexer.next

def answers (lexer : ByteLexer) : List Call → Option (List (Option (Except LexicalError Token)))
  | [] => some []
  | call :: calls => do
      let (result, after) ← lexer.answer call
      return result :: (← after.answers calls)

end ByteLexer

end TypedScript
