import TypedScript.Text.Characters
import TypedScript.Text.Numeral

/-!
The tokens of JSON texts. What is written in a text need not have a value of its own: a string may
hold half a surrogate pair, and a number may have a sign, a fraction or an exponent. Such tokens are
accepted; only those who need their value refuse them.
-/

namespace TypedScript

/-- A unit of a string: a character, or a UTF-16 code unit that is given by its number. -/
inductive JsonUnit where
  | character (char : Char)
  | codeUnit (value : Nat)
deriving DecidableEq, Repr

namespace JsonUnit

def isHigh (value : Nat) : Bool :=
  0xD800 ≤ value && value < 0xDC00

def isLow (value : Nat) : Bool :=
  0xDC00 ≤ value && value < 0xE000

def pair (high low : Nat) : Char :=
  Char.ofNat (0x10000 + (high - 0xD800) * 0x400 + (low - 0xDC00))

/-- The characters of a string, unless it holds half a surrogate pair. -/
def decode? : List JsonUnit → Option (List Char)
  | [] => some []
  | .character char :: rest => (decode? rest).map (char :: ·)
  | .codeUnit first :: rest =>
      if isHigh first then
        match rest with
        | .codeUnit second :: rest =>
            if isLow second then (decode? rest).map (pair first second :: ·) else none
        | _ => none
      else if isLow first then none
      else (decode? rest).map (Char.ofNat first :: ·)

end JsonUnit

inductive JsonToken where
  | openBracket
  | closeBracket
  | openBrace
  | closeBrace
  | comma
  | colon
  | null
  | boolean (value : Bool)
  /-- A number, with its value if it is written in digits only. -/
  | number (natural : Option Nat)
  | string (units : List JsonUnit)
deriving DecidableEq, Repr

namespace JsonToken

/-! Scanners give what they found and how many characters it takes up. -/

def escaped? : Char → Option Char
  | '"' => some '"'
  | '\\' => some '\\'
  | '/' => some '/'
  | 'b' => some '\x08'
  | 'f' => some '\x0c'
  | 'n' => some '\n'
  | 'r' => some '\r'
  | 't' => some '\t'
  | _ => none

/-- The units of a string up to its closing quote; `chars` begins right after the opening one. -/
def units? : List Char → Option (List JsonUnit × Nat)
  | [] => none
  | '"' :: _ => some ([], 1)
  | '\\' :: 'u' :: first :: second :: third :: fourth :: rest => do
      let value ← Numeral.digits? 16 0 [first, second, third, fourth]
      let (units, width) ← units? rest
      return (.codeUnit value :: units, width + 6)
  | '\\' :: letter :: rest => do
      let char ← escaped? letter
      let (units, width) ← units? rest
      return (.character char :: units, width + 2)
  | char :: rest =>
      if char.toNat < 0x20 then none
      else do
        let (units, width) ← units? rest
        return (.character char :: units, width + 1)

def digitCount? (chars : List Char) : Option Nat :=
  let digits := chars.takeWhile isDigit
  if digits.isEmpty then none else some digits.length

def fractionWidth? : List Char → Option Nat
  | '.' :: rest => (digitCount? rest).map (· + 1)
  | _ => some 0

def exponentWidth? : List Char → Option Nat
  | [] => some 0
  | mark :: rest =>
      if mark == 'e' || mark == 'E' then
        match rest with
        | '+' :: rest | '-' :: rest => (digitCount? rest).map (· + 2)
        | _ => (digitCount? rest).map (· + 1)
      else some 0

def number? (chars : List Char) : Option (JsonToken × Nat) := do
  let digits := chars.takeWhile isDigit
  if digits.isEmpty || (digits.head? == some '0' && digits.length != 1) then none
  let fraction ← fractionWidth? (chars.drop digits.length)
  let exponent ← exponentWidth? (chars.drop (digits.length + fraction))
  let natural := if fraction + exponent = 0 then Numeral.digits? 10 0 digits else none
  return (.number natural, digits.length + fraction + exponent)

def first? : List Char → Option (JsonToken × Nat)
  | '[' :: _ => some (.openBracket, 1)
  | ']' :: _ => some (.closeBracket, 1)
  | '\x7b' :: _ => some (.openBrace, 1)
  | '\x7d' :: _ => some (.closeBrace, 1)
  | ',' :: _ => some (.comma, 1)
  | ':' :: _ => some (.colon, 1)
  | 'n' :: 'u' :: 'l' :: 'l' :: _ => some (.null, 4)
  | 't' :: 'r' :: 'u' :: 'e' :: _ => some (.boolean true, 4)
  | 'f' :: 'a' :: 'l' :: 's' :: 'e' :: _ => some (.boolean false, 5)
  | '"' :: rest => (units? rest).map fun (units, width) => (.string units, width + 1)
  | '-' :: rest => (number? rest).map fun (_, width) => (.number none, width + 1)
  | chars => number? chars

def isSpace (char : Char) : Bool :=
  char == ' ' || char == '\n' || char == '\t' || char == '\r'

def lex? : List Char → Option (List JsonToken)
  | [] => some []
  | char :: rest =>
      if isSpace char then lex? rest
      else
        match first? (char :: rest) with
        | none => none
        | some (token, width) => (lex? (rest.drop (width - 1))).map (token :: ·)
termination_by chars => chars.length
decreasing_by
  · simp
  · simp only [List.length_drop, List.length_cons]
    omega

end JsonToken

end TypedScript
