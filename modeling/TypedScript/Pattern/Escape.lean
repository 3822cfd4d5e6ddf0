import TypedScript.Pattern.Flags
import TypedScript.Text.Characters
import TypedScript.Text.Numeral

/-!
Escapes in search patterns. What reads one says how many characters it takes up after those that
told what it is.
-/

namespace TypedScript.Pattern

inductive Escape where
  | literal (char : Char)
  | characters (set : CharacterClass)
  | assertion (condition : Assertion)

namespace Escape

/-- The characters that mean something in a pattern, at least at some places. -/
def isSpecial (char : Char) : Bool :=
  "\\.+*?()|[]\x7b\x7d^$#&-~".toList.contains char

/-- Whether a character may be escaped to stand for itself: ASCII only, and no letter or digit. -/
def isPlain (char : Char) : Bool :=
  isSpecial char ||
    (isAscii char && !isAsciiLetter char && !isDigit char && char != '<' && char != '>')

/-- A character given by its number in hexadecimal: `digits` digits, or any number of them in
braces. Two digits alone stand for a byte, which is a character for itself only in ASCII. -/
def numbered? (flags : Flags) (digits : Nat) (chars : List Char) : Option (Escape × Nat) := do
  let counted := flags.counted (fun char => char != '\x7b' && (Numeral.digit? char).isNone) chars
  let (written, width, isByte) ← match counted with
    | ('\x7b', _) :: rest =>
        match rest.getLast? with
        | some ('\x7d', width) =>
            if rest.length = 1 then none else some (rest.dropLast, width, false)
        | _ => none
    | _ =>
        match counted[digits - 1]? with
        | some (_, width) => some (counted.take digits, width, digits = 2)
        | none => none
  let code ← Numeral.digits? 16 0 (written.map (·.1))
  if !code.isValidChar || (isByte && flags.alphabet == .ascii && 0x7F < code) then none
  else some (.literal (Char.ofNat code), width)

def boundary? (alphabet : Alphabet) : String → Option Assertion
  | "start" => some (.wordStart alphabet)
  | "end" => some (.wordEnd alphabet)
  | "start-half" => some (.wordStartHalf alphabet)
  | "end-half" => some (.wordEndHalf alphabet)
  | _ => none

/-- What follows `\b`. Braces with a word name a kind of boundary; otherwise they count
repetitions. -/
def wordBoundary? (flags : Flags) (chars : List Char) : Option (Escape × Nat) :=
  match chars with
  | '\x7b' :: rest =>
      let isLetter (char : Char) : Bool := isAsciiLetter char || char == '-'
      let counted := flags.counted (!isLetter ·) rest
      let word := counted.takeWhile fun (char, _) => isLetter char
      match word, counted[word.length]? with
      | [], none => none
      | [], some _ => some (.assertion (.wordBoundary flags.alphabet), 0)
      | _, some ('\x7d', width) =>
          (boundary? flags.alphabet (String.ofList (word.map (·.1)))).map fun condition =>
            (.assertion condition, width + 1)
      | _, _ => none
  | _ => some (.assertion (.wordBoundary flags.alphabet), 0)

def characters? (flags : Flags) (negated : Bool) (unicode : CharacterClass) (ascii : String) :
    Option (Escape × Nat) :=
  match flags.alphabet with
  | .unicode => some (.characters (unicode.complementIf negated), 0)
  | .ascii =>
      if negated then none
      else (CharacterClass.ofName? ascii).map fun set => (.characters set, 0)

def read? (flags : Flags) (char : Char) (rest : List Char) : Option (Escape × Nat) :=
  match char with
  | 'x' => numbered? flags 2 rest
  | 'u' => numbered? flags 4 rest
  | 'U' => numbered? flags 8 rest
  | 'd' => characters? flags false .digit "digit"
  | 's' => characters? flags false .space "space"
  | 'w' => characters? flags false .word "word"
  | 'D' => characters? flags true .digit "digit"
  | 'S' => characters? flags true .space "space"
  | 'W' => characters? flags true .word "word"
  | 'a' => some (.literal '\x07', 0)
  | 'f' => some (.literal '\x0c', 0)
  | 't' => some (.literal '\t', 0)
  | 'n' => some (.literal '\n', 0)
  | 'r' => some (.literal '\r', 0)
  | 'v' => some (.literal '\x0b', 0)
  | 'A' => some (.assertion .textStart, 0)
  | 'z' => some (.assertion .textEnd, 0)
  | 'b' => wordBoundary? flags rest
  | 'B' => some (.assertion (.noWordBoundary flags.alphabet), 0)
  | '<' => some (.assertion (.wordStart flags.alphabet), 0)
  | '>' => some (.assertion (.wordEnd flags.alphabet), 0)
  | _ => if isPlain char then some (.literal char, 0) else none

end Escape

end TypedScript.Pattern
