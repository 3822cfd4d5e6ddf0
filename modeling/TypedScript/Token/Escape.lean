import TypedScript.Text.Numeral

/-!
Backslash escapes in the bodies of strings.
-/

namespace TypedScript.Escape

/-- The character whose code point `hex` writes in hexadecimal; the letter of the escape and the
text as it stands if `hex` writes none. -/
def codePoint (letter : Char) (hex : List Char) : List Char :=
  match Numeral.read? 16 Numeral.bound32 hex with
  | none => letter :: hex
  | some code => if code.isValidChar then [Char.ofNat code] else letter :: hex

/-- What a backslash and one more character stand for: a control character, nothing when the
character ends a line, and otherwise the character itself. -/
def simple (char : Char) : List Char :=
  match char with
  | 'n' => ['\n']
  | 't' => ['\t']
  | 'r' => ['\r']
  | 'b' => ['\x08']
  | 'f' => ['\x0c']
  | 'v' => ['\x0b']
  | '0' => ['\x00']
  | '\r' | '\n' | '\u2028' | '\u2029' => []
  | other => [other]

/-- The text that the body of a string denotes. A lone backslash at the end denotes nothing. -/
def resolve : List Char → List Char
  | [] => []
  | '\\' :: [] => []
  | '\\' :: 'x' :: rest => codePoint 'x' (rest.take 2) ++ resolve (rest.drop 2)
  | '\\' :: 'u' :: '\x7b' :: rest =>
      codePoint 'u' (rest.takeWhile (· != '\x7d')) ++
        resolve ((rest.dropWhile (· != '\x7d')).drop 1)
  | '\\' :: 'u' :: rest => codePoint 'u' (rest.take 4) ++ resolve (rest.drop 4)
  | '\\' :: '\r' :: '\n' :: rest => resolve rest
  | '\\' :: char :: rest => simple char ++ resolve rest
  | char :: rest => char :: resolve rest
termination_by chars => chars.length
decreasing_by
  all_goals simp only [List.length_cons, List.length_drop]
  all_goals first
    | omega
    | have := (List.dropWhile_suffix (l := rest) (· != '\x7d')).length_le
      omega

def unescape (raw : String) : String :=
  String.ofList (resolve raw.toList)

end TypedScript.Escape
