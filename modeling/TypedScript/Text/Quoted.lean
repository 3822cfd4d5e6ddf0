import TypedScript.Text.GraphemeExtend
import TypedScript.Text.Unprintable

/-!
Characters and texts between quotes, as messages show them. What has no visible form of its own is
written by an escape.
-/

namespace TypedScript.Quoted

def hexadecimal (number : Nat) : List Char :=
  Nat.toDigits 16 number

/-- A character by its number: a backslash, `u`, and the code point in braces. -/
def byNumber (char : Char) : List Char :=
  ['\\', 'u', '\x7b'] ++ hexadecimal char.toNat ++ ['\x7d']

def escape (quote char : Char) : List Char :=
  if char == '\x00' then ['\\', '0']
  else if char == '\t' then ['\\', 't']
  else if char == '\r' then ['\\', 'r']
  else if char == '\n' then ['\\', 'n']
  else if char == '\\' || char == quote then ['\\', char]
  else if graphemeExtend.contains char || unprintable.contains char then byNumber char
  else [char]

def character (char : Char) : String :=
  String.ofList (['\''] ++ escape '\'' char ++ ['\''])

def text (content : String) : String :=
  String.ofList (['"'] ++ content.toList.flatMap (escape '"') ++ ['"'])

end TypedScript.Quoted
