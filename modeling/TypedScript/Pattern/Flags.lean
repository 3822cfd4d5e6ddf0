import TypedScript.Pattern.Basic

/-!
Flags of search patterns, which say how the pattern is to be read, and the part of it that counts.
-/

namespace TypedScript.Pattern

structure Flags where
  ignoreCase : Bool
  /-- The anchors also match at the ends of lines. -/
  multiLine : Bool
  dotAll : Bool
  swapGreed : Bool
  returns : Bool
  /-- Space and comments in the pattern do not count. -/
  spaced : Bool
  /-- Which characters words, digits and space consist of, and which have a case. -/
  alphabet : Alphabet
deriving DecidableEq, Repr

namespace Flags

def initial : Flags :=
  ⟨false, false, false, false, false, false, .unicode⟩

def set? (flags : Flags) (value : Bool) : Char → Option Flags
  | 'i' => some { flags with ignoreCase := value }
  | 'm' => some { flags with multiLine := value }
  | 's' => some { flags with dotAll := value }
  | 'U' => some { flags with swapGreed := value }
  | 'R' => some { flags with returns := value }
  | 'x' => some { flags with spaced := value }
  | 'u' => some { flags with alphabet := if value then .unicode else .ascii }
  | _ => none

/-- Turns several flags on, and those after a hyphen off. No flag is named twice, and something
follows the hyphen. -/
def update? (flags : Flags) (written : List Char) : Option Flags :=
  if written.eraseDups.length != written.length || written.getLast? == some '-' then none
  else
    let on := written.takeWhile (· != '-')
    (on.foldlM (fun flags => set? flags true) flags).bind fun flags =>
      (written.drop (on.length + 1)).foldlM (fun flags => set? flags false) flags

/-! What the flags mean for sets of characters. -/

def fold (flags : Flags) (set : CharacterClass) : CharacterClass :=
  if flags.ignoreCase then
    match flags.alphabet with
    | .unicode => set.closeUnder foldPairs
    | .ascii => set.closeUnder asciiFoldPairs
  else set

/-- What a set, or its complement, stands for. The complement of an ASCII set would not be one,
so there is none. -/
def sign? (flags : Flags) (negated : Bool) (set : CharacterClass) : Option CharacterClass :=
  if negated && flags.alphabet == .ascii then none
  else some ((flags.fold set).complementIf negated)

def dot? (flags : Flags) : Option CharacterClass :=
  match flags.alphabet with
  | .ascii => none
  | .unicode =>
      if flags.dotAll then some .all
      else if flags.returns then some (CharacterClass.ofCodes [0xA, 0xD]).complement
      else some (CharacterClass.single '\n').complement

def lineStart (flags : Flags) : Assertion :=
  if !flags.multiLine then .textStart
  else if flags.returns then .lineStartAfterReturn
  else .lineStart

def lineEnd (flags : Flags) : Assertion :=
  if !flags.multiLine then .textEnd
  else if flags.returns then .lineEndBeforeReturn
  else .lineEnd

/-! Space and comments. A comment begins with a number sign and ends with the line. -/

/-- How many characters there are before the next one that counts; `comment` tells whether a
comment has begun. -/
def spaceWidth (comment : Bool) : List Char → Nat
  | [] => 0
  | char :: rest =>
      if comment then spaceWidth (char != '\n') rest + 1
      else if char == '#' then spaceWidth true rest + 1
      else if whiteSpace.contains char then spaceWidth false rest + 1
      else 0

def gap (flags : Flags) (chars : List Char) : Nat :=
  if flags.spaced then spaceWidth false chars else 0

/-- The characters that count, up to the first one where to stop, each with the number of
characters up to its end. -/
def counted (flags : Flags) (stop : Char → Bool) (chars : List Char) : List (Char × Nat) :=
  scan false 0 chars
where
  scan (comment : Bool) (before : Nat) : List Char → List (Char × Nat)
    | [] => []
    | char :: rest =>
        if flags.spaced && comment then scan (char != '\n') (before + 1) rest
        else if flags.spaced && char == '#' then scan true (before + 1) rest
        else if flags.spaced && whiteSpace.contains char then scan false (before + 1) rest
        else if stop char then [(char, before + 1)]
        else (char, before + 1) :: scan false (before + 1) rest

/-- The character that tells what a hyphen in a set means. A comment after the hyphen is not
passed: its first character counts. -/
def afterHyphen (flags : Flags) (chars : List Char) : Option Char :=
  if flags.spaced then
    match chars.filter (!whiteSpace.contains ·) with
    | '#' :: char :: _ => some char
    | ['#'] | [] => chars.head?
    | char :: _ => some char
  else chars.head?

end Flags

end TypedScript.Pattern
