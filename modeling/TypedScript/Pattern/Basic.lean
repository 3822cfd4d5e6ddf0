import TypedScript.Pattern.CharacterClass

/-!
Search patterns: regular expressions with assertions about the place between two characters.

Patterns are put together in a simple form. Texts that follow one another are one text, a sequence
has no sequence for a part and a choice no choice for a branch; a choice between characters is a
set, and what all branches of a choice begin with comes before it.
-/

namespace TypedScript

structure Place where
  offset : Nat
  before : Option Char
  rest : List Char
deriving DecidableEq, Repr

/-- Which characters make up the words of a text. -/
inductive Alphabet where
  | unicode
  | ascii
deriving DecidableEq, Repr

namespace Alphabet

def isWord : Alphabet → Char → Bool
  | .unicode, char => isWordCharacter char
  | .ascii, char => char.toNat < 0x80 && isWordCharacter char

end Alphabet

namespace Place

/-- The place after a character that comes next and the characters `rest` that follow it. -/
def after (place : Place) (char : Char) (rest : List Char) : Place :=
  ⟨place.offset + char.utf8Size, some char, rest⟩

def next (place : Place) : Option Char :=
  place.rest.head?

def isAfterWord (alphabet : Alphabet) (place : Place) : Bool :=
  place.before.any alphabet.isWord

def isBeforeWord (alphabet : Alphabet) (place : Place) : Bool :=
  place.next.any alphabet.isWord

end Place

inductive Assertion where
  | textStart
  | textEnd
  | lineStart
  | lineEnd
  /-- The start of a line that a carriage return may end, too, alone or with a line feed. -/
  | lineStartAfterReturn
  | lineEndBeforeReturn
  | wordBoundary (alphabet : Alphabet)
  | noWordBoundary (alphabet : Alphabet)
  | wordStart (alphabet : Alphabet)
  | wordEnd (alphabet : Alphabet)
  | wordStartHalf (alphabet : Alphabet)
  | wordEndHalf (alphabet : Alphabet)
deriving DecidableEq, Repr

namespace Assertion

def holds (place : Place) : Assertion → Bool
  | .textStart => place.before.isNone
  | .textEnd => place.rest.isEmpty
  | .lineStart => place.before.all (· == '\n')
  | .lineEnd => place.next.all (· == '\n')
  | .lineStartAfterReturn =>
      place.before.all fun char => char == '\n' || (char == '\r' && place.next != some '\n')
  | .lineEndBeforeReturn =>
      place.next.all fun char => char == '\r' || (char == '\n' && place.before != some '\r')
  | .wordBoundary alphabet => place.isAfterWord alphabet != place.isBeforeWord alphabet
  | .noWordBoundary alphabet => place.isAfterWord alphabet == place.isBeforeWord alphabet
  | .wordStart alphabet => !place.isAfterWord alphabet && place.isBeforeWord alphabet
  | .wordEnd alphabet => place.isAfterWord alphabet && !place.isBeforeWord alphabet
  | .wordStartHalf alphabet => !place.isAfterWord alphabet
  | .wordEndHalf alphabet => !place.isBeforeWord alphabet

end Assertion

/-- How often something may stand in a row, and whether as often as possible comes first. -/
structure Repetition where
  least : Nat
  most : Option Nat
  greedy : Bool
deriving DecidableEq, Repr

inductive Pattern where
  | empty
  | literal (text : List Char)
  | character (set : CharacterClass)
  | assertion (condition : Assertion)
  | sequence (parts : List Pattern)
  /-- One of several patterns; the first ones come first. -/
  | choice (branches : List Pattern)
  | repetition (body : Pattern) (count : Repetition)
  | group (number : Nat) (body : Pattern)
deriving Repr

namespace Pattern

mutual

def same : Pattern → Pattern → Bool
  | .empty, .empty => true
  | .literal left, .literal right => left == right
  | .character left, .character right => left == right
  | .assertion left, .assertion right => left == right
  | .sequence left, .sequence right => sameAll left right
  | .choice left, .choice right => sameAll left right
  | .repetition left leftCount, .repetition right rightCount =>
      leftCount == rightCount && same left right
  | .group left leftBody, .group right rightBody => left == right && same leftBody rightBody
  | _, _ => false

def sameAll : List Pattern → List Pattern → Bool
  | [], [] => true
  | left :: lefts, right :: rights => same left right && sameAll lefts rights
  | _, _ => false

end

/-! What can be told about the texts that a pattern matches. -/

structure Traits where
  /-- Some set of characters in the pattern is empty. -/
  impossible : Bool
  onlyEmpty : Bool
  neverEmpty : Bool
  atStart : Bool
  atEnd : Bool
deriving DecidableEq, Repr

namespace Traits

def ofEmpty : Traits :=
  ⟨false, true, false, false, false⟩

def ofText : Traits :=
  ⟨false, false, true, false, false⟩

def ofSequence : List Traits → Traits
  | [] => ofEmpty
  | first :: rest =>
      let rest := ofSequence rest
      { impossible := first.impossible || rest.impossible
        onlyEmpty := first.onlyEmpty && rest.onlyEmpty
        neverEmpty := first.neverEmpty || rest.neverEmpty
        atStart := first.atStart || (first.onlyEmpty && rest.atStart)
        atEnd := rest.atEnd || (rest.onlyEmpty && first.atEnd) }

def ofChoice (branches : List Traits) : Traits where
  impossible := branches.any (·.impossible)
  onlyEmpty := branches.all (·.onlyEmpty)
  neverEmpty := branches.all (·.neverEmpty)
  atStart := branches.all (·.atStart)
  atEnd := branches.all (·.atEnd)

/-- Those of something that is repeated, which may be left out if it need not stand even once. -/
def repeated (count : Repetition) (body : Traits) : Traits :=
  if count.least = 0 then { body with neverEmpty := false, atStart := false, atEnd := false }
  else body

end Traits

mutual

def traits : Pattern → Traits
  | .empty => .ofEmpty
  | .literal _ => .ofText
  | .character set => { Traits.ofText with impossible := set.isEmpty }
  | .assertion condition =>
      { Traits.ofEmpty with
        atStart := condition == .textStart, atEnd := condition == .textEnd }
  | .sequence parts => .ofSequence (traitsAll parts)
  | .choice branches => .ofChoice (traitsAll branches)
  | .repetition body count => body.traits.repeated count
  | .group _ body => body.traits

def traitsAll : List Pattern → List Traits
  | [] => []
  | pattern :: rest => pattern.traits :: traitsAll rest

end

/-! Putting patterns together. -/

def ofClass (set : CharacterClass) : Pattern :=
  match set.only? with
  | some char => .literal [char]
  | none => .character set

def parts : Pattern → List Pattern
  | .empty => []
  | .sequence parts => parts
  | pattern => [pattern]

def link (part : Pattern) (others : List Pattern) : List Pattern :=
  match part, others with
  | .literal first, .literal second :: rest => .literal (first ++ second) :: rest
  | _, _ => part :: others

def ofSequence (patterns : List Pattern) : Pattern :=
  match (patterns.flatMap parts).foldr link [] with
  | [] => .empty
  | [part] => part
  | parts => .sequence parts

def branches : Pattern → List Pattern
  | .choice branches => branches
  | pattern => [pattern]

def character? : Pattern → Option CharacterClass
  | .literal [char] => some (.single char)
  | _ => none

def set? : Pattern → Option CharacterClass
  | .character set => some set
  | _ => none

def ofBranches (patterns : List Pattern) : Pattern :=
  match patterns.flatMap branches with
  | [] => .character .empty
  | [branch] => branch
  | branches =>
      match branches.mapM character? <|> branches.mapM set? with
      | some sets => ofClass (.ofRanges (sets.flatMap (·.ranges)))
      | none => .choice branches

def commonPart : List Pattern → List Pattern → List Pattern
  | left :: lefts, right :: rights =>
      if same left right then left :: commonPart lefts rights else []
  | _, _ => []

def commonStart (branches : List Pattern) : List Pattern :=
  match branches with
  | .sequence parts :: rest =>
      rest.foldl
        (fun common branch =>
          match branch with
          | .sequence parts => commonPart common parts
          | _ => [])
        parts
  | _ => []

def ofChoice (patterns : List Pattern) : Pattern :=
  match patterns.flatMap branches with
  | first :: second :: rest =>
      let branches := first :: second :: rest
      let common := commonStart branches
      if common.isEmpty then ofBranches branches
      else
        let ends := branches.map fun branch => ofSequence (branch.parts.drop common.length)
        ofSequence (common ++ [ofBranches ends])
  | branches => ofBranches branches

def ofRepetition (body : Pattern) (count : Repetition) : Pattern :=
  let count := if body.traits.onlyEmpty then
      { count with least := min count.least 1, most := some ((count.most.map (min 1)).getD 1) }
    else count
  if count.most = some 0 then .empty
  else if count.least = 1 && count.most = some 1 then body
  else .repetition body count

end Pattern

end TypedScript
