import TypedScript.Text.CaseFold
import TypedScript.Text.WordCharacter

/-!
Sets of characters, as a search pattern describes them. A set is kept as ranges of code points.
-/

namespace TypedScript

/-- A set of characters. Its ranges hold the first and the last code point each; they are in
ascending order and do not touch, and there are no surrogates in them. -/
structure CharacterClass where
  ranges : List (Nat × Nat)
deriving DecidableEq, Repr

namespace CharacterClass

/-- Puts a range before ranges that begin no earlier. Ranges that touch become one. -/
def link (range : Nat × Nat) : List (Nat × Nat) → List (Nat × Nat)
  | [] => [range]
  | next :: rest =>
      if next.1 ≤ range.2 + 1 then link (range.1, max range.2 next.2) rest
      else range :: next :: rest

def ofRanges (ranges : List (Nat × Nat)) : CharacterClass :=
  ⟨(ranges.mergeSort fun left right => left.1 ≤ right.1).foldr link []⟩

def ofCodes (codes : List Nat) : CharacterClass :=
  ofRanges (codes.map fun code => (code, code))

def empty : CharacterClass :=
  ⟨[]⟩

def range (first last : Char) : CharacterClass :=
  ofRanges [(first.toNat, last.toNat)]

def single (char : Char) : CharacterClass :=
  range char char

def holds (set : CharacterClass) (code : Nat) : Bool :=
  set.ranges.any fun range => range.1 ≤ code && code ≤ range.2

def contains (set : CharacterClass) (char : Char) : Bool :=
  set.holds char.toNat

def isEmpty (set : CharacterClass) : Bool :=
  set.ranges.isEmpty

def isAscii (set : CharacterClass) : Bool :=
  set.ranges.all fun range => range.2 < 0x80

def only? (set : CharacterClass) : Option Char :=
  match set.ranges with
  | [(first, last)] => if first = last then some (Char.ofNat first) else none
  | _ => none

/-! What can be done with sets. -/

def union (left right : CharacterClass) : CharacterClass :=
  ofRanges (left.ranges ++ right.ranges)

/-- The ranges of code points from `first` on that are left out by `ranges`. -/
def gaps (first : Nat) : List (Nat × Nat) → List (Nat × Nat)
  | [] => if first ≤ 0x10FFFF then [(first, 0x10FFFF)] else []
  | range :: rest =>
      if first < range.1 then (first, range.1 - 1) :: gaps (range.2 + 1) rest
      else gaps (range.2 + 1) rest

def complement (set : CharacterClass) : CharacterClass :=
  ⟨gaps 0 (ofRanges ((0xD800, 0xDFFF) :: set.ranges)).ranges⟩

def all : CharacterClass :=
  empty.complement

def intersection (left right : CharacterClass) : CharacterClass :=
  (left.complement.union right.complement).complement

def difference (left right : CharacterClass) : CharacterClass :=
  left.intersection right.complement

def symmetricDifference (left right : CharacterClass) : CharacterClass :=
  (left.difference right).union (right.difference left)

def complementIf (condition : Bool) (set : CharacterClass) : CharacterClass :=
  if condition then set.complement else set

/-- The characters that have the same fold as one of the set; `pairs` holds what folds, with its
fold. First come the folds of the set, then what folds to them. -/
def closeUnder (pairs : List (Nat × Nat)) (set : CharacterClass) : CharacterClass :=
  let folds := pairs.filter fun pair => set.holds pair.1
  let folded := set.union (ofCodes (folds.map (·.2)))
  let sources := pairs.filter fun pair => folded.holds pair.2
  folded.union (ofCodes (sources.map (·.1)))

/-! Sets that have a name. -/

def digit : CharacterClass :=
  ofRanges decimalDigits.ranges

def space : CharacterClass :=
  ofRanges whiteSpace.ranges

def word : CharacterClass :=
  (ofRanges ((0x200C, 0x200D) ::
    (xidStart.ranges ++ xidContinueOnly.ranges ++ wordOnly.ranges))).difference
    (ofRanges nameOnly.ranges)

/-- Ranges of ASCII characters, the first and the last of each. -/
def ofPairs (pairs : List (Char × Char)) : CharacterClass :=
  ofRanges (pairs.map fun (first, last) => (first.toNat, last.toNat))

def ofName? : String → Option CharacterClass
  | "alnum" => some (ofPairs [('0', '9'), ('A', 'Z'), ('a', 'z')])
  | "alpha" => some (ofPairs [('A', 'Z'), ('a', 'z')])
  | "ascii" => some (ofPairs [('\x00', '\x7f')])
  | "blank" => some (ofPairs [('\t', '\t'), (' ', ' ')])
  | "cntrl" => some (ofPairs [('\x00', '\x1f'), ('\x7f', '\x7f')])
  | "digit" => some (ofPairs [('0', '9')])
  | "graph" => some (ofPairs [('!', '~')])
  | "lower" => some (ofPairs [('a', 'z')])
  | "print" => some (ofPairs [(' ', '~')])
  | "punct" => some (ofPairs [('!', '/'), (':', '@'), ('[', '\x60'), ('\x7b', '~')])
  | "space" => some (ofPairs [('\t', '\r'), (' ', ' ')])
  | "upper" => some (ofPairs [('A', 'Z')])
  | "word" => some (ofPairs [('0', '9'), ('A', 'Z'), ('_', '_'), ('a', 'z')])
  | "xdigit" => some (ofPairs [('0', '9'), ('A', 'F'), ('a', 'f')])
  | _ => none

end CharacterClass

end TypedScript
