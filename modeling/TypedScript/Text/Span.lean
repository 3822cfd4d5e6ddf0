/-!
Ranges of source text. Offsets count the bytes of the text's UTF-8 form.
-/

namespace TypedScript

/-- The half-open range of bytes from `start` to `stop`: a token, or a node of the tree. -/
structure Span where
  start : Nat
  stop : Nat
deriving DecidableEq, Repr

namespace Span

def length (span : Span) : Nat :=
  span.stop - span.start

def isEmpty (span : Span) : Bool :=
  span.start == span.stop

def contains (outer inner : Span) : Bool :=
  outer.start ≤ inner.start && inner.stop ≤ outer.stop

theorem contains_eq_true {outer inner : Span} :
    outer.contains inner = true ↔ outer.start ≤ inner.start ∧ inner.stop ≤ outer.stop := by
  simp [contains]

/-- What is left of a text after its first `count` bytes, unless that cuts a character or goes
beyond the end. -/
def dropBytes : Nat → List Char → Option (List Char)
  | 0, chars => some chars
  | _ + 1, [] => none
  | count + 1, char :: rest =>
      if char.utf8Size ≤ count + 1 then dropBytes (count + 1 - char.utf8Size) rest else none
termination_by structural _ chars => chars

/-- The first `count` bytes of a text, unless that cuts a character or goes beyond the end. -/
def takeBytes : Nat → List Char → Option (List Char)
  | 0, _ => some []
  | _ + 1, [] => none
  | count + 1, char :: rest =>
      if char.utf8Size ≤ count + 1 then
        (takeBytes (count + 1 - char.utf8Size) rest).map (char :: ·)
      else
        none
termination_by structural _ chars => chars

/-- The characters that a range covers, if its ends are in order, within the text and between
characters. -/
def chars? (span : Span) (source : List Char) : Option (List Char) :=
  if span.start ≤ span.stop then (dropBytes span.start source).bind (takeBytes span.length)
  else none

def slice? (span : Span) (source : String) : Option String :=
  (span.chars? source.toList).map String.ofList

def text (span : Span) : String :=
  s!"{span.start}..{span.stop}"

end Span

end TypedScript
