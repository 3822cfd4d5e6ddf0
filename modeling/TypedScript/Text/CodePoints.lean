/-!
Sets of code points, given as ranges. Tables of character properties have this form.
-/

namespace TypedScript

/-- A set of code points. A pair holds the first and the last code point of a range. -/
structure CodePoints where
  ranges : List (Nat × Nat)

namespace CodePoints

def contains (points : CodePoints) (char : Char) : Bool :=
  points.ranges.any fun range => range.1 ≤ char.toNat && char.toNat ≤ range.2

end CodePoints

end TypedScript
