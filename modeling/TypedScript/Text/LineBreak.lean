/-!
Line terminators in a sequence of bytes: line feed, carriage return, the two together, and the
separators U+2028 and U+2029, whose bytes are E2 80 A8 and E2 80 A9.
-/

namespace TypedScript.LineBreak

/-- Where a line terminator stands and how many bytes it takes. -/
structure Found where
  offset : Nat
  width : Nat
deriving DecidableEq, Repr

def width? : List UInt8 → Option Nat
  | 0x0d :: 0x0a :: _ => some 2
  | 0x0a :: _ => some 1
  | 0x0d :: _ => some 1
  | 0xe2 :: 0x80 :: 0xa8 :: _ => some 3
  | 0xe2 :: 0x80 :: 0xa9 :: _ => some 3
  | _ => none

def find? : List UInt8 → Option Found
  | [] => none
  | byte :: rest =>
      match width? (byte :: rest) with
      | some width => some ⟨0, width⟩
      | none => (find? rest).map fun found => ⟨found.offset + 1, found.width⟩

/-- The offsets just after every line terminator of `bytes`, which begin at `offset`. -/
def starts (offset : Nat) : List UInt8 → List Nat
  | [] => []
  | 0x0d :: 0x0a :: rest => (offset + 2) :: starts (offset + 2) rest
  | byte :: rest =>
      match width? (byte :: rest) with
      | some width => (offset + width) :: starts (offset + 1) rest
      | none => starts (offset + 1) rest

end TypedScript.LineBreak
