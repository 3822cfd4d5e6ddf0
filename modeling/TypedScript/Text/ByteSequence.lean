/-!
How ranges of characters are written in UTF-8. A range of characters is cut into pieces, so that
the first bytes, the second bytes and so on of all characters of a piece are a range each, and
every way to choose one byte of each range gives a character of the piece.
-/

namespace TypedScript

structure ByteRange where
  first : Nat
  last : Nat
deriving DecidableEq, Repr

namespace ByteRange

def single (byte : Nat) : ByteRange :=
  ⟨byte, byte⟩

def following : ByteRange :=
  ⟨0x80, 0xBF⟩

end ByteRange

abbrev ByteSequence := List ByteRange

namespace ByteSequence

/-- How many numbers can be written in some bytes that follow a first one. Each holds six bits. -/
def capacity : Nat → Nat
  | 0 => 1
  | count + 1 => 64 * capacity count

/-- The sequences for the numbers from `first` to `last`, the least numbers first. A number is
written in a byte that begins at `mark` and `count` bytes that follow. -/
def ofNumbers (mark : Nat) : (count : Nat) → (first last : Nat) → List ByteSequence
  | 0, first, last => [[⟨mark + first, mark + last⟩]]
  | count + 1, first, last =>
      let size := capacity (count + 1)
      let lead := first / size
      let lastLead := last / size
      let under (lead low high : Nat) : List ByteSequence :=
        (ofNumbers 0x80 count low high).map fun rest => .single (mark + lead) :: rest
      if lead = lastLead then under lead (first % size) (last % size)
      else
        let cutFirst := first % size != 0
        let cutLast := last % size != size - 1
        let full := if cutFirst then lead + 1 else lead
        let stop := if cutLast then lastLead else lastLead + 1
        let middle : ByteSequence :=
          ⟨mark + full, mark + stop - 1⟩ :: List.replicate (count + 1) .following
        (if cutFirst then under lead (first % size) (size - 1) else []) ++
          (if full < stop then [middle] else []) ++
          (if cutLast then under lastLead 0 (last % size) else [])

/-- Characters that are written alike: `count` bytes follow the first, which begins at `mark`. -/
structure Band where
  first : Nat
  last : Nat
  mark : Nat
  count : Nat

def bands : List Band :=
  [⟨0x0, 0x7F, 0x0, 0⟩, ⟨0x80, 0x7FF, 0xC0, 1⟩, ⟨0x800, 0xD7FF, 0xE0, 2⟩,
    ⟨0xE000, 0xFFFF, 0xE0, 2⟩, ⟨0x10000, 0x10FFFF, 0xF0, 3⟩]

def ofRange (range : Nat × Nat) : List ByteSequence :=
  bands.flatMap fun band =>
    let first := max range.1 band.first
    let last := min range.2 band.last
    if first ≤ last then ofNumbers band.mark band.count first last else []

end ByteSequence

end TypedScript
