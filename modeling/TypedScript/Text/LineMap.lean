import TypedScript.Text.LineBreak
import TypedScript.Text.Position
import TypedScript.Text.Span

/-!
From byte offsets back to lines and columns, for those who kept only a range.
-/

namespace TypedScript

/-- The offsets at which the lines of a text start, the first of them zero. -/
structure LineMap where
  starts : List Nat

namespace LineMap

def ofText (text : String) : LineMap :=
  ⟨0 :: LineBreak.starts 0 text.toUTF8.toList⟩

/-- The last line that starts at or before `offset`, counted from zero, and where it starts. -/
def lineAt (map : LineMap) (offset : Nat) : Nat × Nat :=
  let reached := map.starts.takeWhile (· ≤ offset)
  (reached.length - 1, reached.getLastD 0)

def line (map : LineMap) (offset : Nat) : Nat :=
  (map.lineAt offset).1

/-- The point of `text` at `offset`; the map must be that of `text`. An offset beyond the text
stands for its end. Inside a character the column counts bytes instead of characters. -/
def position (map : LineMap) (text : String) (offset : Nat) : Position :=
  let (line, start) := map.lineAt offset
  let stop := min offset text.utf8ByteSize
  let column :=
    match Span.chars? ⟨start, stop⟩ text.toList with
    | some chars => chars.length
    | none => stop - start
  ⟨offset, line + 1, column + 1⟩

end LineMap

end TypedScript
