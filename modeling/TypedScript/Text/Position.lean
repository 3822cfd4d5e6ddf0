/-!
Points of a source text.
-/

namespace TypedScript

def byteLength (chars : List Char) : Nat :=
  chars.foldr (fun char total => char.utf8Size + total) 0

@[simp] theorem byteLength_nil : byteLength [] = 0 := rfl

@[simp] theorem byteLength_cons (char : Char) (chars : List Char) :
    byteLength (char :: chars) = char.utf8Size + byteLength chars := rfl

@[simp] theorem byteLength_append (left right : List Char) :
    byteLength (left ++ right) = byteLength left + byteLength right := by
  induction left with
  | nil => simp
  | cons char left induction =>
      rw [List.cons_append, byteLength_cons, byteLength_cons, induction, Nat.add_assoc]

theorem length_le_byteLength (chars : List Char) : chars.length ≤ byteLength chars := by
  induction chars with
  | nil => simp
  | cons char chars induction =>
      have positive := char.utf8Size_pos
      simp only [List.length_cons, byteLength_cons]
      omega

theorem utf8ByteSize_ofList (chars : List Char) :
    (String.ofList chars).utf8ByteSize = byteLength chars := by
  induction chars with
  | nil => rfl
  | cons char chars induction =>
      rw [String.ofList_cons, String.utf8ByteSize_append, induction, byteLength_cons,
        String.utf8ByteSize_singleton]

theorem byteLength_toList (source : String) : byteLength source.toList = source.utf8ByteSize := by
  rw [← utf8ByteSize_ofList, String.ofList_toList]

theorem byteLength_eq_zero {chars : List Char} : byteLength chars = 0 ↔ chars = [] := by
  cases chars with
  | nil => simp
  | cons char chars =>
      have positive := char.utf8Size_pos
      simp only [byteLength_cons, reduceCtorEq, iff_false]
      omega

/-- A byte offset with its line and column. Lines and columns count from one; a column counts
characters. -/
structure Position where
  offset : Nat
  line : Nat
  column : Nat
deriving DecidableEq, Repr

namespace Position

def origin : Position :=
  ⟨0, 1, 1⟩

def step (position : Position) (char : Char) : Position :=
  ⟨position.offset + char.utf8Size, position.line, position.column + 1⟩

def steps (position : Position) (chars : List Char) : Position :=
  chars.foldl step position

theorem steps_offset (position : Position) (chars : List Char) :
    (position.steps chars).offset = position.offset + byteLength chars := by
  induction chars generalizing position with
  | nil => rfl
  | cons char chars induction =>
      simp only [steps, List.foldl_cons, byteLength_cons] at induction ⊢
      rw [induction, step, Nat.add_assoc]

def newLine (position : Position) (width : Nat) : Position :=
  ⟨position.offset + width, position.line + 1, 1⟩

def text (position : Position) : String :=
  s!"{position.line}:{position.column}"

end Position

end TypedScript
