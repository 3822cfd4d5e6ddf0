import TypedScript.Proofs.Checked.Ranges
import TypedScript.Proofs.Checked.Space

/-!
A line map over the bytes of a text, with every slice, index, sum and difference checked. Main
statement: for a text with one byte less than 32 bits could count nothing fails, at whatever offset
the map is asked, and the map shows the point that the lines of the text give.
-/

namespace TypedScript

/-! The map. -/

namespace LineMap

/-- Adds the offset after the first line terminator that stands at or after `start`. -/
def startsTurn (bytes : List UInt8) : Nat × List Nat → Option (Nat × List Nat ⊕ List Nat)
  | (start, starts) => do
      match ← LineBreak.search (← bytesFrom? bytes start) 0 with
      | none => return .inr starts
      | some terminator =>
          let next := start + (terminator.offset + terminator.width)
          return .inl (next, starts ++ [low32 next])

def startsFrom? (bytes : List UInt8) (start : Nat) (starts : List Nat) : Option (List Nat) :=
  loop (bytes.length - ·.1) (startsTurn bytes) (start, starts)

def ofText? (text : String) : Option LineMap := do
  return ⟨← startsFrom? text.toUTF8.toList 0 [0]⟩

/-- The line that holds `offset`, counted from zero: the one that starts there, or the one before
the place where such a start would have to stand among the others. -/
def line? (map : LineMap) (offset : Nat) : Option Nat :=
  match map.starts.findIdx? (· == offset) with
  | some line => some (low32 line)
  | none => (subtract? (map.starts.countP (· < offset)) 1).map low32

def position? (map : LineMap) (text : String) (offset : Nat) : Option Position := do
  let line ← map.line? offset
  let start ← map.starts[line]?
  let stop := min offset text.utf8ByteSize
  let column :=
    match Span.chars? ⟨start, stop⟩ text.toList with
    | some chars => chars.length
    | none => stop - start
  return ⟨offset, ← sum? Numeral.bound32 line 1, ← sum? Numeral.bound32 (low32 column) 1⟩

end LineMap

/-! Where lines start. -/

theorem lineStarts_of_oneLine {chars : List Char}
    (oneLine : ∀ char ∈ chars, isLineTerminator char = false) (offset : Nat) :
    lineStarts offset chars = [] := by
  induction chars generalizing offset with
  | nil => rfl
  | cons char chars induction =>
      rw [List.forall_mem_cons] at oneLine
      have alone : ∀ later, char = '\r' → chars ≠ '\n' :: later := by
        rintro later rfl
        cases oneLine.1
      rw [lineStarts_cons alone, oneLine.1, induction oneLine.2]
      rfl

theorem lineStarts_lineEnd {line terminator rest : List Char}
    (oneLine : ∀ char ∈ line, isLineTerminator char = false) (ends : LineEnd terminator rest)
    (offset : Nat) :
    lineStarts offset (line ++ (terminator ++ rest)) =
      (offset + (byteLength line + byteLength terminator)) ::
        lineStarts (offset + (byteLength line + byteLength terminator)) rest := by
  have uncut : Uncut line (terminator ++ rest) := Uncut.of_last fun isReturn => by
    cases oneLine _ (List.mem_of_getLast? isReturn)
  rw [lineStarts_append uncut, lineStarts_of_oneLine oneLine, List.nil_append, ← Nat.add_assoc]
  cases ends with
  | both => rfl
  | single terminates alone =>
      rw [List.singleton_append, lineStarts_cons, if_pos terminates]
      · rfl
      · rintro later isReturn rfl
        exact alone isReturn rfl

theorem length_lineStarts_le (offset : Nat) (chars : List Char) :
    (lineStarts offset chars).length ≤ byteLength chars := by
  fun_induction lineStarts offset chars with
  | case1 => exact Nat.le_refl 0
  | case2 offset rest induction =>
      have newline : '\n'.utf8Size = 1 := rfl
      simp only [List.length_cons, byteLength_cons]
      omega
  | case3 offset char rest _ induction =>
      have positive := char.utf8Size_pos
      simp only [List.length_append, byteLength_cons]
      split
      · rw [List.length_singleton]
        omega
      · rw [List.length_nil]
        omega

theorem lineStarts_ordered (offset : Nat) (chars : List Char) :
    (offset :: lineStarts offset chars).Pairwise (· < ·) := by
  refine List.pairwise_cons.mpr ⟨fun start member =>
    (lineStarts_bounds offset chars start member).1, ?_⟩
  fun_induction lineStarts offset chars with
  | case1 => exact .nil
  | case2 offset rest induction =>
      exact List.pairwise_cons.mpr
        ⟨fun start member => (lineStarts_bounds _ rest start member).1, induction⟩
  | case3 offset char rest _ induction =>
      split
      · exact List.pairwise_cons.mpr
          ⟨fun start member => (lineStarts_bounds _ rest start member).1, induction⟩
      · exact induction

namespace LineMap

theorem startsFrom?_eq (before chars : List Char) (starts : List Nat)
    (small : byteLength before + byteLength chars < Numeral.bound32) :
    startsFrom? (encoded (before ++ chars)) (byteLength before) starts =
      some (starts ++ lineStarts (byteLength before) chars) := by
  induction size : chars.length using Nat.strongRecOn generalizing before chars starts with
  | ind size induction =>
      rw [startsFrom?, loop_turn, startsTurn, bytesFrom?_encoded]
      simp only [Option.bind_eq_bind, Option.bind_some]
      rcases LineBreak.search_encoded chars with ⟨none, oneLine⟩ |
        ⟨line, terminator, later, rfl, oneLine, ends, shorter, found⟩
      · rw [none, lineStarts_of_oneLine oneLine, List.append_nil]
        rfl
      · have place : byteLength before + (byteLength line + byteLength terminator) =
            byteLength (before ++ line ++ terminator) := by
          simp only [byteLength_append]
          omega
        have bytes : before ++ (line ++ (terminator ++ later)) =
            before ++ line ++ terminator ++ later := by
          simp only [List.append_assoc]
        have within : byteLength (before ++ line ++ terminator) + byteLength later <
            Numeral.bound32 := by
          simp only [byteLength_append] at small ⊢
          omega
        have next := induction later.length (size ▸ shorter) (before ++ line ++ terminator) later
          (starts ++ [byteLength (before ++ line ++ terminator)]) within rfl
        rw [found, bytes, lineStarts_lineEnd oneLine ends, place, List.append_cons]
        simp only [Option.bind_some, place]
        rw [low32_of_lt (by omega)]
        refine (if_pos ?_).trans next
        have positive := ends.byteLength_pos
        simp only [length_encoded, byteLength_append]
        omega

theorem ofText?_eq {text : String} (small : text.utf8ByteSize < Numeral.bound32) :
    ofText? text = some (ofText text) := by
  have bytes : text.toUTF8.toList = encoded ([] ++ text.toList) := toUTF8_toList text
  have starts : startsFrom? text.toUTF8.toList 0 [0] = some (0 :: lineStarts 0 text.toList) := by
    rw [bytes]
    refine startsFrom?_eq [] text.toList [0] ?_
    rw [byteLength_toList, byteLength_nil]
    omega
  rw [ofText?, starts]
  exact congrArg (some ∘ LineMap.mk) (starts_ofText text).symm

/-! The line of an offset. -/

/-- Numbers in order, parted at a bound: the last that the bound reaches stands between those before
it and those beyond the bound. -/
theorem split_takeWhile_le {numbers : List Nat} {bound : Nat} (ordered : numbers.Pairwise (· < ·))
    (reached : numbers.takeWhile (· ≤ bound) ≠ []) :
    ∃ earlier last later, numbers = earlier ++ last :: later ∧
      numbers.takeWhile (· ≤ bound) = earlier ++ [last] ∧
      (∀ other ∈ earlier, other < last) ∧ last ≤ bound ∧ ∀ other ∈ later, bound < other := by
  have whole := List.takeWhile_append_dropWhile (p := (· ≤ bound)) (l := numbers)
  have all : ∀ number ∈ numbers.takeWhile (· ≤ bound), decide (number ≤ bound) = true :=
    List.all_eq_true.mp List.all_takeWhile
  rcases List.eq_nil_or_concat (numbers.takeWhile (· ≤ bound)) with empty |
    ⟨earlier, last, taken⟩
  · exact absurd empty reached
  rw [List.concat_eq_append] at taken
  rw [taken] at whole all
  have split : numbers = earlier ++ last :: numbers.dropWhile (· ≤ bound) := by
    rw [List.append_assoc] at whole
    exact whole.symm
  rw [split, List.pairwise_append] at ordered
  rcases ordered with ⟨_, laterOrdered, apart⟩
  refine ⟨earlier, last, _, split, taken, ?_, ?_, ?_⟩
  · exact fun other member => apart other member last (List.mem_cons_self ..)
  · exact of_decide_eq_true (all last (by simp))
  · cases left : numbers.dropWhile (· ≤ bound) with
    | nil => simp
    | cons next later =>
        have beyond : ¬decide (next ≤ bound) = true := by
          have failing := List.head_dropWhile_not (p := (· ≤ bound)) (l := numbers) (by simp [left])
          simp only [left, List.head_cons] at failing
          simp [failing]
        rw [left] at laterOrdered
        have nextFirst := (List.pairwise_cons.mp (List.pairwise_cons.mp laterOrdered).2).1
        rw [decide_eq_true_eq] at beyond
        refine List.forall_mem_cons.mpr ⟨by omega, fun other member => ?_⟩
        have order := nextFirst other member
        omega

theorem exists_line (text : String) (offset : Nat) :
    ∃ earlier start later, (ofText text).starts = earlier ++ start :: later ∧
      (∀ other ∈ earlier, other < start) ∧ start ≤ offset ∧ (∀ other ∈ later, offset < other) ∧
      (ofText text).lineAt offset = (earlier.length, start) := by
  have ordered : (ofText text).starts.Pairwise (· < ·) := by
    rw [starts_ofText]
    exact lineStarts_ordered 0 text.toList
  have reached : (ofText text).starts.takeWhile (· ≤ offset) ≠ [] := by
    rw [starts_ofText, List.takeWhile_cons_of_pos (by simp)]
    simp
  rcases split_takeWhile_le ordered reached with
    ⟨earlier, start, later, split, taken, before, within, beyond⟩
  refine ⟨earlier, start, later, split, before, within, beyond, ?_⟩
  rw [lineAt, taken]
  simp

/-- The search for a line never comes out before the first one. -/
theorem line?_eq {text : String} (small : text.utf8ByteSize < Numeral.bound32) (offset : Nat) :
    (ofText text).line? offset = some ((ofText text).line offset) := by
  rcases exists_line text offset with ⟨earlier, start, later, split, before, within, beyond, place⟩
  have fits : low32 earlier.length = earlier.length := by
    have count := length_lineStarts_le 0 text.toList
    have lines := congrArg List.length ((starts_ofText text).symm.trans split)
    rw [byteLength_toList] at count
    simp only [List.length_cons, List.length_append] at lines
    exact low32_of_lt (by omega)
  rw [line, place, line?, split]
  by_cases atStart : start = offset
  · have found : (earlier ++ start :: later).findIdx? (· == offset) = some earlier.length := by
      rw [List.findIdx?_append, List.findIdx?_eq_none_iff.mpr fun other member => ?_]
      · simp [atStart, List.findIdx?_cons]
      · have order := before other member
        exact beq_false_of_ne (by omega)
    rw [found]
    dsimp only
    rw [fits]
  · have absent : (earlier ++ start :: later).findIdx? (· == offset) = none := by
      rw [List.findIdx?_eq_none_iff]
      refine List.forall_mem_append.mpr ⟨fun other member => ?_,
        List.forall_mem_cons.mpr ⟨beq_false_of_ne atStart, fun other member => ?_⟩⟩
      · have order := before other member
        exact beq_false_of_ne (by omega)
      · have order := beyond other member
        exact beq_false_of_ne (by omega)
    have smaller : (earlier ++ start :: later).countP (· < offset) = earlier.length + 1 := by
      have first : earlier.countP (· < offset) = earlier.length :=
        List.countP_eq_length.mpr fun other member => by
          have order := before other member
          exact decide_eq_true (by omega)
      have last : later.countP (· < offset) = 0 :=
        List.countP_eq_zero.mpr fun other member => by
          have order := beyond other member
          simp only [decide_eq_true_eq]
          omega
      have reached : decide (start < offset) = true := decide_eq_true (by omega)
      rw [List.countP_append, List.countP_cons, first, last, reached]
      rfl
    rw [absent]
    dsimp only
    rw [smaller, subtract?_of_le (Nat.le_add_left 1 _), Nat.add_sub_cancel, Option.map_some, fits]

theorem line_le (text : String) (offset : Nat) :
    (ofText text).line offset ≤ text.utf8ByteSize := by
  rcases exists_line text offset with ⟨earlier, start, later, split, _, _, _, place⟩
  have count := length_lineStarts_le 0 text.toList
  have lines := congrArg List.length ((starts_ofText text).symm.trans split)
  rw [byteLength_toList] at count
  simp only [List.length_cons, List.length_append] at lines
  rw [line, place]
  dsimp only
  omega

theorem position?_eq {text : String} (small : text.utf8ByteSize + 1 < Numeral.bound32)
    (offset : Nat) :
    (ofText text).position? text offset = some ((ofText text).position text offset) := by
  rcases exists_line text offset with ⟨earlier, start, later, split, before, within, beyond, place⟩
  have lineIs : (ofText text).line offset = earlier.length := by rw [line, place]
  have present : (ofText text).starts[earlier.length]? = some start := by
    rw [split]
    simp
  have fewLines := line_le text offset
  rw [lineIs] at fewLines
  rw [position?, line?_eq (Nat.lt_of_succ_lt small), lineIs]
  simp only [Option.bind_eq_bind, Option.bind_some, present, position, place]
  rw [sum?_of_lt (by omega), Option.bind_some]
  have atMost : min offset text.utf8ByteSize - start ≤ text.utf8ByteSize := by omega
  cases covered : Span.chars? ⟨start, min offset text.utf8ByteSize⟩ text.toList with
  | none =>
      dsimp only
      rw [low32_of_lt (by omega), sum?_of_lt (by omega)]
      rfl
  | some chars =>
      have short := Span.length_le_of_chars? covered
      rw [Span.length] at short
      dsimp only at short ⊢
      rw [low32_of_lt (by omega), sum?_of_lt (by omega)]
      rfl

theorem position?_of_oneLine {text : String}
    (oneLine : ∀ char ∈ text.toList, isLineTerminator char = false)
    (small : text.utf8ByteSize < Numeral.bound32) :
    (ofText text).position? text text.utf8ByteSize =
      (sum? Numeral.bound32 text.toList.length 1).map (⟨text.utf8ByteSize, 1, ·⟩) := by
  have starts : (ofText text).starts = [0] := by
    rw [starts_ofText, lineStarts_of_oneLine oneLine]
  have first : (ofText text).line text.utf8ByteSize = 0 := by
    rw [line, lineAt, starts]
    rfl
  have whole : Span.chars? ⟨0, text.utf8ByteSize⟩ text.toList = some text.toList := by
    have piece := Span.chars?_append [] text.toList []
    rwa [List.append_nil, List.nil_append, byteLength_nil, Nat.zero_add, byteLength_toList]
      at piece
  have atMost := length_le_byteLength text.toList
  rw [byteLength_toList] at atMost
  rw [position?, line?_eq small, first]
  simp only [Option.bind_eq_bind, Option.bind_some, starts, List.getElem?_cons_zero,
    Nat.min_self, whole]
  rw [sum?_of_lt (by decide), Option.bind_some, low32_of_lt (by omega)]
  cases sum? Numeral.bound32 text.toList.length 1 <;> rfl

theorem byteLength_replicate (count : Nat) (char : Char) :
    byteLength (List.replicate count char) = count * char.utf8Size := by
  induction count with
  | zero => rw [List.replicate_zero, byteLength_nil, Nat.zero_mul]
  | succ count induction =>
      rw [List.replicate_succ, byteLength_cons, induction, Nat.succ_mul, Nat.add_comm]

/-- The last column of a line with as many letters as 32 bits can count needs one bit more. -/
theorem exists_position?_eq_none {count : Nat} (long : count + 1 = Numeral.bound32) :
    ∃ text : String, text.utf8ByteSize < Numeral.bound32 ∧
      (ofText text).position? text text.utf8ByteSize = none := by
  have letters : (String.ofList (List.replicate count 'a')).toList = List.replicate count 'a' :=
    String.toList_ofList
  generalize String.ofList (List.replicate count 'a') = text at letters
  have size : text.utf8ByteSize = count := by
    rw [← byteLength_toList, letters, byteLength_replicate]
    exact Nat.mul_one count
  have oneLine : ∀ char ∈ text.toList, isLineTerminator char = false := by
    intro char member
    rw [letters] at member
    rw [List.eq_of_mem_replicate member]
    rfl
  refine ⟨text, by omega, ?_⟩
  rw [position?_of_oneLine oneLine (by omega), letters, List.length_replicate,
    sum?_eq_none.mpr (Nat.le_of_eq long.symm), Option.map_none]

end LineMap

end TypedScript
