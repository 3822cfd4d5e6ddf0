import Mathlib.Data.Prod.Lex
import Mathlib.Data.Set.Card
import Mathlib.Order.Interval.Finset.Nat
import TypedScript.Proofs.Checked.LineMap
import TypedScript.Proofs.LineBreaks
import TypedScript.Proofs.Lexing.SharedBeginning

/-!
Lines and columns, counted in the characters of a text. Main statement: at every place between two
characters of a text for which 32 bits are enough, a line map counts the line terminators that end
there or before, and the characters since the last of them; so it keeps places in order, and no two
of them have the same line and column.
-/

namespace TypedScript

/-! Where terminators end. -/

/-- A line terminator ends at `stop`. A carriage return that a line feed follows is none yet. -/
def LineEndsAt (chars : List Char) (stop : Nat) : Prop :=
  ∃ before char after, chars = before ++ char :: after ∧ isLineTerminator char = true ∧
    (char = '\r' → after.head? ≠ some '\n') ∧ byteLength before + char.utf8Size = stop

def lineEnds (chars : List Char) (offset : Nat) : Set Nat :=
  {stop | LineEndsAt chars stop ∧ stop ≤ offset}

theorem lineEndsAt_nil {stop : Nat} : ¬LineEndsAt [] stop := by
  rintro ⟨before, char, after, whole, _⟩
  exact List.append_ne_nil_of_right_ne_nil before (List.cons_ne_nil char after) whole.symm

theorem lineEndsAt_cons {char : Char} {rest : List Char} {stop : Nat} :
    LineEndsAt (char :: rest) stop ↔
      (isLineTerminator char = true ∧ (char = '\r' → rest.head? ≠ some '\n') ∧
        char.utf8Size = stop) ∨
      ∃ later, LineEndsAt rest later ∧ char.utf8Size + later = stop := by
  constructor
  · rintro ⟨before, other, after, whole, terminates, alone, place⟩
    cases before with
    | nil =>
        cases whole
        exact .inl ⟨terminates, alone, by rwa [byteLength_nil, Nat.zero_add] at place⟩
    | cons first before =>
        cases whole
        refine .inr ⟨_, ⟨before, other, after, rfl, terminates, alone, rfl⟩, ?_⟩
        rw [byteLength_cons] at place
        omega
  · rintro (⟨terminates, alone, place⟩ | ⟨later, ⟨before, other, after, rfl, ends⟩, place⟩)
    · exact ⟨[], char, rest, rfl, terminates, alone, by rwa [byteLength_nil, Nat.zero_add]⟩
    · refine ⟨char :: before, other, after, rfl, ends.1, ends.2.1, ?_⟩
      rw [byteLength_cons, Nat.add_assoc, ends.2.2, place]

theorem mem_lineStarts {chars : List Char} {offset start : Nat} :
    start ∈ lineStarts offset chars ↔ ∃ stop, LineEndsAt chars stop ∧ offset + stop = start := by
  fun_induction lineStarts offset chars with
  | case1 => simp [lineEndsAt_nil]
  | case2 offset rest induction =>
      have ends (stop : Nat) : LineEndsAt ('\r' :: '\n' :: rest) stop ↔
          2 = stop ∨ ∃ later, LineEndsAt rest later ∧ 2 + later = stop := by
        have terminates : isLineTerminator '\n' = true := rfl
        have sizes : '\r'.utf8Size = 1 ∧ '\n'.utf8Size = 1 := ⟨rfl, rfl⟩
        simp only [lineEndsAt_cons, terminates, sizes]
        grind
      rw [List.mem_cons, induction]
      simp only [ends]
      grind
  | case3 offset char rest notBoth induction =>
      have alone : char = '\r' → rest.head? ≠ some '\n' := by
        intro isReturn isFeed
        rcases List.head?_eq_some_iff.mp isFeed with ⟨later, shape⟩
        exact notBoth later isReturn shape
      rw [List.mem_append, induction]
      simp only [lineEndsAt_cons]
      cases isLineTerminator char <;> grind

theorem LineEndsAt.pos {chars : List Char} {stop : Nat} (ends : LineEndsAt chars stop) :
    0 < stop := by
  rcases ends with ⟨before, char, after, _, _, _, rfl⟩
  exact Nat.lt_of_lt_of_le char.utf8Size_pos (Nat.le_add_left _ _)

theorem LineEndsAt.split {chars : List Char} {stop : Nat} (ends : LineEndsAt chars stop) :
    ∃ lines rest, chars = lines ++ rest ∧ byteLength lines = stop := by
  rcases ends with ⟨before, char, after, rfl, _, _, rfl⟩
  exact ⟨before ++ [char], after, by simp, by simp⟩

namespace lineEnds

variable {chars : List Char} {offset other : Nat}

theorem subset_Icc (chars : List Char) (offset : Nat) :
    lineEnds chars offset ⊆ ↑(Finset.Icc 1 offset) :=
  fun _ ends => Finset.mem_coe.mpr (Finset.mem_Icc.mpr ⟨ends.1.pos, ends.2⟩)

theorem finite (chars : List Char) (offset : Nat) : (lineEnds chars offset).Finite :=
  (Finset.finite_toSet _).subset (subset_Icc chars offset)

theorem mono (le : offset ≤ other) : lineEnds chars offset ⊆ lineEnds chars other :=
  fun _ ends => ⟨ends.1, Nat.le_trans ends.2 le⟩

theorem zero_notMem : 0 ∉ lineEnds chars offset :=
  fun ends => Nat.lt_irrefl 0 ends.1.pos

end lineEnds

/-! Points of a text. -/

namespace Position

def lineColumn (here : Position) : Nat ×ₗ Nat :=
  toLex (here.line, here.column)

/-- The line is that of the terminators that end up to here, and the column that of the characters
since the last of them, or since the beginning. -/
structure Counts (here : Position) (chars : List Char) : Prop where
  line : here.line = 1 + (lineEnds chars here.offset).ncard
  column : ∃ lines line after, chars = lines ++ (line ++ after) ∧
    IsGreatest (insert 0 (lineEnds chars here.offset)) (byteLength lines) ∧
    byteLength lines + byteLength line = here.offset ∧ here.column = 1 + line.length

variable {here other : Position} {chars : List Char}

theorem Counts.lineColumn_lt (counts : here.Counts chars) (otherCounts : other.Counts chars)
    (ahead : here.offset < other.offset) : here.lineColumn < other.lineColumn := by
  have subset : lineEnds chars here.offset ⊆ lineEnds chars other.offset :=
    lineEnds.mono (Nat.le_of_lt ahead)
  have finite := lineEnds.finite chars other.offset
  have fewer := Set.ncard_le_ncard subset finite
  rw [lineColumn, lineColumn, Prod.Lex.toLex_lt_toLex, counts.line, otherCounts.line]
  rcases Nat.lt_or_ge (lineEnds chars here.offset).ncard (lineEnds chars other.offset).ncard with
    before | sameCount
  · exact .inl (Nat.add_lt_add_left before 1)
  -- No terminator ends between the two, so both count from the same start.
  · have same := Set.eq_of_subset_of_ncard_le subset sameCount finite
    rcases counts.column with ⟨lines, line, after, whole, last, place, column⟩
    rcases otherCounts.column with
      ⟨otherLines, otherLine, otherAfter, otherWhole, otherLast, otherPlace, otherColumn⟩
    rw [← same] at otherLast
    rcases eq_of_byteLength (whole.symm.trans otherWhole) (last.unique otherLast) with
      ⟨rfl, sameRest⟩
    have sizes := congrArg byteLength sameRest
    rw [byteLength_append, byteLength_append] at sizes
    rcases split_common line sameRest (by omega) with ⟨middle, rfl, _⟩
    rw [byteLength_append] at otherPlace
    have more : middle ≠ [] := by
      rintro rfl
      rw [byteLength_nil] at otherPlace
      omega
    have positive := List.length_pos_iff.mpr more
    rw [column, otherColumn, List.length_append, same]
    exact .inr ⟨rfl, by omega⟩

end Position

namespace LineMap

theorem insert_lineEnds {text : String} {offset start : Nat} {earlier later : List Nat}
    (split : (ofText text).starts = earlier ++ start :: later) (reached : start ≤ offset)
    (before : ∀ other ∈ earlier, other < start) (beyond : ∀ other ∈ later, offset < other) :
    insert 0 (lineEnds text.toList offset) = {stop | stop ∈ earlier ++ [start]} := by
  ext stop
  have started : stop = 0 ∨ LineEndsAt text.toList stop ↔ stop ∈ earlier ++ start :: later := by
    rw [← split, starts_ofText, List.mem_cons, mem_lineStarts]
    simp
  have bounds : stop ∈ earlier ++ [start] ↔ stop ∈ earlier ++ start :: later ∧ stop ≤ offset := by
    simp only [List.mem_append, List.mem_cons, List.not_mem_nil, or_false]
    constructor
    · rintro (member | rfl)
      · exact ⟨.inl member, Nat.le_of_lt (Nat.lt_of_lt_of_le (before stop member) reached)⟩
      · exact ⟨.inr (.inl rfl), reached⟩
    · rintro ⟨member | rfl | member, within⟩
      · exact .inl member
      · exact .inr rfl
      · exact absurd within (Nat.not_le.mpr (beyond stop member))
  rw [Set.mem_insert_iff]
  change _ ↔ stop ∈ earlier ++ [start]
  rw [bounds, ← started]
  constructor
  · rintro (rfl | ends)
    · exact ⟨.inl rfl, Nat.zero_le _⟩
    · exact ⟨.inr ends.1, ends.2⟩
  · rintro ⟨rfl | ends, within⟩
    · exact .inl rfl
    · exact .inr ⟨ends, within⟩

/-- A line starts at the beginning or where a terminator ends, between two characters. -/
theorem split_of_start {text : String} {start : Nat} (started : start ∈ (ofText text).starts) :
    ∃ lines rest, text.toList = lines ++ rest ∧ byteLength lines = start := by
  rw [starts_ofText, List.mem_cons, mem_lineStarts] at started
  rcases started with rfl | ⟨stop, ends, rfl⟩
  · exact ⟨[], text.toList, rfl, rfl⟩
  · rw [Nat.zero_add]
    exact ends.split

/-- The line of an offset is told by the terminators that end up to there, and starts after the last
of them. -/
theorem exists_lineAt (text : String) (offset : Nat) :
    ∃ start ∈ (ofText text).starts,
      (ofText text).lineAt offset = ((lineEnds text.toList offset).ncard, start) ∧
        IsGreatest (insert 0 (lineEnds text.toList offset)) start := by
  rcases exists_line text offset with
    ⟨earlier, start, later, split, before, within, beyond, place⟩
  have starts := insert_lineEnds split within before beyond
  have distinct : (earlier ++ [start]).Nodup := by
    have ordered := lineStarts_ordered 0 text.toList
    rw [← starts_ofText, split, List.append_cons] at ordered
    exact (List.pairwise_append.mp ordered).1.imp Nat.ne_of_lt
  have count : (lineEnds text.toList offset).ncard = earlier.length := by
    have inserted := Set.ncard_insert_of_notMem lineEnds.zero_notMem
      (lineEnds.finite text.toList offset)
    rw [starts, ← List.coe_toFinset, Set.ncard_coe_finset, List.toFinset_card_of_nodup distinct,
      List.length_append, List.length_singleton] at inserted
    omega
  refine ⟨start, by simp [split], by rw [count, place], ?_⟩
  rw [starts]
  refine ⟨List.mem_append_right earlier (List.mem_singleton_self start), fun stop member => ?_⟩
  rcases List.mem_append.mp member with isEarlier | isStart
  · exact Nat.le_of_lt (before stop isEarlier)
  · exact Nat.le_of_eq (List.mem_singleton.mp isStart)

theorem position_counts {text : String} {offset : Nat}
    (boundary : (String.Pos.Raw.mk offset).IsValid text) :
    ((ofText text).position text offset).Counts text.toList := by
  rcases isValid_iff_split.mp boundary with ⟨before, after, whole, rfl⟩
  rcases exists_lineAt text (byteLength before) with ⟨start, started, place, last⟩
  rcases split_of_start started with ⟨lines, rest, wholeLines, rfl⟩
  have within : byteLength lines ≤ byteLength before := by
    rcases last.1 with isZero | ends
    · rw [isZero]
      exact Nat.zero_le _
    · exact ends.2
  have sameText := wholeLines.symm.trans whole
  have sizes := congrArg byteLength sameText
  rw [byteLength_append, byteLength_append] at sizes
  rcases split_common lines sameText (by omega) with ⟨line, rfl, rfl⟩
  have stop : min (byteLength (lines ++ line)) text.utf8ByteSize =
      byteLength lines + byteLength line := by
    rw [← byteLength_toList, whole, byteLength_append (lines ++ line), byteLength_append,
      Nat.min_eq_left (Nat.le_add_right _ _)]
  have covers : Span.chars? ⟨byteLength lines, byteLength lines + byteLength line⟩ text.toList =
      some line := by
    rw [wholeLines]
    exact Span.chars?_append _ _ _
  have shown : (ofText text).position text (byteLength (lines ++ line)) =
      ⟨byteLength (lines ++ line),
        (lineEnds text.toList (byteLength (lines ++ line))).ncard + 1, line.length + 1⟩ := by
    rw [position, place]
    simp only [stop, covers]
  rw [shown]
  exact
    { line := Nat.add_comm _ 1
      column := ⟨lines, line, after, wholeLines, last, (byteLength_append lines line).symm,
        Nat.add_comm _ 1⟩ }

/-- What a line map of the text shows at `offset`, with 32 bits for every number. -/
def shown? (text : String) (offset : Nat) : Option Position :=
  (ofText? text).bind (·.position? text offset)

theorem shown?_eq {text : String} (small : text.utf8ByteSize + 1 < Numeral.bound32)
    (offset : Nat) : shown? text offset = some ((ofText text).position text offset) := by
  rw [shown?, ofText?_eq (Nat.lt_of_succ_lt small), Option.bind_some, position?_eq small]

/-- At every place between two characters a line map shows the line and the column exactly. It keeps
the order of the places, and shows no two of them alike. -/
theorem position_exact {text : String} (small : text.utf8ByteSize + 1 < Numeral.bound32) :
    (∀ offset, (String.Pos.Raw.mk offset).IsValid text →
      ∃ here, shown? text offset = some here ∧ here.offset = offset ∧ here.Counts text.toList) ∧
    (∀ offset other, (String.Pos.Raw.mk offset).IsValid text →
      (String.Pos.Raw.mk other).IsValid text → offset < other →
      ∃ here there, shown? text offset = some here ∧ shown? text other = some there ∧
        here.lineColumn < there.lineColumn) ∧
    ∀ offset other, (String.Pos.Raw.mk offset).IsValid text →
      (String.Pos.Raw.mk other).IsValid text → offset ≠ other →
      ∃ here there, shown? text offset = some here ∧ shown? text other = some there ∧
        here.lineColumn ≠ there.lineColumn := by
  have ahead {offset other : Nat} (boundary : (String.Pos.Raw.mk offset).IsValid text)
      (otherBoundary : (String.Pos.Raw.mk other).IsValid text) (less : offset < other) :
      ((ofText text).position text offset).lineColumn <
        ((ofText text).position text other).lineColumn :=
    (position_counts boundary).lineColumn_lt (position_counts otherBoundary) less
  refine ⟨fun offset boundary => ⟨_, shown?_eq small offset, rfl, position_counts boundary⟩,
    fun offset other boundary otherBoundary less =>
      ⟨_, _, shown?_eq small offset, shown?_eq small other, ahead boundary otherBoundary less⟩,
    fun offset other boundary otherBoundary different =>
      ⟨_, _, shown?_eq small offset, shown?_eq small other, ?_⟩⟩
  rcases Nat.lt_or_gt_of_ne different with less | greater
  · exact (ahead boundary otherBoundary less).ne
  · exact (ahead otherBoundary boundary greater).ne'

/-- In the middle of a carriage return with its line feed the line has not ended yet. -/
theorem position_exact_middle :
    let text := "é\r\n\u2028x"
    text.utf8ByteSize + 1 < Numeral.bound32 ∧
      (String.Pos.Raw.mk 3).IsValid text ∧ (String.Pos.Raw.mk 4).IsValid text ∧
      (∃ here, shown? text 3 = some here ∧ here.offset = 3 ∧ here.Counts text.toList) ∧
      (∃ here there, shown? text 3 = some here ∧ shown? text 4 = some there ∧
        here.lineColumn < there.lineColumn) ∧
      (∃ here there, shown? text 3 = some here ∧ shown? text 4 = some there ∧
        here.lineColumn ≠ there.lineColumn) ∧
      shown? text 3 = some ⟨3, 1, 3⟩ ∧ shown? text 4 = some ⟨4, 2, 1⟩ := by
  intro text
  have small : text.utf8ByteSize + 1 < Numeral.bound32 := by decide
  have before : (String.Pos.Raw.mk 3).IsValid text := by decide
  have after : (String.Pos.Raw.mk 4).IsValid text := by decide
  rcases position_exact small with ⟨counts, ordered, apart⟩
  exact ⟨small, before, after, counts 3 before, ordered 3 4 before after (by decide),
    apart 3 4 before after (by decide), by decide +kernel, by decide +kernel⟩

/-- At the end of a line of as many letters as 32 bits can count, the column has no number. And
offsets that are not between two characters may be shown like others. -/
theorem position_not_exact :
    (∃ text : String, text.utf8ByteSize < Numeral.bound32 ∧
      (String.Pos.Raw.mk text.utf8ByteSize).IsValid text ∧
      shown? text text.utf8ByteSize = none) ∧
    (shown? "é" 1).map (·.lineColumn) = (shown? "é" 2).map (·.lineColumn) := by
  have long : Numeral.bound32 - 1 + 1 = Numeral.bound32 := by decide
  rcases exists_position?_eq_none long with ⟨text, small, failed⟩
  have atEnd : (String.Pos.Raw.mk text.utf8ByteSize).IsValid text :=
    isValid_iff_split.mpr ⟨text.toList, [], (List.append_nil _).symm, byteLength_toList text⟩
  refine ⟨⟨text, small, atEnd, ?_⟩, by decide +kernel⟩
  rw [shown?, ofText?_eq small]
  exact failed

end LineMap

end TypedScript
