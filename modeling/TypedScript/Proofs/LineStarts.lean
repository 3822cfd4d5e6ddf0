import TypedScript.Proofs.Tiling
import TypedScript.Text.LineMap

/-!
Where the lines of a text start. A line map looks for line terminators among the bytes of a text;
here its lines are told by the characters. Main statement: at a place that does not part a carriage
return from its line feed, a line map shows the point that is reached by reading the text up to
there, a terminator at a time.
-/

namespace TypedScript

/-! Bytes and characters. -/

private theorem toList_loop (bytes : ByteArray) (index : Nat) (done : List UInt8) :
    ByteArray.toList.loop bytes index done = done.reverse ++ bytes.data.toList.drop index := by
  fun_induction ByteArray.toList.loop bytes index done with
  | case1 index done within induction =>
      have bound : index < bytes.data.toList.length := by simpa using within
      rw [induction, List.drop_eq_getElem_cons bound]
      simp [ByteArray.get!, within]
  | case2 index done beyond =>
      rw [List.drop_eq_nil_of_le (by simpa using Nat.le_of_not_lt beyond)]
      simp

theorem toUTF8_toList (text : String) :
    text.toUTF8.toList = text.toList.flatMap String.utf8EncodeChar := by
  have encoded : text.toUTF8 = text.toList.utf8Encode := by
    rw [String.toUTF8_eq_toByteArray, ← String.toByteArray_ofList, String.ofList_toList]
  rw [encoded, ByteArray.toList, toList_loop, List.utf8Encode, List.toList_data_toByteArray]
  rfl

theorem isLineTerminator_iff {char : Char} :
    isLineTerminator char = true ↔
      char.toNat = 0x0a ∨ char.toNat = 0x0d ∨ char.toNat = 0x2028 ∨ char.toNat = 0x2029 := by
  have same (other : Char) : char = other ↔ char.toNat = other.toNat :=
    ⟨congrArg Char.toNat, fun equal => Char.ext (UInt32.toNat_inj.mp equal)⟩
  simp only [isLineTerminator, Bool.or_eq_true, beq_iff_eq, same, or_assoc]
  rfl

namespace LineBreak

variable {offset : Nat} {more : List UInt8}

theorem width?_of_toNat {byte : UInt8}
    (plain : byte.toNat ≠ 0x0a ∧ byte.toNat ≠ 0x0d ∧ byte.toNat ≠ 0xe2) :
    width? (byte :: more) = none := by
  rcases plain with ⟨lineFeed, carriageReturn, lead⟩
  unfold width?
  split <;> simp_all

theorem starts_of_toNat {byte : UInt8}
    (plain : byte.toNat ≠ 0x0a ∧ byte.toNat ≠ 0x0d ∧ byte.toNat ≠ 0xe2) :
    starts offset (byte :: more) = starts (offset + 1) more := by
  have none : width? (byte :: more) = none := width?_of_toNat plain
  rw [starts, none]
  rintro rest rfl
  exact absurd rfl plain.2.1

/-- The byte E2 begins the two separators and many other characters. -/
theorem starts_of_lead {second third : UInt8} (following : 0x80 ≤ second.toNat ∧ 0x80 ≤ third.toNat)
    (notLead : second.toNat ≠ 0xe2 ∧ third.toNat ≠ 0xe2) :
    starts offset (0xe2 :: second :: third :: more) =
      (if second.toNat = 0x80 ∧ (third.toNat = 0xa8 ∨ third.toNat = 0xa9) then [offset + 3]
        else []) ++ starts (offset + 3) more := by
  have later : starts (offset + 1) (second :: third :: more) = starts (offset + 3) more := by
    rw [starts_of_toNat (by omega), starts_of_toNat (by omega)]
  rw [starts, later]
  · by_cases isSeparator : second.toNat = 0x80 ∧ (third.toNat = 0xa8 ∨ third.toNat = 0xa9)
    · have secondEq : second = 0x80 := UInt8.toNat_inj.mp isSeparator.1
      rw [if_pos isSeparator, secondEq]
      rcases isSeparator.2 with isThird | isThird
      · rw [show third = 0xa8 from UInt8.toNat_inj.mp isThird]
        rfl
      · rw [show third = 0xa9 from UInt8.toNat_inj.mp isThird]
        rfl
    · have none : width? (0xe2 :: second :: third :: more) = none := by
        unfold width?
        split <;> simp_all
      rw [if_neg isSeparator, none]
      rfl
  · rintro rest impossible
    cases impossible

theorem starts_of_plain (bytes : List UInt8)
    (plain : ∀ byte ∈ bytes, byte.toNat ≠ 0x0a ∧ byte.toNat ≠ 0x0d ∧ byte.toNat ≠ 0xe2) :
    starts offset (bytes ++ more) = starts (offset + bytes.length) more := by
  induction bytes generalizing offset with
  | nil => rfl
  | cons byte bytes induction =>
      rw [List.forall_mem_cons] at plain
      rw [List.cons_append, starts_of_toNat plain.1, induction plain.2, List.length_cons,
        Nat.add_assoc, Nat.add_comm 1]

/-- The bytes of a character hold the end of a line only if the character ends one. A carriage
return needs to know what comes next. -/
theorem starts_char {char : Char} (notReturn : char.toNat ≠ 0x0d) :
    starts offset (String.utf8EncodeChar char ++ more) =
      (if isLineTerminator char then [offset + char.utf8Size] else []) ++
        starts (offset + char.utf8Size) more := by
  have terminates := @isLineTerminator_iff char
  rw [← String.length_utf8EncodeChar]
  unfold Char.toNat at notReturn terminates
  fun_cases String.utf8EncodeChar char with
  | case1 value small =>
      by_cases isFeed : value = 0x0a
      · rw [if_pos (terminates.mpr (.inl isFeed)), isFeed]
        rfl
      · rw [if_neg (by rw [terminates]; omega)]
        refine starts_of_plain _ fun byte member => ?_
        rw [List.mem_singleton.mp member, UInt8.toNat_ofNat']
        omega
  | case2 value large small =>
      rw [if_neg (by rw [terminates]; omega)]
      refine starts_of_plain _ fun byte member => ?_
      simp only [List.mem_cons, List.not_mem_nil, or_false] at member
      rcases member with rfl | rfl
      all_goals
        rw [UInt8.toNat_ofNat']
        omega
  | case3 value _ large small =>
      by_cases lead : value / 4096 % 16 = 2
      · have isSeparator : isLineTerminator char = true ↔
            (value / 64 % 64 + 128) % 2 ^ 8 = 0x80 ∧
              ((value % 64 + 128) % 2 ^ 8 = 0xa8 ∨ (value % 64 + 128) % 2 ^ 8 = 0xa9) := by
          rw [terminates]
          omega
        rw [lead]
        refine (starts_of_lead ?_ ?_).trans ?_
        · rw [UInt8.toNat_ofNat', UInt8.toNat_ofNat']
          omega
        · rw [UInt8.toNat_ofNat', UInt8.toNat_ofNat']
          omega
        · simp only [UInt8.toNat_ofNat', isSeparator]
          rfl
      · rw [if_neg (by rw [terminates]; omega)]
        refine starts_of_plain _ fun byte member => ?_
        simp only [List.mem_cons, List.not_mem_nil, or_false] at member
        rcases member with rfl | rfl | rfl
        all_goals
          rw [UInt8.toNat_ofNat']
          omega
  | case4 value _ _ large =>
      rw [if_neg (by rw [terminates]; omega)]
      refine starts_of_plain _ fun byte member => ?_
      simp only [List.mem_cons, List.not_mem_nil, or_false] at member
      rcases member with rfl | rfl | rfl | rfl
      all_goals
        rw [UInt8.toNat_ofNat']
        omega

end LineBreak

/-! Characters. -/

def lineStarts (offset : Nat) : List Char → List Nat
  | [] => []
  | '\r' :: '\n' :: rest => (offset + 2) :: lineStarts (offset + 2) rest
  | char :: rest =>
      (if isLineTerminator char then [offset + char.utf8Size] else []) ++
        lineStarts (offset + char.utf8Size) rest

theorem LineBreak.starts_return {offset : Nat} {more : List UInt8}
    (alone : more.head? ≠ some 0x0a) :
    starts offset (0x0d :: more) = (offset + 1) :: starts (offset + 1) more := by
  cases more with
  | nil => rfl
  | cons byte more =>
      have different : byte ≠ 0x0a := fun same => alone (by rw [same]; rfl)
      have single : width? (0x0d :: byte :: more) = some 1 := by
        unfold width?
        split <;> simp_all
      rw [starts, single]
      intro rest _ same
      exact different (List.cons.inj same).1

theorem eq_of_head?_utf8EncodeChar {char : Char} {more : List UInt8}
    (isFeed : (String.utf8EncodeChar char ++ more).head? = some 0x0a) : char = '\n' := by
  revert isFeed
  fun_cases String.utf8EncodeChar char with
  | case1 value small =>
      intro isFeed
      have byte := congrArg UInt8.toNat (Option.some.inj isFeed)
      rw [UInt8.toNat_ofNat'] at byte
      have same : value = 0x0a := by
        have reduced : value % 2 ^ 8 = 0x0a := byte
        omega
      exact Char.ext (UInt32.toNat_inj.mp same)
  | case2 | case3 | case4 =>
      intro isFeed
      have byte := congrArg UInt8.toNat (Option.some.inj isFeed)
      rw [UInt8.toNat_ofNat'] at byte
      change _ = 0x0a at byte
      omega

theorem starts_flatMap (offset : Nat) (chars : List Char) :
    LineBreak.starts offset (chars.flatMap String.utf8EncodeChar) = lineStarts offset chars := by
  fun_induction lineStarts offset chars with
  | case1 => rfl
  | case2 offset rest induction =>
      rw [← induction]
      rfl
  | case3 offset char rest notBoth induction =>
      rw [List.flatMap_cons]
      by_cases isReturn : char.toNat = 0x0d
      · have same : char = '\r' := Char.ext (UInt32.toNat_inj.mp isReturn)
        subst same
        rw [← induction]
        refine LineBreak.starts_return fun isFeed => ?_
        cases rest with
        | nil => cases isFeed
        | cons next rest =>
            rw [List.flatMap_cons] at isFeed
            exact notBoth rest rfl (by rw [eq_of_head?_utf8EncodeChar isFeed])
      · rw [LineBreak.starts_char isReturn, induction]

theorem LineMap.starts_ofText (text : String) :
    (LineMap.ofText text).starts = 0 :: lineStarts 0 text.toList := by
  rw [LineMap.ofText, toUTF8_toList, starts_flatMap]

/-! Texts in two parts. -/

/-- Two parts of a text do not part a carriage return from its line feed. -/
def Uncut (before after : List Char) : Prop :=
  before.getLast? = some '\r' → after.head? ≠ some '\n'

namespace Uncut

theorem tail {char : Char} {before after : List Char} (uncut : Uncut (char :: before) after) :
    Uncut before after := by
  intro isLast
  have more : before ≠ [] := by
    rintro rfl
    cases isLast
  rw [← List.getLast?_cons_of_ne_nil more] at isLast
  exact uncut isLast

/-- The first part, a line terminator or another character at a time. A single character is not a
carriage return with its line feed right after it, be it in the first part or in the second. -/
@[elab_as_elim]
theorem induction {after : List Char} {motive : List Char → Prop} (nil : motive [])
    (both : ∀ rest, motive rest → motive ('\r' :: '\n' :: rest))
    (single : ∀ char rest, (∀ later, char = '\r' → rest ≠ '\n' :: later) →
      (∀ later, char = '\r' → rest ++ after ≠ '\n' :: later) → motive rest →
      motive (char :: rest)) :
    ∀ before, Uncut before after → motive before
  | [], _ => nil
  | char :: rest, uncut => by
      by_cases isBoth : ∃ later, char = '\r' ∧ rest = '\n' :: later
      · rcases isBoth with ⟨later, rfl, rfl⟩
        exact both later (induction nil both single later uncut.tail.tail)
      · have alone : ∀ later, char = '\r' → rest ≠ '\n' :: later :=
          fun later isReturn isFeed => isBoth ⟨later, isReturn, isFeed⟩
        refine single char rest alone ?_ (induction nil both single rest uncut.tail)
        rintro later rfl isFeed
        cases rest with
        | nil =>
            rw [List.nil_append] at isFeed
            exact uncut rfl (by rw [isFeed]; rfl)
        | cons next rest =>
            cases isFeed
            exact alone rest rfl rfl
termination_by before => before.length

theorem of_head {before after : List Char} (other : after.head? ≠ some '\n') : Uncut before after :=
  fun _ => other

theorem of_last {before after : List Char} (other : before.getLast? ≠ some '\r') :
    Uncut before after :=
  fun isLast => absurd isLast other

theorem beginning {before part more : List Char} (uncut : Uncut before (part ++ more)) :
    Uncut before part := by
  intro isReturn isFeed
  exact uncut isReturn (by rw [List.head?_append, isFeed]; rfl)

end Uncut

theorem lineStarts_cons {char : Char} {rest : List Char}
    (alone : ∀ later, char = '\r' → rest ≠ '\n' :: later) (offset : Nat) :
    lineStarts offset (char :: rest) =
      (if isLineTerminator char then [offset + char.utf8Size] else []) ++
        lineStarts (offset + char.utf8Size) rest :=
  lineStarts.eq_3 offset char rest alone

theorem lineStarts_append {before after : List Char} (uncut : Uncut before after) (offset : Nat) :
    lineStarts offset (before ++ after) =
      lineStarts offset before ++ lineStarts (offset + byteLength before) after := by
  revert offset
  refine Uncut.induction ?_ ?_ ?_ before uncut
  · intro offset
    rfl
  · intro rest induction offset
    have size : offset + byteLength ('\r' :: '\n' :: rest) = offset + 2 + byteLength rest := by
      rw [byteLength_cons, byteLength_cons, ← Nat.add_assoc, ← Nat.add_assoc]
      rfl
    rw [size, List.cons_append, List.cons_append, lineStarts, lineStarts, induction,
      List.cons_append]
  · intro char rest alone notParted induction offset
    rw [List.cons_append, lineStarts_cons notParted, lineStarts_cons alone, induction,
      byteLength_cons, Nat.add_assoc, List.append_assoc]

theorem lineStarts_bounds (offset : Nat) (chars : List Char) :
    ∀ start ∈ lineStarts offset chars, offset < start ∧ start ≤ offset + byteLength chars := by
  fun_induction lineStarts offset chars with
  | case1 => simp
  | case2 offset rest induction =>
      have newline : '\n'.utf8Size = 1 := rfl
      have carriageReturn : '\r'.utf8Size = 1 := rfl
      simp only [byteLength_cons, newline, carriageReturn]
      refine List.forall_mem_cons.mpr ⟨by omega, fun start member => ?_⟩
      have bounds := induction start member
      omega
  | case3 offset char rest _ induction =>
      have positive := char.utf8Size_pos
      simp only [byteLength_cons]
      refine List.forall_mem_append.mpr ⟨?_, fun start member => ?_⟩
      · split
        · exact List.forall_mem_singleton.mpr (by omega)
        · simp
      · have bounds := induction start member
        omega

/-- The lines that start in the first part of a text are those that have been reached by its end. -/
theorem takeWhile_lineStarts {before after : List Char} (uncut : Uncut before after) :
    (0 :: lineStarts 0 (before ++ after)).takeWhile (· ≤ byteLength before) =
      0 :: lineStarts 0 before := by
  have reached : ∀ start ∈ 0 :: lineStarts 0 before, decide (start ≤ byteLength before) = true := by
    refine List.forall_mem_cons.mpr ⟨by simp, fun start member => ?_⟩
    have bounds := lineStarts_bounds 0 before start member
    exact decide_eq_true (by omega)
  have later :
      (lineStarts (0 + byteLength before) after).takeWhile (· ≤ byteLength before) = [] := by
    have bounds := lineStarts_bounds (0 + byteLength before) after
    cases shape : lineStarts (0 + byteLength before) after with
    | nil => rfl
    | cons start rest =>
        rw [shape, List.forall_mem_cons] at bounds
        exact List.takeWhile_cons_of_neg (by simp; omega)
  rw [lineStarts_append uncut, ← List.cons_append, List.takeWhile_append_of_pos reached, later,
    List.append_nil]

/-! Points of a text. -/

namespace Position

/-- The point after some more characters, a line terminator at a time. -/
def walk (here : Position) : List Char → Position
  | [] => here
  | '\r' :: '\n' :: rest => (here.newLine 2).walk rest
  | char :: rest =>
      (if isLineTerminator char then here.newLine char.utf8Size else here.step char).walk rest

theorem walk_cons {char : Char} {rest : List Char}
    (alone : ∀ later, char = '\r' → rest ≠ '\n' :: later) (here : Position) :
    here.walk (char :: rest) =
      (if isLineTerminator char then here.newLine char.utf8Size else here.step char).walk rest :=
  walk.eq_3 here char rest alone

theorem walk_append {before after : List Char} (uncut : Uncut before after) (here : Position) :
    here.walk (before ++ after) = (here.walk before).walk after := by
  revert here
  refine Uncut.induction ?_ ?_ ?_ before uncut
  · intro here
    rfl
  · intro rest induction here
    rw [List.cons_append, List.cons_append, walk, walk, induction]
  · intro char rest alone notParted induction here
    rw [List.cons_append, walk_cons notParted, walk_cons alone, induction]

/-- What has been read up to a point: whole lines, and the beginning of one more. -/
structure Splits (here : Position) (whole line : List Char) : Prop where
  offset : here.offset = byteLength whole + byteLength line
  column : here.column = line.length + 1

theorem Splits.step {here : Position} {whole line : List Char} (splits : here.Splits whole line)
    (char : Char) : (here.step char).Splits whole (line ++ [char]) := by
  refine ⟨?_, ?_⟩
  · simp only [Position.step, splits.offset, byteLength_append, byteLength_cons, byteLength_nil]
    omega
  · simp [Position.step, splits.column]

theorem Splits.newLine {here : Position} {whole line : List Char} (splits : here.Splits whole line)
    {terminator : List Char} {width : Nat} (size : byteLength terminator = width) :
    (here.newLine width).Splits (whole ++ line ++ terminator) [] := by
  refine ⟨?_, rfl⟩
  simp only [Position.newLine, splits.offset, byteLength_append, size, byteLength_nil, Nat.add_zero]

theorem walk_splits {here : Position} {whole line : List Char} (splits : here.Splits whole line)
    (chars : List Char) :
    (here.walk chars).line = here.line + (lineStarts here.offset chars).length ∧
      ∃ lines last, whole ++ (line ++ chars) = lines ++ last ∧
        (here.walk chars).Splits lines last ∧
        (lineStarts here.offset chars).getLastD (byteLength whole) = byteLength lines := by
  fun_induction walk here chars generalizing whole line with
  | case1 here => exact ⟨rfl, whole, line, by simp, splits, rfl⟩
  | case2 here rest induction =>
      have ended := splits.newLine (show byteLength ['\r', '\n'] = 2 from rfl)
      have start := ended.offset.symm
      rw [byteLength_nil, Nat.add_zero] at start
      rcases induction ended with ⟨count, lines, last, split, lastSplits, lastStart⟩
      refine ⟨?_, lines, last, ?_, lastSplits, ?_⟩
      · rw [count, lineStarts, List.length_cons]
        simp only [newLine]
        omega
      · simpa using split
      · rw [start] at lastStart
        rw [lineStarts, List.getLastD_cons]
        exact lastStart
  | case3 here char rest alone induction =>
      by_cases terminates : isLineTerminator char = true
      · simp only [terminates, if_true] at induction ⊢
        have ended := splits.newLine (show byteLength [char] = char.utf8Size from rfl)
        have start := ended.offset.symm
        rw [byteLength_nil, Nat.add_zero] at start
        rcases induction ended with ⟨count, lines, last, split, lastSplits, lastStart⟩
        refine ⟨?_, lines, last, ?_, lastSplits, ?_⟩
        · rw [count, lineStarts_cons alone, if_pos terminates, List.length_append,
            List.length_singleton]
          simp only [newLine]
          omega
        · simpa using split
        · rw [start] at lastStart
          rw [lineStarts_cons alone, if_pos terminates, List.singleton_append, List.getLastD_cons]
          exact lastStart
      · rw [if_neg terminates] at induction ⊢
        rcases induction (splits.step char) with ⟨count, lines, last, split, lastSplits, lastStart⟩
        refine ⟨?_, lines, last, ?_, lastSplits, ?_⟩
        · rw [count, lineStarts_cons alone, if_neg terminates]
          rfl
        · simpa using split
        · rw [lineStarts_cons alone, if_neg terminates]
          exact lastStart

end Position

theorem LineMap.position_eq_walk {source : String} {before after : List Char}
    (whole : source.toList = before ++ after) (uncut : Uncut before after) :
    (LineMap.ofText source).position source (byteLength before) = Position.origin.walk before := by
  have splits : Position.origin.Splits [] [] := ⟨rfl, rfl⟩
  rcases Position.walk_splits splits before with ⟨count, lines, last, split, lastSplits, start⟩
  have offset : (Position.origin.walk before).offset = byteLength before := by
    rw [lastSplits.offset, ← byteLength_append, ← split]
    rfl
  have reached := takeWhile_lineStarts uncut
  rw [← whole, ← LineMap.starts_ofText] at reached
  have lineAt : (LineMap.ofText source).lineAt (byteLength before) =
      ((lineStarts 0 before).length, byteLength lines) := by
    rw [LineMap.lineAt, reached, ← start, List.getLastD_cons]
    rfl
  have stop : min (byteLength before) source.utf8ByteSize = byteLength lines + byteLength last := by
    rw [← byteLength_toList, whole, byteLength_append, Nat.min_eq_left (Nat.le_add_right _ _),
      ← offset, lastSplits.offset]
  have covers : Span.chars? ⟨byteLength lines, byteLength lines + byteLength last⟩ source.toList =
      some last := by
    have text : source.toList = lines ++ (last ++ after) := by
      rw [whole, ← List.append_assoc, ← split]
      rfl
    rw [text]
    exact Span.chars?_append _ _ _
  have line : (Position.origin.walk before).line = (lineStarts 0 before).length + 1 := by
    rw [count, Nat.add_comm]
    rfl
  rw [LineMap.position, lineAt]
  simp only [stop, covers]
  rw [← offset, ← line, ← lastSplits.column]

end TypedScript
