import TypedScript.Proofs.Checked.Lexer
import TypedScript.Proofs.Coordinates

/-!
The space between tokens, byte by byte. A byte lexer stands at a place of a text if its offset is
that of the place and if what it has counted, with the characters since then, gives the line and the
column of the place. Main statement: skipping white space and comments fails at no such place, and
leads to the place that a skip by characters leads to.
-/

namespace TypedScript

/-! Lines and comments by characters. -/

namespace Trivia

theorem skip_lineEnd {terminator rest : List Char} (ends : LineEnd terminator rest) (mode : Mode)
    (here : Position) (broke : Bool) :
    skip mode (terminator ++ rest) here broke =
      skip mode.afterLineBreak rest (here.newLine (byteLength terminator)) true := by
  cases ends with
  | both =>
      simp only [List.cons_append, List.nil_append, skip]
      rfl
  | @single char _ terminates alone =>
      have noSlash : char ≠ '/' := by
        rintro rfl
        cases terminates
      have noStar : char ≠ '*' := by
        rintro rfl
        cases terminates
      rw [List.singleton_append, skip.eq_6 _ _ _ _ _ _ (fun _ _ isSlash => absurd isSlash noSlash)
        (fun _ _ isSlash => absurd isSlash noSlash) (fun _ _ isStar => absurd isStar noStar),
        if_pos terminates]
      · rfl
      · rintro later isReturn rfl
        exact alone isReturn rfl

theorem skip_lineComment (chars : List Char) (here : Position) (broke : Bool) :
    skip .lineComment chars here broke =
      skip .plain (chars.dropWhile (!isLineTerminator ·))
        (here.steps (chars.takeWhile (!isLineTerminator ·))) broke := by
  induction chars generalizing here with
  | nil =>
      rw [List.dropWhile_nil, List.takeWhile_nil, skip, skip]
      rfl
  | cons char chars induction =>
      cases terminates : isLineTerminator char with
      | true =>
          rcases LineEnd.of_isLineTerminator terminates chars with ⟨more, later, rfl, ends⟩
          rw [List.dropWhile_cons_of_neg (by simp [terminates]),
            List.takeWhile_cons_of_neg (by simp [terminates])]
          exact (skip_lineEnd ends .lineComment here broke).trans
            (skip_lineEnd ends .plain here broke).symm
      | false =>
          have noReturn : char ≠ '\r' := by
            rintro rfl
            cases terminates
          rw [List.dropWhile_cons_of_pos (by simp [terminates]),
            List.takeWhile_cons_of_pos (by simp [terminates]), skip.eq_6 .lineComment _ _ _ _
            (fun _ isReturn => absurd isReturn noReturn) (by rintro _ ⟨⟩) (by rintro _ ⟨⟩)
            (by rintro _ ⟨⟩), terminates,
            if_neg Bool.false_ne_true, if_pos (by rfl), induction]
          rfl

theorem skip_inside {body after : List Char} (uncut : Uncut body after)
    (inside : ¬['*', '/'] <:+: body ++ after.take 1) (here : Position) (broke : Bool) :
    skip .blockComment (body ++ after) here broke =
      skip .blockComment after (here.walk body) (broke || body.any isLineTerminator) := by
  revert inside here broke
  refine Uncut.induction ?_ ?_ ?_ body uncut
  · intro _ here broke
    rw [List.any_nil, Bool.or_false]
    rfl
  · intro rest induction inside here broke
    have later : ¬['*', '/'] <:+: rest ++ after.take 1 := fun closed =>
      inside (closed.trans ⟨['\r', '\n'], [], by simp⟩)
    simp only [List.cons_append, skip]
    rw [Mode.afterLineBreak, induction later, Position.walk]
    · simp [isLineTerminator]
    · rintro ⟨⟩
  · intro char rest alone notParted induction inside here broke
    have later : ¬['*', '/'] <:+: rest ++ after.take 1 := fun closed =>
      inside (closed.trans ⟨[char], [], by simp⟩)
    have goesOn : ∀ more, Mode.blockComment = .blockComment → char = '*' →
        rest ++ after = '/' :: more → False := by
      rintro more - rfl closed
      refine inside ⟨[], (rest ++ after.take 1).tail, ?_⟩
      cases rest with
      | nil =>
          rw [List.nil_append] at closed
          rw [closed]
          rfl
      | cons next rest =>
          cases closed
          rfl
    rw [List.cons_append, skip.eq_6 .blockComment _ _ _ _ notParted (by rintro _ ⟨⟩)
      (by rintro _ ⟨⟩) goesOn, Position.walk_cons alone, List.any_cons]
    cases isLineTerminator char with
    | true =>
        rw [if_pos rfl, if_pos rfl, Mode.afterLineBreak, induction later]
        · simp
        · rintro ⟨⟩
    | false =>
        rw [if_neg Bool.false_ne_true, if_neg Bool.false_ne_true, if_pos (by rfl), induction later]
        simp

theorem skip_blockComment (chars : List Char) :
    ∃ comment rest, chars = comment ++ rest ∧
      commentWidth (encoded chars) = byteLength comment ∧
      ∀ here broke, skip .blockComment chars here broke =
        skip .plain rest (here.walk comment) (broke || comment.any isLineTerminator) := by
  rcases occurrence?_encoded chars with ⟨none, inside⟩ | ⟨body, rest, rfl, inside, found⟩
  · refine ⟨chars, [], (List.append_nil _).symm, ?_, fun here broke => ?_⟩
    · rw [commentWidth, none, length_encoded]
    · have noHead : ([] : List Char).head? ≠ some '\n' := nofun
      have skipped := skip_inside (.of_head noHead) (by simpa using inside) here broke
      rw [List.append_nil, skip] at skipped
      rw [skipped, skip]
  · refine ⟨body ++ ['*', '/'], rest, by simp, ?_, fun here broke => ?_⟩
    · rw [commentWidth, found, byteLength_append]
      rfl
    · rw [skip_inside (.of_head (by simp)) inside, Position.walk_append (.of_head (by simp)), skip,
        List.any_append]
      simp [Position.walk, Position.steps, isLineTerminator]

end Trivia

theorem Position.walk_lineEnd {line terminator rest : List Char}
    (oneLine : ∀ char ∈ line, isLineTerminator char = false) (ends : LineEnd terminator rest)
    (here : Position) :
    here.walk (line ++ (terminator ++ rest)) =
      ((here.steps line).newLine (byteLength terminator)).walk rest := by
  have uncut : Uncut line (terminator ++ rest) := Uncut.of_last fun isReturn => by
    have plain := oneLine _ (List.mem_of_getLast? isReturn)
    cases plain
  rw [walk_append uncut, walk_of_oneLine oneLine]
  cases ends with
  | both => rfl
  | single terminates alone =>
      rw [List.singleton_append, walk_cons, if_pos terminates]
      · rfl
      · rintro later isReturn rfl
        exact alone isReturn rfl

/-! Points. -/

structure Position.Bounded (place : Position) : Prop where
  line : place.line ≤ place.offset + 1
  column : place.column ≤ place.offset + 1

namespace Position.Bounded

variable {place : Position}

theorem step (bounded : place.Bounded) (char : Char) : (place.step char).Bounded := by
  have size := char.utf8Size_pos
  have line := bounded.line
  have column := bounded.column
  constructor <;> simp only [Position.step] <;> omega

theorem newLine (bounded : place.Bounded) {width : Nat} (positive : 0 < width) :
    (place.newLine width).Bounded := by
  have line := bounded.line
  constructor <;> simp only [Position.newLine] <;> omega

theorem walk (bounded : place.Bounded) (chars : List Char) : (place.walk chars).Bounded := by
  fun_induction Position.walk place chars with
  | case1 => exact bounded
  | case2 place rest induction => exact induction (bounded.newLine Nat.two_pos)
  | case3 place char rest alone induction =>
      refine induction ?_
      split
      · exact bounded.newLine char.utf8Size_pos
      · exact bounded.step char

end Position.Bounded

namespace ByteLexer

/-! Counting. -/

def Counts (lexer : ByteLexer) (before : List Char) (here : Position) : Prop :=
  ∃ counted ahead, before = counted ++ ahead ∧ lexer.counted = byteLength counted ∧
    lexer.line = here.line ∧ lexer.column + ahead.length = here.column ∧
    here.offset = byteLength before ∧ here.Bounded

namespace Counts

variable {lexer : ByteLexer} {before : List Char} {here : Position}

theorem step (counts : lexer.Counts before here) (char : Char) :
    lexer.Counts (before ++ [char]) (here.step char) := by
  rcases counts with ⟨counted, ahead, rfl, place, line, column, offset, bounded⟩
  refine ⟨counted, ahead ++ [char], List.append_assoc .., place, line, ?_, ?_, bounded.step char⟩
  · rw [List.length_append, List.length_singleton, ← Nat.add_assoc, column]
    rfl
  · rw [byteLength_append, ← offset]
    rfl

theorem steps (counts : lexer.Counts before here) (chars : List Char) :
    lexer.Counts (before ++ chars) (here.steps chars) := by
  induction chars generalizing before here with
  | nil => rwa [List.append_nil]
  | cons char chars induction =>
      rw [List.append_cons]
      exact induction (counts.step char)

/-- A line begins after a terminator, unless its number needs more than 32 bits. -/
theorem newLine (counts : lexer.Counts before here) {terminator : List Char}
    (positive : 0 < byteLength terminator)
    (small : byteLength (before ++ terminator) + 1 < Numeral.bound32) :
    ∃ line, lexer.newLine (byteLength (before ++ terminator)) =
        some { lexer with
          line := line, column := 1, counted := byteLength (before ++ terminator) } ∧
      { lexer with
          line := line, column := 1,
          counted := byteLength (before ++ terminator) : ByteLexer }.Counts
        (before ++ terminator) (here.newLine (byteLength terminator)) := by
  rcases counts with ⟨counted, ahead, rfl, place, line, column, offset, bounded⟩
  have fits : lexer.line + 1 < Numeral.bound32 := by
    have notBeyond := bounded.line
    rw [byteLength_append] at small
    omega
  refine ⟨lexer.line + 1, ?_, _, [], (List.append_nil _).symm, rfl, ?_, rfl, ?_,
    bounded.newLine positive⟩
  · rw [ByteLexer.newLine, sum?_of_lt fits]
    rfl
  · exact congrArg (· + 1) line
  · rw [byteLength_append, ← offset]
    rfl

theorem positionAt (counts : lexer.Counts before here) {rest : List Char}
    (split : lexer.source.toList = before ++ rest)
    (small : byteLength before + 1 < Numeral.bound32) :
    ∃ column, lexer.positionAt (byteLength before) =
        some (here, { lexer with column := column, counted := byteLength before }) ∧
      { lexer with column := column, counted := byteLength before : ByteLexer }.Counts before
        here := by
  rcases counts with ⟨counted, ahead, rfl, place, line, column, offset, bounded⟩
  have passed : Span.chars? ⟨lexer.counted, byteLength (counted ++ ahead)⟩ lexer.source.toList =
      some ahead := by
    rw [split, place, byteLength_append, List.append_assoc, Span.chars?_append]
  have notBeyond := bounded.column
  have total : sum? Numeral.bound32 lexer.column (low32 ahead.length) = some here.column := by
    rw [low32_of_lt (by omega), sum?_of_lt (by omega), column]
  refine ⟨here.column, ?_, _, [], (List.append_nil _).symm, rfl, line, rfl, offset, bounded⟩
  rw [ByteLexer.positionAt, passed]
  simp only [Option.bind_eq_bind, Option.bind_some, Option.pure_def, total]
  rw [low32_of_lt (by omega), line, ← offset]

end Counts

theorem lineWidth_encoded (chars : List Char) :
    lineWidth (encoded chars) = some (byteLength (chars.takeWhile (!isLineTerminator ·))) := by
  rcases LineBreak.search_encoded chars with ⟨none, oneLine⟩ |
    ⟨line, terminator, more, rfl, oneLine, ends, _, found⟩
  · have whole : chars.takeWhile (!isLineTerminator ·) = chars := by
      rw [← List.append_nil chars, List.takeWhile_append_of_pos, List.takeWhile_nil]
      intro char member
      rw [oneLine char member]
      rfl
    rw [lineWidth, none, whole, ← length_encoded]
    rfl
  · have taken : (line ++ (terminator ++ more)).takeWhile (!isLineTerminator ·) = line := by
      rw [List.takeWhile_append_of_pos fun char member => by rw [oneLine char member]; rfl]
      cases ends with
      | both => exact List.append_nil line
      | single terminates alone => simp [terminates]
    rw [lineWidth, found, taken]
    rfl

/-- Counting lines never fails; it leads to the end of the bytes. -/
theorem countLines_counts {lexer : ByteLexer} {before : List Char} {here : Position}
    (counts : lexer.Counts before here) (piece : List Char) (found : Bool)
    (small : byteLength (before ++ piece) + 1 < Numeral.bound32) :
    ∃ line column counted,
      countLines (encoded (before ++ piece)) (byteLength before) found lexer =
        some (found || piece.any isLineTerminator,
          { lexer with line := line, column := column, counted := counted }) ∧
      { lexer with line := line, column := column, counted := counted : ByteLexer }.Counts
        (before ++ piece) (here.walk piece) := by
  induction size : piece.length using Nat.strongRecOn
    generalizing lexer before here piece found with
  | ind size induction =>
      rw [countLines, loop_turn, countTurn, bytesFrom?_encoded]
      simp only [Option.bind_eq_bind, Option.bind_some]
      rcases LineBreak.search_encoded piece with ⟨none, oneLine⟩ |
        ⟨line, terminator, later, rfl, oneLine, ends, shorter, found?⟩
      · have noBreak : piece.any isLineTerminator = false :=
          List.any_eq_false.mpr fun char member => by rw [oneLine char member]; simp
        rw [none, noBreak, Bool.or_false, Position.walk_of_oneLine oneLine]
        exact ⟨lexer.line, lexer.column, lexer.counted, rfl, counts.steps piece⟩
      · have place : byteLength before + (byteLength line + byteLength terminator) =
            byteLength (before ++ line ++ terminator) := by
          simp only [byteLength_append]
          omega
        have bytes : before ++ (line ++ (terminator ++ later)) =
            before ++ line ++ terminator ++ later := by
          simp only [List.append_assoc]
        rw [size] at shorter
        have breaks : (line ++ (terminator ++ later)).any isLineTerminator = true := by
          cases ends with
          | both => simp [isLineTerminator]
          | single terminates alone => simp [terminates]
        have positive := ends.byteLength_pos
        rw [bytes] at small
        have within := small
        rw [byteLength_append] at within
        rcases (counts.steps line).newLine positive (by omega) with ⟨number, begins, starts⟩
        rw [found?, breaks, Bool.or_true, bytes, Position.walk_lineEnd oneLine ends]
        simp only [Option.bind_some, place, begins]
        have counted := induction later.length shorter starts later true small rfl
        rcases counted with ⟨newLine, column, place, found, counts⟩
        refine ⟨newLine, column, place, (if_pos ?_).trans found, counts⟩
        simp only [length_encoded, byteLength_append]
        omega

/-! Places. -/

structure Stands (lexer : ByteLexer) (source : String) (before : List Char) (model : Lexer) :
    Prop where
  text : lexer.source = source
  keywords : lexer.keywords = model.keywords
  split : source.toList = before ++ model.rest
  place : lexer.offset = byteLength before
  counts : lexer.Counts before model.position
  small : source.utf8ByteSize + 1 < Numeral.bound32

namespace Stands

variable {lexer : ByteLexer} {source : String} {before rest : List Char} {keywords : KeywordSet}
  {here : Position}

theorem byteLength_lt {model : Lexer} (stands : lexer.Stands source before model) :
    byteLength before + byteLength model.rest + 1 < Numeral.bound32 := by
  have small := stands.small
  rwa [← byteLength_toList, stands.split, byteLength_append] at small

theorem bytes_eq (stands : lexer.Stands source before ⟨keywords, rest, here⟩) :
    lexer.bytes = encoded before ++ encoded rest := by
  rw [bytes, stands.text, toUTF8_toList, stands.split]
  exact encoded_append before rest

theorem left_eq (stands : lexer.Stands source before ⟨keywords, rest, here⟩) :
    lexer.left = byteLength rest := by
  rw [left, stands.text, stands.place, ← byteLength_toList, stands.split, byteLength_append,
    Nat.add_sub_cancel_left]

theorem left_lt {char : Char} {next : ByteLexer} {passed later : List Char} {there : Position}
    (stands : lexer.Stands source before ⟨keywords, char :: rest, here⟩)
    (nextStands : next.Stands source passed ⟨keywords, later, there⟩)
    (le : byteLength later ≤ byteLength rest) : next.left < lexer.left := by
  have positive := char.utf8Size_pos
  rw [stands.left_eq, nextStands.left_eq, byteLength_cons]
  omega

theorem rest_eq (stands : lexer.Stands source before ⟨keywords, rest, here⟩) :
    lexer.rest = some rest := by
  rw [ByteLexer.rest, stands.text, stands.split, stands.place, Span.dropBytes_append]

theorem current_eq (stands : lexer.Stands source before ⟨keywords, rest, here⟩) :
    lexer.current = some rest.head? := by
  rw [current, stands.rest_eq, Option.map_some]

theorem byteAt_eq (passed : List Char)
    (stands : lexer.Stands source before ⟨keywords, passed ++ rest, here⟩) :
    lexer.byteAt (byteLength passed) = (encoded rest)[0]? := by
  rw [byteAt, stands.bytes_eq, encoded_append, ← List.append_assoc, stands.place,
    ← length_encoded, ← length_encoded, ← List.length_append]
  exact LineBreak.getElem?_length_add _ _ 0

theorem firstByte_eq (stands : lexer.Stands source before ⟨keywords, rest, here⟩) :
    lexer.byteAt 0 = (encoded rest)[0]? :=
  stands.byteAt_eq []

theorem bytesFrom?_eq (passed : List Char)
    (stands : lexer.Stands source before ⟨keywords, passed ++ rest, here⟩) :
    bytesFrom? lexer.bytes (lexer.offset + byteLength passed) = some (encoded rest) := by
  rw [stands.bytes_eq, encoded_append, ← List.append_assoc, stands.place,
    ← length_encoded, ← length_encoded, ← List.length_append, bytesFrom?_append]

theorem advance {passed : List Char}
    (stands : lexer.Stands source before ⟨keywords, passed ++ rest, here⟩) :
    (lexer.advance (byteLength passed)).Stands source (before ++ passed)
      ⟨keywords, rest, here.steps passed⟩ where
  text := stands.text
  keywords := stands.keywords
  split := by rw [stands.split, List.append_assoc]
  place := by rw [ByteLexer.advance, stands.place, byteLength_append]
  counts := stands.counts.steps passed
  small := stands.small

theorem advance_char {char : Char}
    (stands : lexer.Stands source before ⟨keywords, char :: rest, here⟩) :
    (lexer.advance char.utf8Size).Stands source (before ++ [char])
      ⟨keywords, rest, here.step char⟩ :=
  @advance lexer source before rest keywords here [char] stands

theorem passTerminator {char : Char} {more : List Char}
    (stands : lexer.Stands source before ⟨keywords, char :: more ++ rest, here⟩)
    (ends : LineEnd (char :: more) rest) :
    ∃ after, lexer.passTerminator char = some after ∧
      after.Stands source (before ++ char :: more)
        ⟨keywords, rest, here.newLine (byteLength (char :: more))⟩ := by
  have split : source.toList = before ++ char :: more ++ rest := by
    rw [stands.split, List.append_assoc]
  have passed : (lexer.advance char.utf8Size).Stands source (before ++ [char])
      ⟨keywords, more ++ rest, here.step char⟩ := stands.advance_char
  have feed : (lexer.advance char.utf8Size).byteAt 0 = some 0x0a ↔
      (more ++ rest).head? = some '\n' := by
    rw [passed.firstByte_eq]
    exact @getElem?_encoded '\n' (by decide) _
  have passes : lexer.passTerminator char =
      (lexer.advance (byteLength (char :: more))).newLine
        (byteLength (before ++ char :: more)) := by
    rw [byteLength_append, ← stands.place]
    cases ends with
    | both =>
        rw [ByteLexer.passTerminator, if_pos ⟨rfl, feed.mpr rfl⟩]
        rfl
    | single terminates alone =>
        rw [ByteLexer.passTerminator, if_neg fun both => alone both.1 (feed.mp both.2)]
        rfl
  have counts : (lexer.advance (byteLength (char :: more))).Counts before here := stands.counts
  have small : byteLength (before ++ char :: more) + 1 < Numeral.bound32 := by
    have fits := stands.byteLength_lt
    simp only [List.cons_append, byteLength_append, byteLength_cons] at fits ⊢
    omega
  rcases counts.newLine ends.byteLength_pos small with ⟨line, begins, starts⟩
  refine ⟨_, passes.trans begins, stands.text, stands.keywords, split, ?_, starts, stands.small⟩
  rw [byteLength_append, ← stands.place]
  rfl

/-- One part of the space is passed, and what is left to skip begins where the part ends. -/
def PassesPart (lexer : ByteLexer) (source : String) (model : Lexer) (broke : Bool) : Prop :=
  ∃ (next : ByteLexer) (before later : List Char) (there : Position) (ended : Bool),
    lexer.skipTrivia broke = next.skipTrivia ended ∧
    next.Stands source before ⟨model.keywords, later, there⟩ ∧
    Trivia.skip .plain model.rest model.position broke = Trivia.skip .plain later there ended ∧
    later.length < model.rest.length

theorem passes_lineEnd {char : Char}
    (stands : lexer.Stands source before ⟨keywords, char :: rest, here⟩)
    (terminates : isLineTerminator char = true) (broke : Bool) :
    PassesPart lexer source ⟨keywords, char :: rest, here⟩ broke := by
  rcases LineEnd.of_isLineTerminator terminates rest with ⟨more, later, rfl, ends⟩
  rcases stands.passTerminator ends with ⟨after, passes, afterStands⟩
  refine ⟨after, _, later, _, true, ?_, afterStands,
    Trivia.skip_lineEnd ends .plain here broke, ?_⟩
  · rw [skipTrivia, loop_turn, triviaTurn, stands.current_eq]
    simp only [List.head?_cons, Option.bind_eq_bind, Option.bind_some, if_pos terminates, passes]
    refine if_pos (stands.left_lt afterStands ?_)
    rw [byteLength_append]
    exact Nat.le_add_left _ _
  · simp only [List.length_cons, List.length_append]
    omega

theorem secondByte_eq (stands : lexer.Stands source before ⟨keywords, '/' :: rest, here⟩)
    (char : Char) (ascii : char.toNat < 0x80) :
    lexer.byteAt 1 = some (UInt8.ofNat char.toNat) ↔ rest.head? = some char := by
  have second : lexer.byteAt 1 = (encoded rest)[0]? := stands.byteAt_eq ['/']
  rw [second, getElem?_encoded ascii]

theorem passes_lineComment
    (stands : lexer.Stands source before ⟨keywords, '/' :: '/' :: rest, here⟩) (broke : Bool) :
    PassesPart lexer source ⟨keywords, '/' :: '/' :: rest, here⟩ broke := by
  have second : lexer.byteAt 1 = some 0x2f := (stands.secondByte_eq '/' (by decide)).mpr rfl
  have bytes : bytesFrom? lexer.bytes lexer.offset = some (encoded ('/' :: '/' :: rest)) :=
    stands.bytesFrom?_eq []
  have width := lineWidth_encoded ('/' :: '/' :: rest)
  have stands' : lexer.Stands source before ⟨keywords, '/' :: '/' ::
      (rest.takeWhile (!isLineTerminator ·)) ++ rest.dropWhile (!isLineTerminator ·), here⟩ := by
    simpa using stands
  refine ⟨_, _, _, _, broke, ?_, stands'.advance, ?_, ?_⟩
  · rw [skipTrivia, loop_turn, triviaTurn, stands.current_eq]
    simp only [Option.bind_eq_bind, List.head?_cons, Option.bind_some]
    rw [if_neg (by decide), if_pos ⟨trivial, second⟩, bytes]
    simp only [Option.bind_some, width]
    refine if_pos (stands.left_lt stands'.advance ?_)
    have whole := congrArg byteLength
      (List.takeWhile_append_dropWhile (p := (!isLineTerminator ·)) (l := rest))
    rw [byteLength_append] at whole
    rw [byteLength_cons]
    omega
  · rw [Trivia.skip]
    exact Trivia.skip_lineComment rest _ broke
  · have bound := (List.dropWhile_suffix (l := rest) (!isLineTerminator ·)).length_le
    simp only [List.length_cons]
    omega

theorem passes_blockComment
    (stands : lexer.Stands source before ⟨keywords, '/' :: '*' :: rest, here⟩) (broke : Bool) :
    PassesPart lexer source ⟨keywords, '/' :: '*' :: rest, here⟩ broke := by
  have second : lexer.byteAt 1 = some 0x2a := (stands.secondByte_eq '*' (by decide)).mpr rfl
  have bytes : bytesFrom? lexer.bytes (lexer.offset + 2) = some (encoded rest) :=
    stands.bytesFrom?_eq ['/', '*']
  rcases Trivia.skip_blockComment rest with ⟨comment, later, rfl, width, skipped⟩
  let opening := before ++ ['/', '*']
  have opened : lexer.Counts opening (here.steps ['/', '*']) := stands.counts.steps ['/', '*']
  have body : lexer.offset + 2 = byteLength opening := by
    rw [byteLength_append, stands.place]
    rfl
  have stop : byteLength opening + byteLength comment = byteLength (opening ++ comment) :=
    (byteLength_append _ _).symm
  have closed : bytesTo? lexer.bytes (byteLength (opening ++ comment)) =
      some (encoded (opening ++ comment)) := by
    have whole : lexer.bytes = encoded (opening ++ comment) ++ encoded later := by
      rw [stands.bytes_eq, ← encoded_append, ← encoded_append]
      simp [opening]
    rw [whole, ← length_encoded, bytesTo?, if_pos (by simp), List.take_left]
  have small : byteLength (opening ++ comment) + 1 < Numeral.bound32 := by
    have fits := stands.byteLength_lt
    simp only [opening, byteLength_append, byteLength_cons, byteLength_nil] at fits ⊢
    omega
  rcases countLines_counts opened comment false small with
    ⟨line, column, counted, found, counts⟩
  let next : ByteLexer := { lexer with
    offset := byteLength (opening ++ comment), line := line, column := column, counted := counted }
  have passed : next.Stands source (opening ++ comment)
      ⟨keywords, later, (here.steps ['/', '*']).walk comment⟩ :=
    ⟨stands.text, stands.keywords, by rw [stands.split]; simp [opening], rfl, counts, stands.small⟩
  refine ⟨next, _, later, _, broke || comment.any isLineTerminator, ?_, passed, ?_, ?_⟩
  · rw [skipTrivia, loop_turn, triviaTurn, stands.current_eq]
    simp only [Option.bind_eq_bind, List.head?_cons, Option.bind_some]
    rw [if_neg (by decide), if_neg (by rw [second]; decide), if_pos ⟨trivial, second⟩, bytes]
    simp only [Option.bind_some]
    rw [width, body, stop, closed]
    simp only [Option.bind_some, found, Bool.false_or]
    refine if_pos (stands.left_lt passed ?_)
    simp only [byteLength_cons, byteLength_append]
    omega
  · rw [Trivia.skip]
    exact skipped _ broke
  · simp only [List.length_cons, List.length_append]
    omega

theorem passes_blank {char : Char}
    (stands : lexer.Stands source before ⟨keywords, char :: rest, here⟩)
    (blank : isBlank char = true) (sameLine : isLineTerminator char = false) (broke : Bool) :
    PassesPart lexer source ⟨keywords, char :: rest, here⟩ broke := by
  have noSlash : char ≠ '/' := by
    rintro rfl
    cases blank
  have noReturn : char ≠ '\r' := by
    rintro rfl
    cases sameLine
  refine ⟨_, _, rest, _, broke, ?_, stands.advance_char, ?_, Nat.lt_succ_self _⟩
  · rw [skipTrivia, loop_turn, triviaTurn, stands.current_eq]
    simp only [Option.bind_eq_bind, List.head?_cons, Option.bind_some]
    rw [if_neg (by rw [sameLine]; decide), if_neg fun slash => noSlash slash.1,
      if_neg fun slash => noSlash slash.1, if_pos blank]
    exact if_pos (stands.left_lt stands.advance_char (Nat.le_refl _))
  · rw [Trivia.skip.eq_6 .plain _ _ _ _ (fun _ isReturn => absurd isReturn noReturn)
      (fun _ _ isSlash => absurd isSlash noSlash) (fun _ _ isSlash => absurd isSlash noSlash)
      (by rintro _ ⟨⟩), if_neg (by rw [sameLine]; decide), if_pos (by rw [blank]; rfl)]

theorem passesPart_or_stops (stands : lexer.Stands source before ⟨keywords, rest, here⟩)
    (broke : Bool) :
    PassesPart lexer source ⟨keywords, rest, here⟩ broke ∨
      lexer.skipTrivia broke = some (broke, lexer) ∧
        Trivia.skip .plain rest here broke = ⟨rest, here, broke⟩ := by
  rw [skipTrivia, loop_turn, triviaTurn, stands.current_eq]
  cases rest with
  | nil => exact .inr ⟨rfl, by rw [Trivia.skip]⟩
  | cons char rest =>
      cases terminates : isLineTerminator char with
      | true => exact .inl (stands.passes_lineEnd terminates broke)
      | false =>
          by_cases line : char = '/' ∧ rest.head? = some '/'
          · rcases line with ⟨rfl, isSlash⟩
            rcases List.head?_eq_some_iff.mp isSlash with ⟨rest, rfl⟩
            exact .inl (stands.passes_lineComment broke)
          by_cases block : char = '/' ∧ rest.head? = some '*'
          · rcases block with ⟨rfl, isStar⟩
            rcases List.head?_eq_some_iff.mp isStar with ⟨rest, rfl⟩
            exact .inl (stands.passes_blockComment broke)
          cases blank : isBlank char with
          | true => exact .inl (stands.passes_blank blank terminates broke)
          | false =>
              have noLine : ¬(char = '/' ∧ lexer.byteAt 1 = some 0x2f) := by
                rintro ⟨rfl, second⟩
                exact line ⟨rfl, (stands.secondByte_eq '/' (by decide)).mp second⟩
              have noBlock : ¬(char = '/' ∧ lexer.byteAt 1 = some 0x2a) := by
                rintro ⟨rfl, second⟩
                exact block ⟨rfl, (stands.secondByte_eq '*' (by decide)).mp second⟩
              have alone : ∀ later, char = '\r' → rest = '\n' :: later → False := by
                rintro later rfl -
                cases terminates
              refine .inr ⟨?_, ?_⟩
              · simp only [Option.bind_eq_bind, List.head?_cons, Option.bind_some]
                rw [if_neg (by rw [terminates]; decide), if_neg noLine, if_neg noBlock,
                  if_neg (by rw [blank]; decide)]
                rfl
              · rw [Trivia.skip.eq_6 .plain _ _ _ _ alone
                  (fun later _ isSlash next => line ⟨isSlash, by rw [next]; rfl⟩)
                  (fun later _ isSlash next => block ⟨isSlash, by rw [next]; rfl⟩)
                  (by rintro _ ⟨⟩),
                  if_neg (by rw [terminates]; decide), if_neg (by rw [blank]; decide)]

/-- Skipping space never fails, and leads to the same place as a skip by characters. -/
theorem skipTrivia_eq (stands : lexer.Stands source before ⟨keywords, rest, here⟩) (broke : Bool) :
    ∃ after passed,
      lexer.skipTrivia broke = some ((Trivia.skip .plain rest here broke).brokeLine, after) ∧
      after.Stands source passed ⟨keywords, (Trivia.skip .plain rest here broke).rest,
        (Trivia.skip .plain rest here broke).position⟩ := by
  induction size : rest.length using Nat.strongRecOn
    generalizing lexer before rest here broke with
  | ind size induction =>
      rcases stands.passesPart_or_stops broke with
        ⟨next, passed, later, there, ended, step, nextStands, skipped, shorter⟩ |
        ⟨stops, skipped⟩
      · rw [step, skipped]
        exact induction later.length (size ▸ shorter) nextStands ended rfl
      · rw [stops, skipped]
        exact ⟨lexer, before, rfl, stands⟩

end Stands

end ByteLexer

end TypedScript
