import TypedScript.Proofs.Lexing.SharedBeginning
import TypedScript.Proofs.Reading.Programs
import TypedScript.Proofs.TwoRuns.Statements

/-!
The error of a text that breaks off. Main statement: if a text is a program up to the place where no
token can be read, so that another text goes on from there as a program, then the answer is the
error of that place. The one exception are parentheses before it that begin an arrow function in the
other text: where their end cannot be seen they are taken for an expression.
-/

namespace TypedScript

/-! Tokens before the place where a text breaks off. -/

namespace Lexer

theorem gap_le_start (lexer : Lexer) :
    ∀ token ∈ lexer.run.withEnd, lexer.gap.position.offset ≤ token.start := by
  induction lexer using run.induct with
  | case1 lexer error failed => simp [Lexed.withEnd, run_of_fault failed]
  | case2 lexer last after found isEnd =>
      simp [Lexed.withEnd, run_of_end found isEnd, next_start found]
  | case3 lexer first after found more induction =>
      intro token member
      rw [withEnd_of_token found more] at member
      rcases List.mem_cons.mp member with rfl | later
      · exact Nat.le_of_eq (next_start found).symm
      · have bounds := next_bounds found more
        have nonempty := next_nonempty found more
        have gap := after.offset_le_gap
        have further := induction token later
        rw [next_start found] at nonempty
        omega

theorem no_token_at_digit {keywords : KeywordSet} {digits : List Char} {here : Position}
    (digit : Scan.startsWithDigit digits = true) {token : Token}
    (member : token ∈ (mk keywords ('.' :: digits) here).run.withEnd) :
    token.start ≠ here.offset + 1 := by
  intro start
  have gap : (mk keywords ('.' :: digits) here).gap = ⟨'.' :: digits, here, false⟩ := rfl
  rcases mem_withEnd member with ⟨first, after, found, rfl | ⟨more, later⟩⟩
  · have place := next_start found
    rw [gap] at place
    exact absurd (place.symm.trans start) (Nat.ne_of_lt (Nat.lt_succ_self _))
  · have notBefore := Nat.le_trans after.offset_le_gap (gap_le_start after token later)
    rcases next_eq_ok found more with ⟨_, _, scanned, shape, scans, rfl, rfl⟩
    rw [gap] at shape scans
    cases shape
    cases digits with
    | nil => cases digit
    | cons decimal decimals =>
        have isDecimal : isDigit decimal = true := digit
        have noDigit : isDigit '.' = false := by decide
        have number : (Scan.splitNumber ('.' :: decimal :: decimals)).1 =
            '.' :: decimal :: decimals.takeWhile isDigit := by
          rw [Scan.splitNumber_of_point (List.dropWhile_cons_of_neg (by simp [noDigit])) isDecimal]
          simp [noDigit, isDecimal]
        rcases Scan.scan_mark_or_number scans (by decide) (by decide) with
          ⟨_, _, none, _⟩ | ⟨_, _, rfl⟩
        · cases number.symm.trans none
        · have stop := Scan.scan_offset scans
          have width := decimal.utf8Size_pos
          have pointWidth : '.'.utf8Size = 1 := rfl
          simp only [Scan.plain, number, byteLength_cons] at stop notBefore
          omega

theorem gap_common {keywords : KeywordSet} {common rest otherRest : List Char} {here : Position}
    (stops : (mk keywords (common ++ rest) here).gap.position.offset <
      here.offset + byteLength common)
    (otherStops : (mk keywords (common ++ otherRest) here).gap.position.offset ≤
      here.offset + byteLength common) :
    ∃ first tail, (mk keywords (common ++ rest) here).gap.rest = first :: (tail ++ rest) ∧
      (mk keywords (common ++ otherRest) here).gap =
        { (mk keywords (common ++ rest) here).gap with rest := first :: (tail ++ otherRest) } := by
  have offset := gap_offset (mk keywords (common ++ rest) here)
  have otherOffset := gap_offset (mk keywords (common ++ otherRest) here)
  simp only [limit, byteLength_append] at offset otherOffset
  refine Trivia.skip_common ?_ ?_
  · change byteLength rest < byteLength (mk keywords (common ++ rest) here).gap.rest
    omega
  · change byteLength otherRest ≤ byteLength (mk keywords (common ++ otherRest) here).gap.rest
    omega

/-- The next token is the same in both texts, if it ends within the beginning and the second has a
token where the beginning ends. -/
theorem next_common {keywords : KeywordSet} {common rest otherRest : List Char} {here : Position}
    {token : Token} {after : Lexer}
    (found : (mk keywords (common ++ rest) here).next = .ok (token, after))
    (more : token.kind ≠ .endOfFile) (within : token.stop ≤ here.offset + byteLength common)
    (noDigit : Scan.startsWithDigit rest = false) {last : Token}
    (member : last ∈ (mk keywords (common ++ otherRest) here).run.withEnd)
    (start : last.start = here.offset + byteLength common) :
    ∃ left position, after = ⟨keywords, left ++ rest, position⟩ ∧
      position.offset + byteLength left = here.offset + byteLength common ∧
      (mk keywords (common ++ otherRest) here).next =
        .ok (token, ⟨keywords, left ++ otherRest, position⟩) := by
  have nonempty := next_nonempty found more
  have tokenStart := next_start found
  rcases @gap_common keywords common rest otherRest here (by omega)
    (start ▸ gap_le_start _ last member) with ⟨first, tail, shape, otherGap⟩
  rcases mem_withEnd member with ⟨other, otherAfter, otherFound, isLast⟩
  have otherStart := next_start otherFound
  simp only [otherGap] at otherStart
  have inside : other.kind ≠ .endOfFile ∧ last ∈ otherAfter.run.withEnd := by
    rcases isLast with rfl | later
    · omega
    · exact later
  have notBefore := Nat.le_trans otherAfter.offset_le_gap (gap_le_start _ last inside.2)
  have offset := gap_offset (mk keywords (common ++ rest) here)
  rcases next_eq_ok found more with ⟨_, _, scanned, sameShape, scans, rfl, rfl⟩
  cases shape.symm.trans sameShape
  rcases next_eq_ok otherFound inside.1 with ⟨_, _, otherScanned, otherShape, otherScans, rfl, rfl⟩
  simp only [otherGap] at otherShape otherScans
  cases otherShape
  have size := congrArg byteLength (Scan.scan_ok scans).1
  have otherSize := congrArg byteLength (Scan.scan_ok otherScans).1
  have stop := Scan.scan_offset scans
  have otherStop := Scan.scan_offset otherScans
  simp only [shape, limit, byteLength_cons, byteLength_append] at offset size otherSize
  dsimp only at within notBefore
  rcases Scan.scan_common scans (by omega) otherScans (by omega) noDigit with
    ⟨left, leftShape, rfl | ⟨point, digit⟩⟩
  · refine ⟨left, scanned.after, by rw [leftShape], ?_, ?_⟩
    · rw [leftShape, byteLength_append] at size
      omega
    · rw [otherFound, otherGap]
  · rw [point] at inside otherSize
    have width : '.'.utf8Size = 1 := rfl
    simp only [byteLength_cons] at otherSize
    exact absurd (by omega) (no_token_at_digit digit inside.2)

/-- A text that breaks off where its beginning ends has only tokens that the other has too, if the
other has one there. -/
theorem run_common {lexer : Lexer} : ∀ {common rest otherRest : List Char} {last : Token},
    lexer.rest = common ++ rest → Scan.startsWithDigit rest = false →
    (∀ token ∈ lexer.run.tokens, token.stop ≤ lexer.position.offset + byteLength common) →
    last ∈ (mk lexer.keywords (common ++ otherRest) lexer.position).run.withEnd →
    last.start = lexer.position.offset + byteLength common →
    ∃ more, (mk lexer.keywords (common ++ otherRest) lexer.position).run.tokens =
      lexer.run.tokens ++ more := by
  induction lexer using run.induct with
  | case1 lexer error failed =>
      intros
      exact ⟨_, by rw [(run_of_fault failed).1, List.nil_append]⟩
  | case2 lexer token after found isEnd =>
      intros
      exact ⟨_, by rw [(run_of_end found isEnd).1, List.nil_append]⟩
  | case3 lexer token after found more induction =>
      intro common rest otherRest last shape noDigit within member start
      rcases lexer with ⟨keywords, chars, here⟩
      dsimp only at shape within member start ⊢
      subst shape
      rw [(run_of_token found more).1] at within ⊢
      rcases List.forall_mem_cons.mp within with ⟨first, others⟩
      rcases next_common found more first noDigit member start with
        ⟨left, position, rfl, place, otherFound⟩
      rw [withEnd_of_token otherFound more] at member
      have nonempty := next_nonempty found more
      have later : last ∈ (mk keywords (left ++ otherRest) position).run.withEnd := by
        rcases List.mem_cons.mp member with rfl | later
        · omega
        · exact later
      rcases induction rfl noDigit (by rw [place]; exact others) later (start.trans place.symm) with
        ⟨rest, same⟩
      exact ⟨rest, by rw [(run_of_token otherFound more).1, same, List.cons_append]⟩

/-- Where a text breaks off no digit stands, and all of its tokens end before. -/
theorem run_failure {lexer : Lexer} {error : LexicalError} :
    lexer.run.ending = .failure error →
    (∀ token ∈ lexer.run.tokens, token.stop ≤ error.position.offset) ∧
    ∃ before after, lexer.rest = before ++ after ∧
      error.position.offset = lexer.position.offset + byteLength before ∧
      Scan.startsWithDigit after = false := by
  induction lexer using run.induct with
  | case1 lexer other failed =>
      intro ending
      cases (run_of_fault failed).2.symm.trans ending
      rcases Trivia.skip_rest_suffix .plain lexer.rest lexer.position false with ⟨before, whole⟩
      have offset := lexer.gap_offset
      have size := congrArg byteLength whole
      simp only [limit, byteLength_append] at offset size
      rcases lexer.next_cases with finished | ⟨first, chars, fault, gapShape, scanFailed⟩ |
        ⟨_, _, _, gapShape, scans⟩
      · cases failed.symm.trans (next_of_end finished)
      · cases failed.symm.trans (next_of_fault gapShape scanFailed)
        refine ⟨by simp [(run_of_fault failed).1], before, lexer.gap.rest, whole.symm, ?_, ?_⟩
        · dsimp only
          rw [gap] at offset ⊢
          omega
        · rw [gapShape]
          exact Scan.startsWithDigit_of_error scanFailed
      · cases failed.symm.trans (next_of_scan gapShape scans)
  | case2 lexer token after found isEnd =>
      intro ending
      cases (run_of_end found isEnd).2.symm.trans ending
  | case3 lexer token after found more induction =>
      intro ending
      rw [(run_of_token found more).2] at ending
      rcases induction ending with ⟨stops, before, rest, shape, place, noDigit⟩
      rcases next_bounds found more with ⟨_, stop, sameLimit⟩
      rcases next_eq_ok found more with ⟨first, chars, scanned, gapShape, scans, rfl, rfl⟩
      rcases Trivia.skip_rest_suffix .plain lexer.rest lexer.position false with ⟨skipped, whole⟩
      have read : lexer.rest = skipped ++ scanned.text ++ before ++ rest := by
        rw [← whole, ← gap, gapShape, ← (Scan.scan_ok scans).1]
        simp_all
      refine ⟨?_, skipped ++ scanned.text ++ before, rest, read, ?_, noDigit⟩
      · rw [(run_of_token found more).1]
        refine List.forall_mem_cons.mpr ⟨?_, stops⟩
        dsimp only at place ⊢
        omega
      · dsimp only at shape place
        simp only [limit, shape, read, byteLength_append] at sameLimit ⊢
        omega

theorem split_line {common rest tail : List Char} (shape : common ++ rest = '#' :: '!' :: tail)
    (within : (Position.origin.steps ((common ++ rest).takeWhile (!isLineTerminator ·))).offset ≤
      byteLength common) :
    ∃ left, (common ++ rest).takeWhile (!isLineTerminator ·) ++ left = common ∧
      (common ++ rest).dropWhile (!isLineTerminator ·) = left ++ rest ∧
      ∃ more, common = '#' :: '!' :: more := by
  have whole := @List.takeWhile_append_dropWhile _ (!isLineTerminator ·) (common ++ rest)
  have size := congrArg byteLength whole
  rw [Position.steps_offset] at within
  simp only [byteLength_append] at size
  rcases split_common _ whole (by simp only [Position.origin] at within; omega) with
    ⟨left, taken, later⟩
  refine ⟨left, taken.symm, later, ?_⟩
  rw [shape] at taken
  exact ⟨_, taken⟩

theorem ofChars_common {keywords : KeywordSet} {common rest otherRest : List Char}
    (within : (ofChars keywords (common ++ rest)).position.offset ≤ byteLength common)
    (otherWithin : (ofChars keywords (common ++ otherRest)).position.offset ≤ byteLength common) :
    ∃ left position, ofChars keywords (common ++ rest) = ⟨keywords, left ++ rest, position⟩ ∧
      ofChars keywords (common ++ otherRest) = ⟨keywords, left ++ otherRest, position⟩ ∧
      position.offset + byteLength left = byteLength common := by
  rcases ofChars_cases keywords (common ++ rest) with ⟨tail, shape, read⟩ | ⟨noLine, read⟩
  · rw [read] at within
    rcases split_line shape within with ⟨left, taken, later, more, start⟩
    rcases ofChars_cases keywords (common ++ otherRest) with
      ⟨otherTail, otherShape, otherRead⟩ | ⟨noLine, _⟩
    · rw [otherRead] at otherWithin
      rcases split_line otherShape otherWithin with ⟨otherLeft, otherTaken, otherLater, _⟩
      have sameLine := (takeWhile_common taken).trans (takeWhile_common otherTaken).symm
      rw [← sameLine] at otherTaken
      have sameLeft : otherLeft = left := List.append_cancel_left (otherTaken.trans taken.symm)
      refine ⟨left, _, by rw [read, later], by rw [otherRead, otherLater, sameLeft, sameLine], ?_⟩
      have size := congrArg byteLength taken
      rw [byteLength_append] at size
      rw [Position.steps_offset]
      simp only [Position.origin]
      omega
    · exact absurd (by rw [start]; rfl) (noLine _)
  · rcases ofChars_cases keywords (common ++ otherRest) with
      ⟨otherTail, otherShape, otherRead⟩ | ⟨_, otherRead⟩
    · rw [otherRead] at otherWithin
      rcases split_line otherShape otherWithin with ⟨_, _, _, more, start⟩
      exact absurd (by rw [start]; rfl) (noLine _)
    · exact ⟨common, .origin, read, otherRead, Nat.zero_add _⟩

end Lexer

/-- A text that breaks off where its beginning ends has only tokens that another text with the same
beginning has too, if the other has a token there. -/
theorem lex_common {keywords : KeywordSet} {common rest otherRest : String} {error : LexicalError}
    (failed : (lex keywords (common ++ rest)).ending = .failure error)
    (place : error.position.offset = common.utf8ByteSize) {token : Token}
    (member : token ∈ (lex keywords (common ++ otherRest)).withEnd)
    (start : token.start = common.utf8ByteSize) :
    ∃ more, (lex keywords (common ++ otherRest)).tokens =
      (lex keywords (common ++ rest)).tokens ++ more := by
  simp only [lex, Lexer.ofSource, String.toList_append, ← byteLength_toList] at *
  rcases Lexer.run_failure failed with ⟨stops, before, after, shape, offset, noDigit⟩
  have notBefore := Nat.le_trans (Lexer.offset_le_gap _) (Lexer.gap_le_start _ token member)
  rcases @Lexer.ofChars_common keywords common.toList rest.toList otherRest.toList (by omega)
    (by omega) with ⟨left, position, read, otherRead, size⟩
  rw [read] at shape offset stops ⊢
  rw [otherRead] at member ⊢
  have sameLength : byteLength before = byteLength left := by
    dsimp only at offset
    omega
  have sameRest : after = rest.toList := by
    rcases split_common before shape.symm (by
      have sizes := congrArg byteLength shape
      simp only [byteLength_append] at sizes
      omega) with ⟨middle, rfl, same⟩
    rw [byteLength_append] at sameLength
    rw [same, byteLength_eq_zero.mp (by omega : byteLength middle = 0), List.nil_append]
  rw [sameRest] at noDigit
  exact Lexer.run_common rfl noDigit (by simpa only [place, ← size] using stops) member
    (start.trans size.symm)

/-! Both texts side by side. -/

/-- All parentheses of a text begin arrow functions as far as those of the other do. -/
def Lexed.ArrowsAlike (lexed other : Lexed) : Prop :=
  ∀ index < lexed.tokens.length,
    (lexed.tokens[index]?.any (·.isMark .openParen)) = true →
      Parse.arrowLookahead (lexed.tokens.drop index) =
        Parse.arrowLookahead (other.tokens.drop index)

instance (lexed other : Lexed) : Decidable (lexed.ArrowsAlike other) :=
  inferInstanceAs (Decidable (∀ index < lexed.tokens.length,
    (lexed.tokens[index]?.any (·.isMark .openParen)) = true →
      Parse.arrowLookahead (lexed.tokens.drop index) =
        Parse.arrowLookahead (other.tokens.drop index)))

theorem GoOnAlike.ofBreak (error : LexicalError) (tokens more : List Token) (ending : Ending) :
    GoOnAlike Eq True tokens (.failure error) (tokens ++ more) ending := by
  induction tokens with
  | nil => exact .brokenOff trivial
  | cons token tokens induction => exact .token ⟨rfl, rfl, rfl, rfl, rfl, rfl⟩ induction

namespace TwoRuns

def ofBreak {left right : Lexed} {error : LexicalError} (limit : Nat)
    (failed : left.ending = .failure error)
    (goesOn : ∃ more, right.tokens = left.tokens ++ more) (arrows : left.ArrowsAlike right) :
    TwoRuns where
  left := left
  right := right
  passed := 0
  otherPassed := 0
  Offsets := Eq
  move := id
  otherMove := id
  limit := limit
  extra := 0
  cut := True
  moves := moves_same
  greater := greater_same
  sinceBeginning := greater_same rfl
  goOn := by
    rcases goesOn with ⟨more, shape⟩
    rw [List.drop_zero, List.drop_zero, failed, shape]
    exact .ofBreak error left.tokens more right.ending
  touching := by
    rcases goesOn with ⟨more, shape⟩
    intro index first second otherFirst otherSecond found foundNext otherFound otherFoundNext _ _
    rw [shape] at otherFound otherFoundNext
    refine (GoOnAlike.ofBreak error left.tokens more right.ending).touching ?_ found foundNext
      otherFound otherFoundNext
    rintro _ _ _ _ rfl rfl
    exact Iff.rfl
  lookahead := by
    intro _ index token found isOpen
    rw [Nat.zero_add] at found ⊢
    exact arrows index (List.getElem?_eq_some_iff.mp found).1 (by simp [found, isOpen])

end TwoRuns

/-- A text that breaks off after what could be the beginning of a program has no other error. -/
theorem parseProgram_of_break (options : ParseOptions) (common rest otherRest : String)
    {error : LexicalError} {token : Token} {program : Program}
    (failed : (lex options.keywords (common ++ rest)).error? = some error)
    (place : error.position.offset = common.utf8ByteSize)
    (member : token ∈ (lex options.keywords (common ++ otherRest)).withEnd)
    (start : token.start = common.utf8ByteSize)
    (parsed : parseProgram options (common ++ otherRest) = .ok program)
    (arrows : (lex options.keywords (common ++ rest)).ArrowsAlike
      (lex options.keywords (common ++ otherRest))) :
    parseProgram options (common ++ rest) = .error (.lexical error) := by
  have ending : (lex options.keywords (common ++ rest)).ending = .failure error := by
    rw [Lexed.error?] at failed
    split at failed
    · cases failed
    · next shape =>
        cases failed
        exact shape
  let runs := TwoRuns.ofBreak options.nestingLimit ending (lex_common ending place member start)
    arrows
  have statements : ∀ outer otherOuter, runs.Nestings outer otherOuter →
      runs.Alike (runs.Same (each Statement.relocate)) (Parse.statements outer)
        (Parse.statements otherOuter) := fun _ _ => TwoRuns.statements_alike
  rcases TwoRuns.run_outcomes statements options options (common ++ rest) (common ++ otherRest)
    rfl rfl rfl rfl rfl rfl with
    ⟨list, _, read, _⟩ | ⟨_, _, _, otherFailed, _⟩ | ⟨_, stopped, stops⟩
  · have read : parseProgram options (common ++ rest) =
        .ok ⟨⟨0, (common ++ rest).utf8ByteSize⟩, list⟩ := by
      rw [parseProgram, read]
      rfl
    rcases (parseProgram_eq_ok read).2.1 with ⟨_, isEnd⟩
    cases ending.symm.trans isEnd
  · rw [parseProgram, otherFailed] at parsed
    cases parsed
  · cases stops with
    | refused wider => exact absurd wider (Nat.lt_irrefl 0)
    | brokenOff _ failure =>
        cases ending.symm.trans failure
        rw [parseProgram, stopped]
        rfl

theorem parseProgram_of_break_sum :
    (lex .full "let a = (b) => f(b + @").ArrowsAlike (lex .full "let a = (b) => f(b + c)") ∧
      parseProgram .default "let a = (b) => f(b + @" =
        .error (.lexical ⟨.unexpectedCharacter '@', ⟨21, 1, 22⟩⟩) := by
  have arrows : (lex .full "let a = (b) => f(b + @").ArrowsAlike
      (lex .full "let a = (b) => f(b + c)") := by
    decide +kernel
  have failed : (lex .full "let a = (b) => f(b + @").error? =
      some ⟨.unexpectedCharacter '@', ⟨21, 1, 22⟩⟩ := by
    decide +kernel
  have member : ⟨.identifier, "c", ⟨21, 1, 22⟩, 22, false, false⟩ ∈
      (lex .full "let a = (b) => f(b + c)").withEnd := by
    decide +kernel
  have accepted : (parseProgram .default "let a = (b) => f(b + c)").isOk = true := by
    decide +kernel
  rcases exists_of_isOk accepted with ⟨program, parsed⟩
  exact ⟨arrows, parseProgram_of_break .default "let a = (b) => f(b + " "@" "c)" failed
    (by decide +kernel) member (by decide +kernel) parsed arrows⟩

/-- Where parentheses that begin an arrow function are cut short, the error is one of grammar: they
are taken for an expression, in which no colon can stand. -/
theorem parseProgram_of_break_in_arrow :
    (lex .full ("(a: b, " ++ "@")).error? = some ⟨.unexpectedCharacter '@', ⟨7, 1, 8⟩⟩ ∧
      ("(a: b, ").utf8ByteSize = 7 ∧
      (∃ token ∈ (lex .full ("(a: b, " ++ "c) => d")).withEnd, token.start = 7) ∧
      (parseProgram .default ("(a: b, " ++ "c) => d")).isOk = true ∧
      parseProgram .default ("(a: b, " ++ "@") ≠
        .error (.lexical ⟨.unexpectedCharacter '@', ⟨7, 1, 8⟩⟩) ∧
      ∃ expected found, parseProgram .default ("(a: b, " ++ "@") =
        .error (.grammar ⟨.unexpectedToken, expected, found⟩) ∧ found.start = 2 := by
  have rejected : (match parseProgram .default ("(a: b, " ++ "@") with
      | .error (.grammar ⟨.unexpectedToken, _, found⟩) => found.start == 2
      | _ => false) = true := by
    decide +kernel
  split at rejected
  · next expected found answer =>
      refine ⟨by decide +kernel, by decide +kernel, by decide +kernel, by decide +kernel, ?_,
        expected, found, answer, beq_iff_eq.mp rejected⟩
      rw [answer]
      simp
  · cases rejected

end TypedScript
