import TypedScript.Proofs.Lexing.Separators
import TypedScript.Proofs.Lexing.Shift
import TypedScript.Proofs.Reading.Programs
import TypedScript.Proofs.Tiling

/-!
Two texts with a line feed between them. Main statement: the tokens of the whole are those of the
first text, as they are, and then those of the second, each as much later as the first text and the
line feed are long. Only the first token of the second text may differ: a line has ended before it.
-/

namespace TypedScript

/-! Space before a line feed. -/

namespace Trivia

/-- The text is space, and then a block comment that is never closed. -/
def EndsInComment (chars : List Char) : Prop :=
  ∃ before body, chars = before ++ '/' :: '*' :: body ∧ Spacing False before ∧
    ¬['*', '/'] <:+: body

def OpenFrom (mode : Mode) (chars : List Char) : Prop :=
  (∃ before body, chars = before ++ '/' :: '*' :: body ∧ Passes False mode before ∧
    ¬['*', '/'] <:+: body) ∨
  mode = .blockComment ∧ ¬['*', '/'] <:+: chars

/-- A character before a separator stands alone, unless the two are one line terminator. -/
theorem skip_before {stop : Char} (separator : Scan.Separator stop) {char : Char}
    (noReturn : char ≠ '\r') (mode : Mode) (more : List Char) (here : Position) (broke : Bool) :
    skip mode (char :: stop :: more) here broke =
      if isLineTerminator char then
        skip mode.afterLineBreak (stop :: more) (here.newLine char.utf8Size) true
      else if mode != .plain || isBlank char then
        skip mode (stop :: more) (here.step char) broke
      else
        ⟨char :: stop :: more, here, broke⟩ := by
  refine skip.eq_6 mode here broke char (stop :: more) ?_ ?_ ?_ ?_
  · intro _ isReturn
    exact absurd isReturn noReturn
  · intro _ _ _ same
    exact separator.noSlash (List.cons.inj same).1
  · intro _ _ _ same
    exact separator.noStar (List.cons.inj same).1
  · intro _ _ _ same
    exact separator.noSlash (List.cons.inj same).1

theorem skip_joined_of_stop {stop : Char} (separator : Scan.Separator stop) {mode : Mode}
    {chars : List Char} {here : Position} {broke : Bool} {first : Char} {tail : List Char}
    (stops : (skip mode chars here broke).rest = first :: tail) (more : List Char) :
    skip mode (chars ++ stop :: more) here broke =
      { skip mode chars here broke with rest := first :: (tail ++ stop :: more) } := by
  fun_induction skip mode chars here broke with
  | case1 => cases stops
  | case2 mode rest here broke induction =>
      simp only [List.cons_append, skip]
      exact induction stops
  | case3 rest here broke induction =>
      simp only [List.cons_append, skip]
      exact induction stops
  | case4 rest here broke induction =>
      simp only [List.cons_append, skip]
      exact induction stops
  | case5 rest here broke induction =>
      simp only [List.cons_append, skip]
      exact induction stops
  | case6 mode char rest here broke noBreak noLine noBlock noClose terminates induction =>
      cases rest with
      | nil => cases stops
      | cons next rest =>
          rw [List.cons_append, List.cons_append, skip_next noBreak noLine noBlock noClose,
            if_pos terminates]
          exact induction stops
  | case7 mode char rest here broke noBreak noLine noBlock noClose goesOn skipped induction =>
      cases rest with
      | nil => cases stops
      | cons next rest =>
          rw [List.cons_append, List.cons_append, skip_next noBreak noLine noBlock noClose,
            if_neg goesOn, if_pos skipped]
          exact induction stops
  | case8 mode char rest here broke noBreak noLine noBlock noClose goesOn stands =>
      cases stops
      cases tail with
      | nil =>
          have noReturn : first ≠ '\r' := by
            rintro rfl
            exact goesOn rfl
          rw [List.cons_append, List.nil_append, skip_before separator noReturn, if_neg goesOn,
            if_neg stands]
      | cons next tail =>
          rw [List.cons_append, List.cons_append, skip_next noBreak noLine noBlock noClose,
            if_neg goesOn, if_neg stands]

theorem OpenFrom.cons_terminator {mode : Mode} {char : Char} {chars : List Char}
    (opened : OpenFrom mode.afterLineBreak chars) (terminates : isLineTerminator char = true) :
    OpenFrom mode (char :: chars) := by
  rcases opened with ⟨before, body, rfl, passes, inside⟩ | ⟨inComment, inside⟩
  · exact .inl ⟨char :: before, body, rfl, passes.cons_terminator terminates, inside⟩
  · cases mode with
    | plain => cases inComment
    | lineComment => cases inComment
    | blockComment =>
        refine .inr ⟨rfl, not_infix_cons inside fun later same => ?_⟩
        cases same
        cases terminates

theorem OpenFrom.cons_skipped {mode : Mode} {char : Char} {chars : List Char}
    (opened : OpenFrom mode chars) (goesOn : isLineTerminator char = false)
    (skipped : mode = .plain → isBlank char = true)
    (noClose : ∀ later, mode = .blockComment → char = '*' → chars ≠ '/' :: later) :
    OpenFrom mode (char :: chars) := by
  rcases opened with ⟨before, body, rfl, passes, inside⟩ | ⟨rfl, inside⟩
  · refine .inl ⟨char :: before, body, rfl, ?_, inside⟩
    by_cases plain : mode = .plain
    · subst plain
      exact .blank (skipped rfl) passes
    · refine passes.cons_inside plain (fun _ => goesOn) fun later inComment same => ?_
      cases same
      exact noClose _ inComment rfl rfl
  · refine .inr ⟨rfl, not_infix_cons inside fun later same => ?_⟩
    cases same
    exact noClose later rfl rfl rfl

def EndsAtFeed (mode : Mode) (chars : List Char) (here : Position) (broke : Bool) : Prop :=
  ∃ there : Position, there.offset = here.offset + byteLength chars + 1 ∧
    ∀ more, skip mode (chars ++ '\n' :: more) here broke = skip .plain more there true

theorem EndsAtFeed.after {mode later : Mode} {rest : List Char} {here place : Position}
    {broke hasBroken : Bool} (ends : EndsAtFeed later rest place hasBroken) (taken : List Char)
    (offset : place.offset = here.offset + byteLength taken)
    (skips : ∀ more, skip mode (taken ++ rest ++ '\n' :: more) here broke =
      skip later (rest ++ '\n' :: more) place hasBroken) :
    EndsAtFeed mode (taken ++ rest) here broke := by
  rcases ends with ⟨there, distance, joined⟩
  refine ⟨there, ?_, fun more => (skips more).trans (joined more)⟩
  rw [distance, offset, byteLength_append, Nat.add_assoc here.offset]

/-- Space at the end of the first text ends with the line feed, unless it is a comment that is never
closed. -/
theorem skip_joined_of_end {mode : Mode} {chars : List Char} {here : Position} {broke : Bool}
    (finished : (skip mode chars here broke).rest = []) :
    OpenFrom mode chars ∨ EndsAtFeed mode chars here broke := by
  fun_induction skip mode chars here broke with
  | case1 mode here broke =>
      cases mode with
      | plain => exact .inr ⟨here.newLine 1, rfl, fun more => rfl⟩
      | lineComment => exact .inr ⟨here.newLine 1, rfl, fun more => rfl⟩
      | blockComment => exact .inl (.inr ⟨rfl, by simp⟩)
  | case2 mode rest here broke induction =>
      rcases induction finished with opened | ends
      · refine .inl (.cons_terminator (.cons_terminator ?_ rfl) rfl)
        cases mode <;> exact opened
      · exact .inr (ends.after ['\r', '\n'] rfl fun more => by simp [skip])
  | case3 rest here broke induction =>
      rcases induction finished with opened | ends
      · rcases opened with ⟨_, body, rfl, ⟨line, later, rfl, oneLine, ends, spacing⟩, inside⟩ |
          ⟨impossible, _⟩
        · exact .inl (.inl ⟨'/' :: '/' :: (line ++ later), body, rfl,
            .lineComment oneLine ends spacing, inside⟩)
        · cases impossible
      · exact .inr (ends.after ['/', '/'] rfl fun more => by simp [skip])
  | case4 rest here broke induction =>
      rcases induction finished with opened | ends
      · rcases opened with
          ⟨_, body, rfl, ⟨comment, later, rfl, closed, spacing⟩ | ⟨_, impossible⟩, inside⟩ |
          ⟨_, inside⟩
        · exact .inl (.inl ⟨'/' :: '*' :: (comment ++ '*' :: '/' :: later), body, by simp,
            .blockComment closed spacing, inside⟩)
        · cases impossible
        · exact .inl (.inl ⟨[], rest, rfl, .nil, inside⟩)
      · exact .inr (ends.after ['/', '*'] rfl fun more => by simp [skip])
  | case5 rest here broke induction =>
      rcases induction finished with opened | ends
      · rcases opened with ⟨before, body, rfl, spacing, inside⟩ | ⟨impossible, _⟩
        · exact .inl (.inl ⟨'*' :: '/' :: before, body, rfl,
            .inl ⟨[], before, rfl, by simp, spacing⟩, inside⟩)
        · cases impossible
      · exact .inr (ends.after ['*', '/'] rfl fun more => by simp [skip])
  | case6 mode char rest here broke noBreak noLine noBlock noClose terminates induction =>
      rcases induction finished with opened | ends
      · exact .inl (opened.cons_terminator terminates)
      · cases rest with
        | cons next rest =>
            refine .inr (ends.after [char] rfl fun more => ?_)
            exact (skip_next noBreak noLine noBlock noClose ..).trans (if_pos terminates)
        | nil =>
            by_cases isReturn : char = '\r'
            · -- The two are one line terminator.
              subst isReturn
              cases mode with
              | plain => exact .inr ⟨here.newLine 2, rfl, fun more => rfl⟩
              | lineComment => exact .inr ⟨here.newLine 2, rfl, fun more => rfl⟩
              | blockComment => exact .inl (.inr ⟨rfl, by decide⟩)
            · refine .inr (ends.after [char] rfl fun more => ?_)
              exact (skip_before .feed isReturn ..).trans (if_pos terminates)
  | case7 mode char rest here broke noBreak noLine noBlock noClose goesOn skipped induction =>
      have sameLine : isLineTerminator char = false := by simpa using goesOn
      rcases induction finished with opened | ends
      · refine .inl (opened.cons_skipped sameLine ?_ noClose)
        rintro rfl
        simpa using skipped
      · refine .inr (ends.after [char] rfl fun more => ?_)
        cases rest with
        | cons next rest =>
            exact (skip_next noBreak noLine noBlock noClose ..).trans
              ((if_neg goesOn).trans (if_pos skipped))
        | nil =>
            have noReturn : char ≠ '\r' := by
              rintro rfl
              cases sameLine
            exact (skip_before .feed noReturn ..).trans ((if_neg goesOn).trans (if_pos skipped))
  | case8 => cases finished

theorem openFrom_plain {chars : List Char} (opened : OpenFrom .plain chars) :
    EndsInComment chars := by
  rcases opened with ended | ⟨impossible, _⟩
  · exact ended
  · cases impossible

theorem skip_broke (mode : Mode) (chars : List Char) (here : Position) (broke : Bool) :
    skip mode chars here true = { skip mode chars here broke with brokeLine := true } := by
  fun_induction skip mode chars here broke with
  | case1 => simp [skip]
  | case2 mode rest here broke induction =>
      simp only [skip]
      exact induction
  | case3 rest here broke induction =>
      simp only [skip]
      exact induction
  | case4 rest here broke induction =>
      simp only [skip]
      exact induction
  | case5 rest here broke induction =>
      simp only [skip]
      exact induction
  | case6 mode char rest here broke noBreak noLine noBlock noClose terminates induction =>
      rw [skip.eq_6 _ _ _ _ _ noBreak noLine noBlock noClose, if_pos terminates]
      exact induction
  | case7 mode char rest here broke noBreak noLine noBlock noClose goesOn skipped induction =>
      rw [skip.eq_6 _ _ _ _ _ noBreak noLine noBlock noClose, if_neg goesOn, if_pos skipped]
      exact induction
  | case8 mode char rest here broke noBreak noLine noBlock noClose goesOn stands =>
      rw [skip.eq_6 _ _ _ _ _ noBreak noLine noBlock noClose, if_neg goesOn, if_neg stands]

end Trivia

/-! A line that has ended before the first token. -/

def Token.onNewLine (token : Token) : Token :=
  { token with afterLineBreak := true }

def Ending.onNewLine : Ending → Ending
  | .endOfFile token => .endOfFile token.onNewLine
  | .failure error => .failure error

theorem Token.WellFormed.onNewLine {token : Token} (wellFormed : token.WellFormed) :
    token.onNewLine.WellFormed :=
  ⟨wellFormed.notEnd, wellFormed.lexed, wellFormed.spelled, wellFormed.denotes⟩

theorem Token.Alike.onNewLine {offsets : Nat → Nat → Prop} {token other : Token}
    (alike : token.Alike offsets other) : token.onNewLine.Alike offsets other.onNewLine :=
  ⟨alike.kind, alike.text, rfl, alike.hasEscape, alike.start, alike.stop⟩

theorem Ending.WellFormed.onNewLine {ending : Ending} (wellFormed : ending.WellFormed) :
    ending.onNewLine.WellFormed := by
  cases ending with
  | endOfFile => exact wellFormed
  | failure => exact wellFormed

def Lexed.onNewLine (lexed : Lexed) : Lexed :=
  match split : lexed.tokens with
  | [] =>
      { lexed with
        ending := lexed.ending.onNewLine
        endingWellFormed := lexed.endingWellFormed.onNewLine }
  | first :: rest =>
      ⟨first.onNewLine :: rest, lexed.ending, by
        have wellFormed := lexed.wellFormed
        rw [split, List.forall_mem_cons] at wellFormed
        exact List.forall_mem_cons.mpr ⟨wellFormed.1.onNewLine, wellFormed.2⟩,
        lexed.endingWellFormed⟩

theorem Lexed.onNewLine_of_nil {lexed : Lexed} (empty : lexed.tokens = []) :
    lexed.onNewLine.tokens = [] ∧ lexed.onNewLine.ending = lexed.ending.onNewLine := by
  unfold onNewLine
  split
  · exact ⟨empty, rfl⟩
  · next shape => cases empty.symm.trans shape

theorem Lexed.onNewLine_of_cons {lexed : Lexed} {first : Token} {rest : List Token}
    (split : lexed.tokens = first :: rest) :
    lexed.onNewLine.tokens = first.onNewLine :: rest ∧
      lexed.onNewLine.ending = lexed.ending := by
  unfold onNewLine
  split
  · next shape => cases split.symm.trans shape
  · next shape =>
      cases split.symm.trans shape
      exact ⟨rfl, rfl⟩

theorem GoOnAlike.onNewLine {offsets : Nat → Nat → Prop} {left right : Lexed}
    (alike : GoOnAlike offsets False left.tokens left.ending right.tokens right.ending) :
    GoOnAlike offsets False left.onNewLine.tokens left.onNewLine.ending right.onNewLine.tokens
      right.onNewLine.ending := by
  cases shape : left.tokens with
  | nil =>
      cases otherShape : right.tokens with
      | nil =>
          rw [(Lexed.onNewLine_of_nil shape).1, (Lexed.onNewLine_of_nil shape).2,
            (Lexed.onNewLine_of_nil otherShape).1, (Lexed.onNewLine_of_nil otherShape).2]
          rw [shape, otherShape] at alike
          refine .ending ?_
          generalize left.ending = ending at alike ⊢
          generalize right.ending = other at alike ⊢
          cases alike with
          | ending endings =>
              cases endings with
              | endOfFile tokens => exact .endOfFile tokens.onNewLine
              | failure fault => exact .failure fault
          | brokenOff impossible => exact impossible.elim
      | cons =>
          rw [shape, otherShape] at alike
          generalize left.ending = ending at alike
          cases alike with
          | brokenOff impossible => exact impossible.elim
  | cons first rest =>
      cases otherShape : right.tokens with
      | nil =>
          rw [shape, otherShape] at alike
          cases alike
      | cons second others =>
          rw [(Lexed.onNewLine_of_cons shape).1, (Lexed.onNewLine_of_cons shape).2,
            (Lexed.onNewLine_of_cons otherShape).1, (Lexed.onNewLine_of_cons otherShape).2]
          rw [shape, otherShape] at alike
          cases alike with
          | token firsts later => exact .token firsts.onNewLine later

/-! Tokens on both sides of a separator. -/

namespace Lexer

theorem next_rest_suffix {lexer after : Lexer} {token : Token}
    (found : lexer.next = .ok (token, after)) (more : token.kind ≠ .endOfFile) :
    after.rest <:+ lexer.rest := by
  rcases next_eq_ok found more with ⟨first, rest, scanned, shape, scans, rfl, rfl⟩
  have gap : lexer.gap.rest <:+ lexer.rest := Trivia.skip_rest_suffix _ _ _ _
  rw [shape, ← (Scan.scan_ok scans).1] at gap
  exact (List.suffix_append _ _).trans gap

theorem next_joined {stop : Char} (separator : Scan.Separator stop) {lexer after : Lexer}
    {token : Token} (found : lexer.next = .ok (token, after)) (more : token.kind ≠ .endOfFile)
    (later : List Char) :
    next { lexer with rest := lexer.rest ++ stop :: later } =
      .ok (token, { after with rest := after.rest ++ stop :: later }) := by
  rcases next_eq_ok found more with ⟨first, rest, scanned, shape, scans, rfl, rfl⟩
  have gap : Lexer.gap { lexer with rest := lexer.rest ++ stop :: later } =
      { lexer.gap with rest := first :: (rest ++ stop :: later) } :=
    Trivia.skip_joined_of_stop separator shape later
  rw [next_of_scan (congrArg _ gap) (by rw [gap]; exact Scan.scan_before separator scans later),
    gap]

/-- All tokens of the first text come first in the whole. What follows begins with the space that
the first text ends with. -/
theorem run_joined {stop : Char} (separator : Scan.Separator stop) {lexer : Lexer}
    {last : Token} :
    lexer.run.ending = .endOfFile last →
    ∃ before trail position, lexer.rest = before ++ trail ∧
      position.offset = lexer.position.offset + byteLength before ∧
      position.offset = (lexer.run.tokens.getLast?.map (·.stop)).getD lexer.position.offset ∧
      (mk lexer.keywords trail position).gap.rest = [] ∧
      ∀ later, (run { lexer with rest := lexer.rest ++ stop :: later }).tokens =
          lexer.run.tokens ++ (mk lexer.keywords (trail ++ stop :: later) position).run.tokens ∧
        (run { lexer with rest := lexer.rest ++ stop :: later }).ending =
          (mk lexer.keywords (trail ++ stop :: later) position).run.ending := by
  induction lexer using run.induct with
  | case1 lexer error failed =>
      intro ending
      cases (run_of_fault failed).2.symm.trans ending
  | case2 lexer token after found isEnd =>
      intro ending
      rw [(run_of_end found isEnd).1]
      refine ⟨[], lexer.rest, lexer.position, rfl, rfl, rfl, ?_, fun later => ⟨rfl, rfl⟩⟩
      rcases lexer.next_cases with finished | ⟨_, _, _, shape, failed⟩ | ⟨_, _, _, shape, scans⟩
      · exact finished
      · cases found.symm.trans (next_of_fault shape failed)
      · cases found.symm.trans (next_of_scan shape scans)
        exact absurd isEnd (Scan.scan_kind scans)
  | case3 lexer token after found more induction =>
      intro ending
      rw [(run_of_token found more).2] at ending
      rcases induction ending with ⟨before, trail, position, shape, offset, stops, finished, joined⟩
      rcases next_bounds found more with ⟨_, tokenStop, sameLimit⟩
      have sameKeywords := (next_nameKind found).1
      rcases next_rest_suffix found more with ⟨taken, whole⟩
      have size := congrArg byteLength whole
      simp only [limit, byteLength_append] at sameLimit size
      rw [sameKeywords] at finished joined
      refine ⟨taken ++ before, trail, position, ?_, ?_, ?_, finished, fun later => ?_⟩
      · rw [← whole, shape, List.append_assoc]
      · rw [byteLength_append]
        omega
      · rw [stops, (run_of_token found more).1, List.getLast?_cons, ← tokenStop]
        cases after.run.tokens.getLast? with
        | none => rfl
        | some => rfl
      · have first := next_joined separator found more later
        rw [(run_of_token first more).1, (run_of_token first more).2, (run_of_token found more).1,
          List.cons_append, sameKeywords]
        exact ⟨congrArg _ (joined later).1, (joined later).2⟩

/-- A lexer that finds a line break before the first token, and is otherwise like another, yields
the same tokens on a new line. -/
theorem run_onNewLine {lexer other : Lexer} (keywords : lexer.keywords = other.keywords)
    (gap : lexer.gap = { other.gap with brokeLine := true }) :
    lexer.run.tokens = other.run.onNewLine.tokens ∧
      lexer.run.ending = other.run.onNewLine.ending := by
  rcases other.next_cases with finished | ⟨first, rest, fault, shape, failed⟩ |
    ⟨first, rest, scanned, shape, scans⟩
  · have otherNext := next_of_end finished
    have next := @next_of_end lexer (by rw [gap]; exact finished)
    have empty := Lexed.onNewLine_of_nil (run_of_end otherNext rfl).1
    rw [empty.1, empty.2, (run_of_end otherNext rfl).2, (run_of_end next rfl).1,
      (run_of_end next rfl).2, gap]
    exact ⟨rfl, rfl⟩
  · have otherNext := next_of_fault shape failed
    have next := @next_of_fault lexer _ _ fault (by rw [gap]; exact shape)
      (by rw [gap, keywords]; exact failed)
    have empty := Lexed.onNewLine_of_nil (run_of_fault otherNext).1
    rw [empty.1, empty.2, (run_of_fault otherNext).2, (run_of_fault next).1,
      (run_of_fault next).2, gap]
    exact ⟨rfl, rfl⟩
  · have otherNext := next_of_scan shape scans
    have next := @next_of_scan lexer _ _ scanned (by rw [gap]; exact shape)
      (by rw [gap, keywords]; exact scans)
    have more := Scan.scan_kind scans
    have tokens := Lexed.onNewLine_of_cons (run_of_token otherNext more).1
    rw [tokens.1, tokens.2, (run_of_token otherNext more).2, (run_of_token next more).1,
      (run_of_token next more).2, gap, keywords]
    exact ⟨rfl, rfl⟩

/-- After the space that the first text ends with, and the line feed, comes the second text. -/
theorem run_after_feed {keywords : KeywordSet} {trail : List Char} {here : Position}
    (finished : (mk keywords trail here).gap.rest = []) (closed : ¬Trivia.EndsInComment trail)
    (later : List Char) :
    ∃ there : Position, there.offset = here.offset + byteLength trail + 1 ∧
      (mk keywords (trail ++ '\n' :: later) here).run.tokens =
        (mk keywords later there).run.onNewLine.tokens ∧
      (mk keywords (trail ++ '\n' :: later) here).run.ending =
        (mk keywords later there).run.onNewLine.ending := by
  rcases Trivia.skip_joined_of_end finished with opened | ⟨there, offset, joined⟩
  · exact absurd (Trivia.openFrom_plain opened) closed
  · refine ⟨there, offset, run_onNewLine rfl ?_⟩
    rw [gap, gap, joined later]
    exact Trivia.skip_broke .plain later there false

theorem ofChars_joined (keywords : KeywordSet) (chars later : List Char) :
    ofChars keywords (chars ++ '\n' :: later) =
      { ofChars keywords chars with rest := (ofChars keywords chars).rest ++ '\n' :: later } := by
  have noTest : (!isLineTerminator '\n') = false := by decide
  rcases ofChars_cases keywords chars with ⟨tail, rfl, read⟩ | ⟨noLine, read⟩
  · have line := @takeWhile_before (!isLineTerminator ·) '\n' noTest ('#' :: '!' :: tail) later
    rw [read, ← line.1, ← line.2]
    rfl
  · rcases ofChars_cases keywords (chars ++ '\n' :: later) with ⟨tail, shape, _⟩ | ⟨_, whole⟩
    · match chars with
      | [] => cases shape
      | [_] => cases shape
      | first :: second :: rest =>
          cases shape
          exact absurd rfl (noLine _)
    · rw [read, whole]

end Lexer

theorem lex_joined {keywords : KeywordSet} {source other : String} {last terminator : Token}
    (ended : (lex keywords source).ending = .endOfFile last)
    (tokens : (lex keywords source).tokens.getLast? = some terminator)
    (closed : ∀ trail, Span.dropBytes terminator.stop source.toList = some trail →
      ¬Trivia.EndsInComment trail)
    (noLine : ¬['#', '!'] <+: other.toList) :
    ∃ more, (lex keywords (source ++ "\n" ++ other)).tokens =
        (lex keywords source).tokens ++ more ∧
      GoOnAlike (Later (source.utf8ByteSize + 1)) False (lex keywords other).onNewLine.tokens
        (lex keywords other).onNewLine.ending more
        (lex keywords (source ++ "\n" ++ other)).ending := by
  rcases Lexer.run_joined .feed ended with
    ⟨before, trail, position, shape, offset, stop, finished, joined⟩
  rcases Lexer.ofSource_stands keywords source with ⟨opening, stands⟩
  have read : Lexer.ofSource keywords (source ++ "\n" ++ other) =
      ⟨(Lexer.ofSource keywords source).keywords,
        (Lexer.ofSource keywords source).rest ++ '\n' :: other.toList,
        (Lexer.ofSource keywords source).position⟩ := by
    rw [Lexer.ofSource, String.toList_append, String.toList_append, List.append_assoc]
    exact Lexer.ofChars_joined keywords source.toList other.toList
  have whole : source.toList = opening ++ before ++ trail := by
    rw [stands.whole, shape, List.nil_append, List.append_assoc]
  have place : terminator.stop = byteLength (opening ++ before) := by
    rw [← lex, tokens, Option.map_some, Option.getD_some] at stop
    rw [← stop, offset, stands.offset, byteLength_append, byteLength_nil, Nat.zero_add]
  have comments := closed trail (by rw [whole, place]; exact Span.dropBytes_append _ _)
  rcases Lexer.run_after_feed finished comments other.toList with
    ⟨there, distance, same, sameEnd⟩
  have later : Later (source.utf8ByteSize + 1) (Lexer.ofSource keywords other).position.offset
      there.offset := by
    have size := congrArg byteLength whole
    rw [byteLength_toList, byteLength_append, ← place] at size
    rw [← lex, tokens, Option.map_some, Option.getD_some] at stop
    rw [Lexer.ofSource_plain keywords noLine, Later, distance, stop, size]
    exact (Nat.zero_add _).symm
  have split := joined other.toList
  rw [← read, same, sameEnd] at split
  refine ⟨_, split.1, ?_⟩
  rw [lex, lex, split.2]
  refine GoOnAlike.onNewLine (Lexer.run_later _ _ _ _ ?_ ?_ later)
  · rw [ofSource_keywords, Lexer.ofSource_plain keywords noLine]
  · rw [Lexer.ofSource_plain keywords noLine]

end TypedScript
