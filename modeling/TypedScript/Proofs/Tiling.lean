import TypedScript.Proofs.TokenOrder

/-!
Tokens and the space between them. Main statement: the tokens of a text are pieces of it, and what
stands between two of them, before the first or after the last, is white space, line terminators
and comments. A token is marked as the first of its line exactly if a line ends in the space before
it.
-/

namespace TypedScript

/-! Ranges of a text that is given in pieces. -/

namespace Span

theorem dropBytes_cons (char : Char) (count : Nat) (rest : List Char) :
    dropBytes (char.utf8Size + count) (char :: rest) = dropBytes count rest := by
  obtain ⟨width, size⟩ := Nat.exists_eq_add_one.mpr char.utf8Size_pos
  rw [size, Nat.add_right_comm, dropBytes, size, if_pos (by omega)]
  congr 1
  omega

theorem takeBytes_cons (char : Char) (count : Nat) (rest : List Char) :
    takeBytes (char.utf8Size + count) (char :: rest) =
      (takeBytes count rest).map (char :: ·) := by
  obtain ⟨width, size⟩ := Nat.exists_eq_add_one.mpr char.utf8Size_pos
  rw [size, Nat.add_right_comm, takeBytes, size, if_pos (by omega)]
  congr 2
  omega

theorem dropBytes_append (left right : List Char) :
    dropBytes (byteLength left) (left ++ right) = some right := by
  induction left with
  | nil => cases right <;> rfl
  | cons char left induction =>
      rw [byteLength_cons, List.cons_append, dropBytes_cons, induction]

theorem takeBytes_append (left right : List Char) :
    takeBytes (byteLength left) (left ++ right) = some left := by
  induction left with
  | nil => cases right <;> rfl
  | cons char left induction =>
      rw [byteLength_cons, List.cons_append, takeBytes_cons, induction, Option.map_some]

/-- The range between two pieces of a text covers what stands between them. -/
theorem chars?_append (before middle after : List Char) :
    chars? ⟨byteLength before, byteLength before + byteLength middle⟩
      (before ++ (middle ++ after)) = some middle := by
  have size : length ⟨byteLength before, byteLength before + byteLength middle⟩ =
      byteLength middle := Nat.add_sub_cancel_left _ _
  rw [chars?, if_pos (Nat.le_add_right _ _), dropBytes_append, size]
  exact takeBytes_append _ _

theorem slice?_append {source : String} (before middle after : List Char)
    (whole : source.toList = before ++ (middle ++ after)) :
    slice? ⟨byteLength before, byteLength before + byteLength middle⟩ source =
      some (String.ofList middle) := by
  rw [slice?, whole, chars?_append, Option.map_some]

end Span

/-! What may stand between tokens. -/

namespace Trivia

/-- Whether a line that has been read so far ends here; `atEnd` says whether the input does. -/
def EndsLine (atEnd : Prop) (rest : List Char) : Prop :=
  (rest = [] ∧ atEnd) ∨ ∃ char later, rest = char :: later ∧ isLineTerminator char = true

/-- Text without tokens; `atEnd` says whether the input ends with it. Only the end of the input may
cut off a comment. -/
inductive Spacing (atEnd : Prop) : List Char → Prop
  | nil : Spacing atEnd []
  | blank {char : Char} {rest : List Char} (white : isBlank char = true)
      (later : Spacing atEnd rest) : Spacing atEnd (char :: rest)
  | lineTerminator {char : Char} {rest : List Char} (terminates : isLineTerminator char = true)
      (later : Spacing atEnd rest) : Spacing atEnd (char :: rest)
  | lineComment {body rest : List Char}
      (oneLine : ∀ char ∈ body, isLineTerminator char = false) (ends : EndsLine atEnd rest)
      (later : Spacing atEnd rest) : Spacing atEnd ('/' :: '/' :: (body ++ rest))
  | blockComment {body rest : List Char} (inside : ¬['*', '/'] <:+: body)
      (later : Spacing atEnd rest) : Spacing atEnd ('/' :: '*' :: (body ++ '*' :: '/' :: rest))
  | openComment {body : List Char} (inside : ¬['*', '/'] <:+: body) (isLast : atEnd) :
      Spacing atEnd ('/' :: '*' :: body)

structure Shebang (line : List Char) : Prop where
  opens : ['#', '!'] <+: line
  oneLine : ∀ char ∈ line, isLineTerminator char = false

/-- The text before a token. A line that begins with `#!` may open it at the start of the input. -/
inductive Leading (atStart atEnd : Prop) : List Char → Prop
  | spacing {chars : List Char} (spacing : Spacing atEnd chars) : Leading atStart atEnd chars
  | shebang {line rest : List Char} (isFirst : atStart) (shebang : Shebang line)
      (ends : EndsLine atEnd rest) (spacing : Spacing atEnd rest) :
      Leading atStart atEnd (line ++ rest)

def Passes (atEnd : Prop) : Mode → List Char → Prop
  | .plain, chars => Spacing atEnd chars
  | .lineComment, chars => ∃ body rest, chars = body ++ rest ∧
      (∀ char ∈ body, isLineTerminator char = false) ∧ EndsLine atEnd rest ∧ Spacing atEnd rest
  | .blockComment, chars =>
      (∃ body rest, chars = body ++ '*' :: '/' :: rest ∧ ¬['*', '/'] <:+: body ∧
        Spacing atEnd rest) ∨
      (¬['*', '/'] <:+: chars ∧ atEnd)

theorem not_infix_cons {char : Char} {body : List Char} (inside : ¬['*', '/'] <:+: body)
    (fresh : ∀ later, char :: body ≠ '*' :: '/' :: later) : ¬['*', '/'] <:+: char :: body := by
  intro isInfix
  rcases List.infix_cons_iff.mp isInfix with ⟨later, same⟩ | isInfix
  · exact fresh later same.symm
  · exact inside isInfix

theorem Passes.cons_inside {atEnd : Prop} {mode : Mode} {char : Char} {gap : List Char}
    (passes : Passes atEnd mode gap) (inComment : mode ≠ .plain)
    (sameLine : mode = .lineComment → isLineTerminator char = false)
    (fresh : ∀ later, mode = .blockComment → char :: gap ≠ '*' :: '/' :: later) :
    Passes atEnd mode (char :: gap) := by
  cases mode with
  | plain => exact absurd rfl inComment
  | lineComment =>
      rcases passes with ⟨body, rest, rfl, oneLine, ends, spacing⟩
      exact ⟨char :: body, rest, rfl, List.forall_mem_cons.mpr ⟨sameLine rfl, oneLine⟩, ends,
        spacing⟩
  | blockComment =>
      rcases passes with ⟨body, rest, rfl, inside, spacing⟩ | ⟨inside, isLast⟩
      · refine .inl ⟨char :: body, rest, rfl, not_infix_cons inside fun later same => ?_, spacing⟩
        cases same
        exact fresh _ rfl rfl
      · exact .inr ⟨not_infix_cons inside fun later => fresh later rfl, isLast⟩

theorem Passes.cons_terminator {atEnd : Prop} {mode : Mode} {char : Char} {gap : List Char}
    (passes : Passes atEnd mode.afterLineBreak gap) (terminates : isLineTerminator char = true) :
    Passes atEnd mode (char :: gap) := by
  cases mode with
  | plain => exact .lineTerminator terminates passes
  | lineComment =>
      exact ⟨[], char :: gap, rfl, by simp, .inr ⟨char, gap, rfl, terminates⟩,
        .lineTerminator terminates passes⟩
  | blockComment =>
      have inside : Passes atEnd .blockComment gap := passes
      refine inside.cons_inside (by simp) (by simp) fun later _ same => ?_
      cases same
      exact absurd terminates (by decide)

/-- Nothing but space is skipped, all of its line terminators are noticed, and only the end of the
input may cut off a comment. -/
theorem skip_passes (mode : Mode) (chars : List Char) (here : Position) (broke : Bool) :
    ∃ gap, chars = gap ++ (skip mode chars here broke).rest ∧
      (skip mode chars here broke).brokeLine = (broke || gap.any isLineTerminator) ∧
      Passes ((skip mode chars here broke).rest = []) mode gap := by
  fun_induction skip mode chars here broke with
  | case1 mode here broke =>
      refine ⟨[], rfl, by simp, ?_⟩
      cases mode with
      | plain => exact .nil
      | lineComment => exact ⟨[], [], rfl, by simp, .inl ⟨rfl, rfl⟩, .nil⟩
      | blockComment => exact .inr ⟨by simp, rfl⟩
  | case2 mode rest here broke induction =>
      rcases induction with ⟨gap, split, breaks, passes⟩
      refine ⟨'\r' :: '\n' :: gap, ?_, ?_, ?_⟩
      · rw [List.cons_append, List.cons_append, ← split]
      · simpa [isLineTerminator] using breaks
      · refine .cons_terminator (.cons_terminator ?_ rfl) rfl
        cases mode <;> exact passes
  | case3 rest here broke induction =>
      rcases induction with ⟨gap, split, breaks, body, after, rfl, oneLine, ends, spacing⟩
      refine ⟨'/' :: '/' :: (body ++ after), ?_, ?_, .lineComment oneLine ends spacing⟩
      · rw [List.cons_append, List.cons_append, ← split]
      · simpa [isLineTerminator] using breaks
  | case4 rest here broke induction =>
      rcases induction with ⟨gap, split, breaks, passes⟩
      refine ⟨'/' :: '*' :: gap, ?_, ?_, ?_⟩
      · rw [List.cons_append, List.cons_append, ← split]
      · simpa [isLineTerminator] using breaks
      · rcases passes with ⟨body, after, rfl, inside, spacing⟩ | ⟨inside, isLast⟩
        · exact .blockComment inside spacing
        · exact .openComment inside isLast
  | case5 rest here broke induction =>
      rcases induction with ⟨gap, split, breaks, spacing⟩
      refine ⟨'*' :: '/' :: gap, ?_, ?_, .inl ⟨[], gap, rfl, by simp, spacing⟩⟩
      · rw [List.cons_append, List.cons_append, ← split]
      · simpa [isLineTerminator] using breaks
  | case6 mode char rest here broke _ _ _ _ terminates induction =>
      rcases induction with ⟨gap, split, breaks, passes⟩
      refine ⟨char :: gap, ?_, ?_, passes.cons_terminator terminates⟩
      · rw [List.cons_append, ← split]
      · simpa [terminates] using breaks
  | case7 mode char rest here broke _ _ _ notClosed notTerminator skipped induction =>
      rcases induction with ⟨gap, split, breaks, passes⟩
      have sameLine : isLineTerminator char = false := by simpa using notTerminator
      refine ⟨char :: gap, ?_, ?_, ?_⟩
      · rw [List.cons_append, ← split]
      · simpa [sameLine] using breaks
      · by_cases inComment : mode = .plain
        · subst inComment
          exact .blank (by simpa using skipped) passes
        · refine passes.cons_inside inComment (fun _ => sameLine) fun later isBlock same => ?_
          -- A block comment that ends here would have been closed instead.
          cases same
          exact notClosed _ isBlock rfl split
  | case8 mode char rest here broke _ _ _ _ _ stopped =>
      refine ⟨[], rfl, by simp, ?_⟩
      cases mode with
      | plain => exact .nil
      | lineComment => exact absurd rfl stopped
      | blockComment => exact absurd rfl stopped

theorem endsLine_dropWhile (chars : List Char) :
    EndsLine True (chars.dropWhile (!isLineTerminator ·)) := by
  cases shape : chars.dropWhile (!isLineTerminator ·) with
  | nil => exact .inl ⟨rfl, trivial⟩
  | cons char later =>
      have stops := List.head?_dropWhile_not (!isLineTerminator ·) chars
      rw [shape] at stops
      exact .inr ⟨char, later, rfl, by simpa using stops⟩

theorem EndsLine.of_append {gap rest : List Char} (ends : EndsLine True (gap ++ rest))
    (stops : ∀ {char later}, rest = char :: later → isLineTerminator char = false) :
    EndsLine (rest = []) gap := by
  cases gap with
  | nil =>
      rcases ends with ⟨isEmpty, _⟩ | ⟨char, later, shape, terminates⟩
      · exact .inl ⟨rfl, isEmpty⟩
      · rw [stops shape] at terminates
        cases terminates
  | cons char gap =>
      rcases ends with ⟨isEmpty, _⟩ | ⟨other, later, shape, terminates⟩
      · cases isEmpty
      · cases shape
        exact .inr ⟨char, gap, rfl, terminates⟩

theorem skip_stops {mode : Mode} {chars : List Char} {here : Position} {broke : Bool}
    {char : Char} {later : List Char} (stops : (skip mode chars here broke).rest = char :: later) :
    isLineTerminator char = false := by
  fun_induction skip mode chars here broke with
  | case1 => cases stops
  | case2 _ _ _ _ induction => exact induction stops
  | case3 _ _ _ induction => exact induction stops
  | case4 _ _ _ induction => exact induction stops
  | case5 _ _ _ induction => exact induction stops
  | case6 _ _ _ _ _ _ _ _ _ _ induction => exact induction stops
  | case7 _ _ _ _ _ _ _ _ _ _ _ induction => exact induction stops
  | case8 mode char rest here broke _ _ _ _ notTerminator =>
      cases stops
      simpa using notTerminator

end Trivia

/-! Tilings. -/

/-- The characters from `start` to `stop` are `gap`, and there is no token among them. -/
structure Separates (source : String) (start stop : Nat) (gap : List Char) : Prop where
  covers : Span.chars? ⟨start, stop⟩ source.toList = some gap
  leading : Trivia.Leading (start = 0) (stop = source.utf8ByteSize) gap

structure Token.Follows (token : Token) (source : String) (start : Nat) : Prop where
  text : token.span.slice? source = some token.text
  after : start ≤ token.start
  space : ∃ gap, Separates source start token.start gap ∧
    token.afterLineBreak = gap.any isLineTerminator

def LexicalFault.IsAbout : LexicalFault → Char → Prop
  | .unterminatedString, char => Scan.isQuote char = true
  | .unexpectedCharacter unexpected, char => char = unexpected

/-- Tokens that make up a text from `start` on, and how it ends. -/
inductive Tiles (source : String) : Nat → List Token → Ending → Prop
  | endOfFile {start : Nat} {token : Token} (follows : token.Follows source start)
      (kind : token.kind = .endOfFile)
      (place : token.span = ⟨source.utf8ByteSize, source.utf8ByteSize⟩) :
      Tiles source start [] (.endOfFile token)
  | failure {start : Nat} {error : LexicalError}
      (space : ∃ gap, Separates source start error.position.offset gap)
      (place : ∃ char, error.fault.IsAbout char ∧
        error.span.slice? source = some (String.singleton char)) :
      Tiles source start [] (.failure error)
  | token {start : Nat} {token : Token} {tokens : List Token} {ending : Ending}
      (follows : token.Follows source start) (kind : token.kind ≠ .endOfFile)
      (nonempty : token.start < token.stop) (later : Tiles source token.stop tokens ending) :
      Tiles source start (token :: tokens) ending

theorem separates_append {source : String} {before gap rest : List Char}
    (whole : source.toList = before ++ (gap ++ rest))
    (leading : Trivia.Leading (before = []) (rest = []) gap) :
    Separates source (byteLength before) (byteLength before + byteLength gap) gap := by
  have atEnd : byteLength before + byteLength gap = source.utf8ByteSize ↔ rest = [] := by
    rw [← byteLength_toList, whole, byteLength_append, byteLength_append, ← byteLength_eq_zero]
    omega
  refine ⟨?_, ?_⟩
  · rw [whole]
    exact Span.chars?_append _ _ _
  · rwa [byteLength_eq_zero, atEnd]

namespace Scan

theorem scan_kind {keywords : KeywordSet} {first : Char} {rest : List Char} {here : Position}
    {scanned : Scanned} (found : scan keywords first rest here = .ok scanned) :
    scanned.kind ≠ .endOfFile := by
  rw [scan_eq] at found
  grind [plain, nameKind]

theorem scan_error {keywords : KeywordSet} {first : Char} {rest : List Char} {here : Position}
    {fault : LexicalFault} (found : scan keywords first rest here = .error fault) :
    fault.IsAbout first := by
  rw [scan_eq] at found
  grind [LexicalFault.IsAbout]

end Scan

theorem LexicalFault.IsAbout.width {fault : LexicalFault} {char : Char}
    (about : fault.IsAbout char) : fault.width = char.utf8Size := by
  cases fault with
  | unterminatedString =>
      simp only [IsAbout, Scan.isQuote, Bool.or_eq_true, beq_iff_eq] at about
      rcases about with rfl | rfl <;> rfl
  | unexpectedCharacter unexpected => rw [about.symm]; rfl

namespace Lexer

/-- Where a lexer stands in a text: the last token ended after `before`, and then an `opening` line
has been skipped, if any. -/
structure Stands (lexer : Lexer) (source : String) (before opening : List Char) : Prop where
  whole : source.toList = before ++ (opening ++ lexer.rest)
  offset : lexer.position.offset = byteLength before + byteLength opening
  opens : opening = [] ∨
    before = [] ∧ Trivia.Shebang opening ∧ Trivia.EndsLine True lexer.rest

theorem ofSource_stands (keywords : KeywordSet) (source : String) :
    ∃ opening, (ofSource keywords source).Stands source [] opening := by
  unfold ofSource ofChars
  split
  · next rest shape =>
      refine ⟨source.toList.takeWhile (!isLineTerminator ·), ?_, ?_, .inr ⟨rfl, ⟨?_, ?_⟩, ?_⟩⟩
      · exact List.takeWhile_append_dropWhile.symm
      · rw [Position.steps_offset]
        rfl
      · rw [shape]
        exact ⟨rest.takeWhile (!isLineTerminator ·), rfl⟩
      · intro char member
        simpa using List.all_eq_true.mp List.all_takeWhile char member
      · exact Trivia.endsLine_dropWhile _
  · exact ⟨[], rfl, rfl, .inl rfl⟩

theorem Stands.limit_eq {lexer : Lexer} {source : String} {before opening : List Char}
    (stands : lexer.Stands source before opening) : lexer.limit = source.utf8ByteSize := by
  rw [limit, stands.offset, ← byteLength_toList, stands.whole, byteLength_append,
    byteLength_append, Nat.add_assoc]

theorem Stands.gap {lexer : Lexer} {source : String} {before opening : List Char}
    (stands : lexer.Stands source before opening) :
    ∃ gap, source.toList = before ++ (gap ++ lexer.gap.rest) ∧
      lexer.gap.position.offset = byteLength before + byteLength gap ∧
      lexer.gap.brokeLine = gap.any isLineTerminator ∧
      Trivia.Leading (before = []) (lexer.gap.rest = []) gap := by
  rcases Trivia.skip_passes .plain lexer.rest lexer.position false with
    ⟨skipped, split, breaks, spacing⟩
  rw [Bool.false_or] at breaks
  have offset : lexer.gap.position.offset = lexer.position.offset + byteLength skipped := by
    have size := congrArg byteLength split
    have same := lexer.gap_offset
    rw [byteLength_append] at size
    simp only [limit, Lexer.gap] at same ⊢
    omega
  refine ⟨opening ++ skipped, ?_, ?_, ?_, ?_⟩
  · rw [stands.whole, List.append_assoc, Lexer.gap, ← split]
  · rw [offset, stands.offset, byteLength_append, Nat.add_assoc]
  · rcases stands.opens with rfl | ⟨_, shebang, _⟩
    · exact breaks
    · have none : opening.any isLineTerminator = false := by simpa using shebang.oneLine
      rw [List.any_append, none, Bool.false_or, Lexer.gap, breaks]
  · rcases stands.opens with rfl | ⟨isFirst, shebang, ends⟩
    · exact .spacing spacing
    · rw [split] at ends
      exact .shebang isFirst shebang (ends.of_append Trivia.skip_stops) spacing

theorem Stands.next {lexer after : Lexer} {source : String} {before opening : List Char}
    {token : Token} (stands : lexer.Stands source before opening)
    (found : lexer.next = .ok (token, after)) :
    token.Follows source (byteLength before) ∧
      ∃ read, token.stop = byteLength read ∧ after.Stands source read [] := by
  rcases stands.gap with ⟨gap, whole, offset, breaks, leading⟩
  have separates := separates_append whole leading
  rw [← offset] at separates
  unfold Lexer.next at found
  simp only at found
  split at found
  · next shape =>
      cases found
      have stop : lexer.gap.position.offset = byteLength (before ++ gap) := by
        rw [offset, byteLength_append]
      rw [shape, ← List.append_assoc] at whole
      refine ⟨⟨?_, ?_, gap, separates, breaks⟩, before ++ gap, stop, whole, stop, .inl rfl⟩
      · rw [Token.span, Token.start, stop]
        exact Span.slice?_append _ [] _ whole
      · rw [Token.start, offset]
        exact Nat.le_add_right _ _
  · next first rest shape =>
      split at found
      · cases found
      · next scanned scannedFound =>
          cases found
          have split := (Scan.scan_ok scannedFound).1
          have width := Scan.scan_offset scannedFound
          rw [shape, ← split, ← List.append_assoc] at whole
          have start : lexer.gap.position.offset = byteLength (before ++ gap) := by
            rw [offset, byteLength_append]
          have stop : scanned.after.offset = byteLength (before ++ gap ++ scanned.text) := by
            rw [width, start, byteLength_append _ scanned.text]
          refine ⟨⟨?_, ?_, gap, separates, breaks⟩, before ++ gap ++ scanned.text, stop, ?_, stop,
            .inl rfl⟩
          · rw [Token.span, Token.start, width, start]
            exact Span.slice?_append _ _ _ whole
          · rw [Token.start, offset]
            exact Nat.le_add_right _ _
          · rw [whole, List.append_assoc _ scanned.text, List.nil_append]

theorem Stands.next_endOfFile {lexer after : Lexer} {source : String}
    {before opening : List Char} {token : Token} (stands : lexer.Stands source before opening)
    (found : lexer.next = .ok (token, after)) (kind : token.kind = .endOfFile) :
    token.span = ⟨source.utf8ByteSize, source.utf8ByteSize⟩ := by
  have place := lexer.gap_offset
  rw [stands.limit_eq] at place
  unfold Lexer.next at found
  simp only at found
  split at found
  · next shape =>
      cases found
      rw [shape, byteLength_nil, Nat.add_zero] at place
      rw [Token.span, Token.start, place]
  · split at found
    · cases found
    · next scanned scannedFound =>
        cases found
        exact absurd kind (Scan.scan_kind scannedFound)

theorem Stands.next_error {lexer : Lexer} {source : String} {before opening : List Char}
    {error : LexicalError} (stands : lexer.Stands source before opening)
    (found : lexer.next = .error error) :
    (∃ gap, Separates source (byteLength before) error.position.offset gap) ∧
      ∃ char, error.fault.IsAbout char ∧
        error.span.slice? source = some (String.singleton char) := by
  rcases stands.gap with ⟨gap, whole, offset, _, leading⟩
  have separates := separates_append whole leading
  rw [← offset] at separates
  unfold Lexer.next at found
  simp only at found
  split at found
  · cases found
  · next first rest shape =>
      split at found
      · next fault faultFound =>
          cases found
          have about := Scan.scan_error faultFound
          rw [shape, ← List.append_assoc] at whole
          refine ⟨⟨gap, separates⟩, first, about, ?_⟩
          rw [LexicalError.span, about.width, offset, ← byteLength_append]
          exact Span.slice?_append _ [first] rest whole
      · cases found

theorem run_tiles (lexer : Lexer) (source : String) :
    ∀ before opening, lexer.Stands source before opening →
      Tiles source (byteLength before) lexer.run.tokens lexer.run.ending := by
  fun_induction run lexer with
  | case1 lexer error found =>
      intro before opening stands
      rcases stands.next_error found with ⟨space, place⟩
      exact .failure space place
  | case2 lexer token after found last =>
      intro before opening stands
      exact .endOfFile (stands.next found).1 last (stands.next_endOfFile found last)
  | case3 lexer token after found more later induction =>
      intro before opening stands
      rcases stands.next found with ⟨follows, read, stop, standsAfter⟩
      refine .token follows more (next_nonempty found more) ?_
      rw [stop]
      exact induction _ _ standsAfter

end Lexer

/-- The tokens of a text and the space between them make up the text. -/
theorem lex_tiles (keywords : KeywordSet) (source : String) :
    Tiles source 0 (lex keywords source).tokens (lex keywords source).ending := by
  rcases Lexer.ofSource_stands keywords source with ⟨opening, stands⟩
  exact Lexer.run_tiles _ source [] opening stands

end TypedScript
