import Mathlib.Algebra.GroupWithZero.Nat
import TypedScript.Proofs.ErrorPlaces
import TypedScript.Proofs.Lexing.SharedBeginning
import TypedScript.Proofs.Lexing.Writing
import TypedScript.Proofs.LineStarts

/-!
The coordinates of tokens and errors. A lexer counts lines as it reads; a line map counts them in
the whole text. Main statement: the two differ only by the separators U+2028 and U+2029 that stand
in a string without a backslash before them. A line map starts a new line there and a lexer does
not, so an error after such a string is reported on an earlier line than a listing would show.
-/

namespace TypedScript

/-! Counting. -/

/-- How many of the two separators stand in a text without a backslash before them. -/
def unescapedSeparators : List Char → Nat
  | [] => 0
  | '\\' :: _ :: rest => unescapedSeparators rest
  | char :: rest =>
      (if char = '\u2028' ∨ char = '\u2029' then 1 else 0) + unescapedSeparators rest

theorem unescapedSeparators_cons {char : Char} (noEscape : char ≠ '\\') (rest : List Char) :
    unescapedSeparators (char :: rest) =
      (if char = '\u2028' ∨ char = '\u2029' then 1 else 0) + unescapedSeparators rest :=
  unescapedSeparators.eq_3 char rest fun _ _ isEscape => absurd isEscape noEscape

def Token.missedLines (token : Token) : Nat :=
  if token.kind = .stringLiteral then unescapedSeparators token.text.toList else 0

def Lexed.missedLines (lexed : Lexed) (offset : Nat) : Nat :=
  ((lexed.tokens.filter (·.stop ≤ offset)).map Token.missedLines).sum

/-! Points with some lines missed. -/

structure Position.Behind (read shown : Position) (missed : Nat) : Prop where
  offset : shown.offset = read.offset
  line : shown.line = read.line + missed
  same : missed = 0 → shown = read

namespace Position.Behind

variable {read shown : Position} {missed : Nat}

theorem refl (read : Position) : read.Behind read 0 :=
  ⟨rfl, rfl, fun _ => rfl⟩

theorem step (behind : read.Behind shown missed) (char : Char) :
    (read.step char).Behind (shown.step char) missed := by
  refine ⟨?_, behind.line, fun none => by rw [behind.same none]⟩
  simp only [Position.step, behind.offset]

theorem newLine (behind : read.Behind shown missed) (width : Nat) :
    (read.newLine width).Behind (shown.newLine width) missed := by
  refine ⟨?_, ?_, fun none => by rw [behind.same none]⟩
  · simp only [Position.newLine, behind.offset]
  · simp only [Position.newLine, behind.line]
    omega

theorem miss (behind : read.Behind shown missed) (char : Char) :
    (read.step char).Behind (shown.newLine char.utf8Size) (missed + 1) := by
  refine ⟨?_, ?_, fun none => absurd none (Nat.succ_ne_zero missed)⟩
  · simp only [Position.newLine, Position.step, behind.offset]
  · simp only [Position.newLine, Position.step, behind.line]
    omega

theorem walk (behind : read.Behind shown missed) (chars : List Char) :
    (read.walk chars).Behind (shown.walk chars) missed := by
  fun_induction Position.walk read chars generalizing shown with
  | case1 => exact behind
  | case2 read rest induction => exact induction (behind.newLine 2)
  | case3 read char rest alone induction =>
      rw [Position.walk_cons alone]
      split
      · next terminates =>
          rw [if_pos terminates] at induction
          exact induction (behind.newLine _)
      · next other =>
          rw [if_neg other] at induction
          exact induction (behind.step char)

end Position.Behind

theorem Position.walk_of_oneLine {chars : List Char}
    (oneLine : ∀ char ∈ chars, isLineTerminator char = false) (here : Position) :
    here.walk chars = here.steps chars := by
  induction chars generalizing here with
  | nil => rfl
  | cons char chars induction =>
      rw [List.forall_mem_cons] at oneLine
      have alone : ∀ later, char = '\r' → chars ≠ '\n' :: later := by
        rintro later rfl
        cases oneLine.1
      rw [walk_cons alone, oneLine.1, if_neg Bool.false_ne_true, induction oneLine.2]
      rfl

theorem alone_of_append {char : Char} {rest beginning more : List Char}
    (alone : ∀ later, char = '\r' → rest ≠ '\n' :: later) (split : rest = beginning ++ more) :
    ∀ later, char = '\r' → beginning ≠ '\n' :: later := by
  rintro later isReturn rfl
  exact alone (later ++ more) isReturn split

/-! Space between tokens. -/

theorem Trivia.skip_walk (mode : Mode) (chars : List Char) (here : Position) (broke : Bool) :
    ∃ skipped, chars = skipped ++ (skip mode chars here broke).rest ∧
      (skip mode chars here broke).position = here.walk skipped := by
  fun_induction skip mode chars here broke with
  | case1 => exact ⟨[], rfl, rfl⟩
  | case2 mode rest here broke induction =>
      rcases induction with ⟨skipped, split, place⟩
      exact ⟨'\r' :: '\n' :: skipped, by rw [List.cons_append, List.cons_append, ← split], place⟩
  | case3 rest here broke induction =>
      rcases induction with ⟨skipped, split, place⟩
      exact ⟨'/' :: '/' :: skipped, by rw [List.cons_append, List.cons_append, ← split], place⟩
  | case4 rest here broke induction =>
      rcases induction with ⟨skipped, split, place⟩
      exact ⟨'/' :: '*' :: skipped, by rw [List.cons_append, List.cons_append, ← split], place⟩
  | case5 rest here broke induction =>
      rcases induction with ⟨skipped, split, place⟩
      exact ⟨'*' :: '/' :: skipped, by rw [List.cons_append, List.cons_append, ← split], place⟩
  | case6 mode char rest here broke notBoth _ _ _ terminates induction =>
      rcases induction with ⟨skipped, split, place⟩
      refine ⟨char :: skipped, by rw [List.cons_append, ← split], ?_⟩
      rw [Position.walk_cons (alone_of_append notBoth split), if_pos terminates, place]
  | case7 mode char rest here broke notBoth _ _ _ sameLine _ induction =>
      rcases induction with ⟨skipped, split, place⟩
      refine ⟨char :: skipped, by rw [List.cons_append, ← split], ?_⟩
      rw [Position.walk_cons (alone_of_append notBoth split), if_neg sameLine, place]
  | case8 => exact ⟨[], rfl, rfl⟩

/-! Tokens. -/

theorem isIdentifierPart_of_isLineTerminator {char : Char}
    (terminates : isLineTerminator char = true) : isIdentifierPart char = false := by
  simp only [isLineTerminator, Bool.or_eq_true, beq_iff_eq] at terminates
  rcases terminates with ((rfl | rfl) | rfl) | rfl
  all_goals decide +kernel

theorem isLineTerminator_of_isDigit {char : Char} (digit : isDigit char = true) :
    isLineTerminator char = false := by
  cases terminates : isLineTerminator char with
  | false => rfl
  | true =>
      simp only [isLineTerminator, Bool.or_eq_true, beq_iff_eq] at terminates
      rcases terminates with ((rfl | rfl) | rfl) | rfl <;> cases digit

theorem Punctuator.spelling_oneLine (mark : Punctuator) :
    ∀ char ∈ mark.spelling.toList, isLineTerminator char = false := by
  have plain : mark.spelling.toList.any isLineTerminator = false := by cases mark <;> decide
  simpa using plain

namespace Scan

theorem Number.oneLine {digits : List Char} (number : Number digits) :
    ∀ char ∈ digits, isLineTerminator char = false := by
  cases number with
  | whole _ all => exact fun char member => isLineTerminator_of_isDigit (all char member)
  | fraction wholeDigits _ decimalDigits =>
      intro char member
      rcases List.mem_append.mp member with member | member
      · exact isLineTerminator_of_isDigit (wholeDigits char member)
      · rcases List.mem_cons.mp member with rfl | member
        · rfl
        · exact isLineTerminator_of_isDigit (decimalDigits char member)

theorem walk_escape {char : Char} {rest : List Char}
    (alone : ∀ later, char = '\r' → rest ≠ '\n' :: later) (here : Position) :
    here.walk ('\\' :: char :: rest) = (afterEscape here char).walk rest := by
  have backslash : here.walk ('\\' :: char :: rest) = (here.step '\\').walk (char :: rest) :=
    Position.walk_cons (fun _ isReturn => absurd isReturn (by decide)) here
  rw [backslash, Position.walk_cons alone, afterEscape]

theorem afterEscape_behind {here shown : Position} {missed : Nat}
    (behind : here.Behind shown missed) (char : Char) :
    (afterEscape here char).Behind (afterEscape shown char) missed := by
  unfold afterEscape
  split
  · exact (behind.step '\\').newLine _
  · exact (behind.step '\\').step char

theorem stringTail?_behind {quote : Char} (quotes : isQuote quote = true)
    {chars : List Char} {here shown : Position} {missed : Nat} {tail : StringTail}
    (found : stringTail? quote chars here = some tail) (behind : here.Behind shown missed) :
    tail.after.Behind (shown.walk tail.text) (missed + unescapedSeparators tail.text) := by
  fun_induction stringTail? quote chars here generalizing tail shown missed with
  | case1 => simp at found
  | case2 rest here induction =>
      obtain ⟨inner, innerFound, rfl⟩ := Option.map_eq_some_iff.mp found
      have separators : unescapedSeparators ('\\' :: '\r' :: '\n' :: inner.text) =
          unescapedSeparators inner.text := by
        rw [unescapedSeparators, unescapedSeparators_cons (by decide), if_neg (by decide),
          Nat.zero_add]
      have later := induction innerFound ((behind.step '\\').newLine 2)
      rw [← separators] at later
      exact later
  | case3 char rest here notBoth induction =>
      obtain ⟨inner, innerFound, rfl⟩ := Option.map_eq_some_iff.mp found
      have split := (stringTail?_append innerFound).symm
      have alone := alone_of_append notBoth split
      have later := induction innerFound (afterEscape_behind behind char)
      rw [← walk_escape alone] at later
      exact later
  | case4 char rest here _ _ closes =>
      cases found
      rw [beq_iff_eq] at closes
      subst closes
      simp only [isQuote, Bool.or_eq_true, beq_iff_eq] at quotes
      rcases quotes with rfl | rfl <;> exact behind.step _
  | case5 => simp at found
  | case6 char rest here _ notEscape _ sameLine induction =>
      obtain ⟨inner, innerFound, rfl⟩ := Option.map_eq_some_iff.mp found
      have noEscape : char ≠ '\\' := by
        rintro rfl
        cases rest with
        | nil => cases innerFound
        | cons next rest => exact notEscape next rest rfl rfl
      have noReturn : ∀ later, char = '\r' → inner.text ≠ '\n' :: later := by
        rintro later rfl
        exact absurd rfl sameLine
      simp only [StringTail.addPlain]
      rw [Position.walk_cons noReturn, unescapedSeparators_cons noEscape]
      by_cases separates : char = '\u2028' ∨ char = '\u2029'
      · have terminates : isLineTerminator char = true := by
          rcases separates with rfl | rfl <;> rfl
        rw [if_pos separates, if_pos terminates, ← Nat.add_assoc]
        exact induction innerFound (behind.miss char)
      · have noTerminator : ¬isLineTerminator char = true := by
          simp only [isLineTerminator, Bool.or_eq_true, beq_iff_eq] at sameLine ⊢
          tauto
        rw [if_neg separates, if_neg noTerminator, Nat.zero_add]
        exact induction innerFound (behind.step char)

theorem scan_oneLine {keywords : KeywordSet} {first : Char} {rest : List Char} {here : Position}
    {scanned : Scanned} (found : scan keywords first rest here = .ok scanned)
    (noQuote : isQuote first = false) :
    scanned.kind ≠ .stringLiteral ∧ scanned.after = here.steps scanned.text ∧
      ∀ char ∈ scanned.text, isLineTerminator char = false := by
  cases starts : isIdentifierStart first with
  | true =>
      cases scan_name found noQuote starts
      refine ⟨?_, rfl, fun char member => ?_⟩
      · simp only [plain, nameKind]
        split <;> simp
      · have part : isIdentifierPart char = true :=
          List.all_eq_true.mp List.all_takeWhile char member
        cases terminates : isLineTerminator char with
        | false => rfl
        | true =>
            rw [isIdentifierPart_of_isLineTerminator terminates] at part
            cases part
  | false =>
      rcases scan_mark_or_number found noQuote starts with
        ⟨mark, after, _, _, rfl⟩ | ⟨after, notEmpty, rfl⟩
      · exact ⟨by simp [plain], rfl, mark.spelling_oneLine⟩
      · exact ⟨by simp [plain], rfl, (splitNumber_number notEmpty).oneLine⟩

theorem stringTail?_getLast? {quote : Char} {chars : List Char} {here : Position}
    {tail : StringTail} (found : stringTail? quote chars here = some tail) :
    tail.text.getLast? = some quote := by
  fun_induction stringTail? quote chars here generalizing tail with
  | case1 => simp at found
  | case2 rest here induction =>
      obtain ⟨inner, innerFound, rfl⟩ := Option.map_eq_some_iff.mp found
      simp [StringTail.addEscape, List.getLast?_cons, induction innerFound]
  | case3 char rest here _ induction =>
      obtain ⟨inner, innerFound, rfl⟩ := Option.map_eq_some_iff.mp found
      simp [StringTail.addEscape, List.getLast?_cons, induction innerFound]
  | case4 char rest here _ _ closes =>
      cases found
      simpa using closes
  | case5 => simp at found
  | case6 char rest here _ _ _ _ induction =>
      obtain ⟨inner, innerFound, rfl⟩ := Option.map_eq_some_iff.mp found
      simp [StringTail.addPlain, List.getLast?_cons, induction innerFound]

/-- A lexer misses the lines of the token that it reads, and the token does not end in the middle of
a line terminator. -/
theorem scan_behind {keywords : KeywordSet} {first : Char} {rest : List Char}
    {here shown : Position} {missed : Nat} {scanned : Scanned}
    (found : scan keywords first rest here = .ok scanned) (behind : here.Behind shown missed) :
    scanned.after.Behind (shown.walk scanned.text)
        (missed + if scanned.kind = .stringLiteral then unescapedSeparators scanned.text else 0) ∧
      scanned.text.getLast? ≠ some '\r' := by
  cases quotes : isQuote first with
  | true =>
      rw [scan_eq, if_pos quotes] at found
      split at found
      · cases found
      · next tail tailFound =>
          cases found
          have later := stringTail?_behind quotes tailFound (behind.step first)
          have last := stringTail?_getLast? tailFound
          simp only [isQuote, Bool.or_eq_true, beq_iff_eq] at quotes
          rcases quotes with rfl | rfl
          all_goals
            rw [if_pos rfl, unescapedSeparators_cons (by decide), if_neg (by decide), Nat.zero_add,
              List.getLast?_cons, last]
            exact ⟨later, by decide⟩
  | false =>
      rcases scan_oneLine found quotes with ⟨noString, after, oneLine⟩
      rw [if_neg noString, Nat.add_zero, after, ← Position.walk_of_oneLine oneLine]
      refine ⟨behind.walk _, fun isReturn => ?_⟩
      cases oneLine _ (List.mem_of_getLast? isReturn)

end Scan

/-! Lexers. -/

namespace Lexer

/-- Where a lexer stands in a text when it has missed some lines. -/
structure Placed (lexer : Lexer) (source : String) (read : List Char) (missed : Nat) : Prop where
  whole : source.toList = read ++ lexer.rest
  uncut : Uncut read lexer.rest
  behind : lexer.position.Behind (Position.origin.walk read) missed

theorem ofSource_placed (keywords : KeywordSet) (source : String) :
    ∃ read, (ofSource keywords source).Placed source read 0 := by
  rcases ofChars_cases keywords source.toList with ⟨tail, shape, opened⟩ | ⟨_, opened⟩
  · have oneLine : ∀ char ∈ source.toList.takeWhile (!isLineTerminator ·),
        isLineTerminator char = false := by
      intro char member
      simpa using List.all_eq_true.mp List.all_takeWhile char member
    refine ⟨source.toList.takeWhile (!isLineTerminator ·), ?_, ?_, ?_⟩
    all_goals rw [ofSource, opened]
    · exact List.takeWhile_append_dropWhile.symm
    · refine .of_last fun isReturn => ?_
      cases oneLine _ (List.mem_of_getLast? isReturn)
    · rw [Position.walk_of_oneLine oneLine]
      exact .refl _
  · refine ⟨[], ?_, ?_, ?_⟩
    all_goals rw [ofSource, opened]
    · rfl
    · exact .of_last (by simp)
    · exact .refl _

variable {lexer after : Lexer} {source : String} {read : List Char} {missed : Nat} {token : Token}

theorem Placed.gap (placed : lexer.Placed source read missed) :
    ∃ passed, source.toList = passed ++ lexer.gap.rest ∧
      lexer.gap.rest.head? ≠ some '\n' ∧
      lexer.gap.position.Behind (Position.origin.walk passed) missed := by
  rcases Trivia.skip_walk .plain lexer.rest lexer.position false with ⟨skipped, split, place⟩
  have uncut : Uncut read skipped := by
    have whole := placed.uncut
    rw [split] at whole
    exact whole.beginning
  refine ⟨read ++ skipped, ?_, ?_, ?_⟩
  · rw [placed.whole, split, List.append_assoc]
    rfl
  · intro isFeed
    cases shape : lexer.gap.rest with
    | nil =>
        rw [shape] at isFeed
        cases isFeed
    | cons char later =>
        rw [shape] at isFeed
        cases isFeed
        cases Trivia.skip_stops shape
  · rw [Position.walk_append uncut, Lexer.gap, place]
    exact placed.behind.walk skipped

/-- A line map shows the point before the next token, and the lines that have been missed. -/
theorem Placed.shown (placed : lexer.Placed source read missed) :
    lexer.gap.position.Behind
      ((LineMap.ofText source).position source lexer.gap.position.offset) missed := by
  rcases placed.gap with ⟨passed, whole, noFeed, behind⟩
  have shown := LineMap.position_eq_walk whole (.of_head noFeed)
  have offset : lexer.gap.position.offset = byteLength passed := by
    rw [← behind.offset, ← shown]
    rfl
  rw [offset, shown]
  exact behind

theorem Placed.next (placed : lexer.Placed source read missed)
    (found : lexer.next = .ok (token, after)) (more : token.kind ≠ .endOfFile) :
    ∃ passed, after.Placed source passed (missed + token.missedLines) := by
  rcases placed.gap with ⟨passed, whole, noFeed, behind⟩
  rcases next_eq_ok found more with ⟨first, rest, scanned, shape, scans, rfl, rfl⟩
  rcases Scan.scan_behind scans behind with ⟨scannedBehind, noReturn⟩
  have split := (Scan.scan_ok scans).1
  have notEmpty := (Scan.scan_ok scans).2
  have uncut : Uncut passed scanned.text := by
    rw [shape, ← split] at noFeed
    exact (Uncut.of_head noFeed).beginning
  refine ⟨passed ++ scanned.text, ?_, .of_last ?_, ?_⟩
  · rw [whole, shape, ← split, List.append_assoc]
  · rwa [List.getLast?_append_of_ne_nil _ notEmpty]
  · rw [Position.walk_append uncut, Token.missedLines]
    simpa using scannedBehind

end Lexer

/-! Whole texts. -/

def Ending.position : Ending → Position
  | .endOfFile token => token.position
  | .failure error => error.position

/-- The points that a lexer reports: of its tokens, and of its end or its error. -/
def Lexed.places (lexed : Lexed) : List Position :=
  lexed.tokens.map Token.position ++ [lexed.ending.position]

namespace Lexer

variable {lexer after : Lexer} {source : String} {read : List Char} {missed : Nat} {token : Token}

theorem places_of_token (found : lexer.next = .ok (token, after)) (more : token.kind ≠ .endOfFile) :
    lexer.run.places = token.position :: after.run.places := by
  rw [Lexed.places, (run_of_token found more).1, (run_of_token found more).2]
  rfl

theorem missedLines_of_token (found : lexer.next = .ok (token, after))
    (more : token.kind ≠ .endOfFile) (offset : Nat) :
    lexer.run.missedLines offset =
      (if token.stop ≤ offset then token.missedLines else 0) + after.run.missedLines offset := by
  rw [Lexed.missedLines, (run_of_token found more).1, List.filter_cons]
  by_cases ended : token.stop ≤ offset <;> simp [ended, Lexed.missedLines]

theorem induction {motive : Lexer → Prop}
    (last : ∀ lexer : Lexer, (∀ token after, lexer.next = .ok (token, after) →
      token.kind = .endOfFile) → motive lexer)
    (step : ∀ (lexer after : Lexer) (token : Token), lexer.next = .ok (token, after) →
      token.kind ≠ .endOfFile → motive after → motive lexer) (lexer : Lexer) : motive lexer := by
  fun_induction run lexer with
  | case1 lexer error found =>
      refine last lexer fun token after other => ?_
      cases found.symm.trans other
  | case2 lexer token after found isEnd =>
      refine last lexer fun token after other => ?_
      cases found.symm.trans other
      exact isEnd
  | case3 lexer token after found more later induction =>
      exact step lexer after token found more induction

theorem run_of_last (last : ∀ token after, lexer.next = .ok (token, after) →
    token.kind = .endOfFile) :
    lexer.run.places = [lexer.gap.position] ∧ ∀ offset, lexer.run.missedLines offset = 0 := by
  unfold Lexed.places Lexed.missedLines
  rcases lexer.next_cases with finished | ⟨_, _, _, shape, failed⟩ | ⟨_, _, _, shape, scans⟩
  · have found := next_of_end finished
    rw [(run_of_end found rfl).1, (run_of_end found rfl).2]
    exact ⟨rfl, fun _ => rfl⟩
  · have failure := next_of_fault shape failed
    rw [(run_of_fault failure).1, (run_of_fault failure).2]
    exact ⟨rfl, fun _ => rfl⟩
  · exact absurd (last _ _ (next_of_scan shape scans)) (Scan.scan_kind scans)

theorem le_places (lexer : Lexer) :
    ∀ place ∈ lexer.run.places, lexer.position.offset ≤ place.offset := by
  induction lexer using Lexer.induction with
  | last lexer last =>
      rw [(run_of_last last).1]
      exact List.forall_mem_singleton.mpr lexer.offset_le_gap
  | step lexer after token found more induction =>
      rcases next_bounds found more with ⟨start, stop, _⟩
      have nonempty := next_nonempty found more
      rw [places_of_token found more]
      refine List.forall_mem_cons.mpr ⟨start, fun place member => ?_⟩
      have later := induction place member
      omega

theorem missedLines_eq_zero (lexer : Lexer) {offset : Nat} (le : offset ≤ lexer.position.offset) :
    lexer.run.missedLines offset = 0 := by
  have later : lexer.run.tokens.filter (·.stop ≤ offset) = [] := by
    rw [List.filter_eq_nil_iff]
    intro token member
    have nonempty := lexer.run_inOrder.1.nonempty token member
    have start := (lexer.run_inOrder.2 token member).1
    rw [decide_eq_true_eq]
    omega
  rw [Lexed.missedLines, later]
  rfl

/-- A lexer reports every point with the lines missed that stand in the tokens before it. -/
theorem run_behind (lexer : Lexer) {read : List Char} {missed : Nat}
    (placed : lexer.Placed source read missed) :
    ∀ place ∈ lexer.run.places,
      place.Behind ((LineMap.ofText source).position source place.offset)
        (missed + lexer.run.missedLines place.offset) := by
  induction lexer using Lexer.induction generalizing read missed with
  | last lexer last =>
      rw [(run_of_last last).1]
      refine List.forall_mem_singleton.mpr ?_
      rw [(run_of_last last).2]
      exact placed.shown
  | step lexer after token found more induction =>
      rcases next_bounds found more with ⟨_, stop, _⟩
      have nonempty : token.position.offset < token.stop := next_nonempty found more
      rw [places_of_token found more]
      refine List.forall_mem_cons.mpr ⟨?_, fun place member => ?_⟩
      · have none : lexer.run.missedLines token.position.offset = 0 := by
          rw [missedLines_of_token found more, if_neg (Nat.not_le_of_lt nonempty),
            after.missedLines_eq_zero (by rw [← stop]; exact Nat.le_of_lt nonempty)]
        have place : token.position = lexer.gap.position := by
          rcases next_eq_ok found more with ⟨_, _, _, _, _, rfl, _⟩
          rfl
        rw [none, place]
        exact placed.shown
      · have ended : token.stop ≤ place.offset := by
          rw [stop]
          exact after.le_places place member
        rcases placed.next found more with ⟨passed, placedAfter⟩
        rw [missedLines_of_token found more, if_pos ended, ← Nat.add_assoc]
        exact induction placedAfter place member

end Lexer

/-- Every point that a lexer reports is what a line map shows, less the lines that it has missed. -/
theorem lex_behind (keywords : KeywordSet) (source : String) :
    ∀ place ∈ (lex keywords source).places,
      place.Behind ((LineMap.ofText source).position source place.offset)
        ((lex keywords source).missedLines place.offset) := by
  rcases Lexer.ofSource_placed keywords source with ⟨read, placed⟩
  intro place member
  have behind := Lexer.run_behind _ placed place member
  rw [Nat.zero_add] at behind
  exact behind

/-- The points that a lexer reports are those of its tokens, the one at the end of the text
included, and that of its error. -/
theorem Lexed.mem_places {lexed : Lexed} {place : Position} :
    place ∈ lexed.places ↔
      (∃ token ∈ lexed.withEnd, token.position = place) ∨
        ∃ error, lexed.error? = some error ∧ error.position = place := by
  unfold places withEnd error?
  cases lexed.ending with
  | endOfFile last => simp [Ending.position, or_and_right, exists_or, eq_comm]
  | failure error => simp [Ending.position, eq_comm]

/-- The point of a token or of a lexical error is on the line that a line map shows for it, less the
lines that have been missed in the strings before it; if none has, the two agree altogether. -/
theorem lex_position_shown (keywords : KeywordSet) (source : String) (place : Position)
    (reported : (∃ token ∈ (lex keywords source).withEnd, token.position = place) ∨
      ∃ error, (lex keywords source).error? = some error ∧ error.position = place) :
    let shown := (LineMap.ofText source).position source place.offset
    let missed := (lex keywords source).missedLines place.offset
    shown.line = place.line + missed ∧ (missed = 0 → shown = place) := by
  intro shown missed
  have behind : place.Behind shown missed :=
    lex_behind keywords source place (Lexed.mem_places.mpr reported)
  exact ⟨behind.line, behind.same⟩

/-- After a string with a separator that no backslash escapes, a line map is one line ahead. -/
theorem lex_position_shown_separator :
    (∃ token ∈ (lex .full "'\\\\\u2028';\r\nx").withEnd, token.position = ⟨10, 2, 1⟩) ∧
      ((LineMap.ofText "'\\\\\u2028';\r\nx").position "'\\\\\u2028';\r\nx" 10).line = 3 := by
  have points : (lex .full "'\\\\\u2028';\r\nx").withEnd.map Token.position =
      [⟨0, 1, 1⟩, ⟨7, 1, 6⟩, ⟨10, 2, 1⟩, ⟨11, 2, 2⟩] := by decide +kernel
  have counted : (lex .full "'\\\\\u2028';\r\nx").missedLines 10 = 1 := by decide +kernel
  have reported : ∃ token ∈ (lex .full "'\\\\\u2028';\r\nx").withEnd,
      token.position = ⟨10, 2, 1⟩ := by
    rw [← List.mem_map, points]
    decide
  have shown := (lex_position_shown .full _ _ (.inl reported)).1
  rw [counted] at shown
  exact ⟨reported, shown⟩

theorem SyntaxError.ComesFrom.position_mem {lexed : Lexed} {error : SyntaxError}
    (comesFrom : error.ComesFrom lexed) : error.position ∈ lexed.places := by
  unfold Lexed.places
  cases error with
  | lexical error =>
      cases ending : lexed.ending with
      | endOfFile token => simp [ComesFrom, Lexed.error?, ending] at comesFrom
      | failure other =>
          simp only [ComesFrom, Lexed.error?, ending, Option.some.injEq] at comesFrom
          subst comesFrom
          exact List.mem_append_right _ (List.mem_singleton_self _)
  | grammar error =>
      have member := comesFrom.1
      cases ending : lexed.ending with
      | endOfFile token =>
          simp only [Lexed.withEnd, ending, List.mem_append, List.mem_singleton] at member
          rcases member with member | isEnd
          · exact List.mem_append_left _ (List.mem_map_of_mem member)
          · exact List.mem_append_right _ (List.mem_singleton.mpr (congrArg Token.position isEnd))
      | failure other =>
          simp only [Lexed.withEnd, ending] at member
          exact List.mem_append_left _ (List.mem_map_of_mem member)

/-- The place of an error is the one that a line map shows for it, up to the lines that separators
start in strings without a backslash before them: of these the error counts none. -/
theorem error_position_behind (options : ParseOptions) (source : String) (error : SyntaxError)
    (failed : parseProgram options source = .error error) :
    let shown := (LineMap.ofText source).position source error.span.start
    let missed := (lex options.keywords source).missedLines error.span.start
    shown.line = error.position.line + missed ∧ (shown = error.position ↔ missed = 0) := by
  intro shown missed
  have located : error.Located (lex options.keywords source) source := by
    have justified := parseProgram_justified options source
    rw [failed] at justified
    exact justified
  have behind : error.position.Behind shown missed := by
    have place := lex_behind options.keywords source _ located.comesFrom.position_mem
    rw [← located.start] at place
    exact place
  refine ⟨behind.line, fun same => ?_, behind.same⟩
  have line := behind.line
  rw [same] at line
  exact Nat.left_eq_add.mp line

theorem error_position_behind_escape :
    ∃ error, parseProgram .default "'\\\u2028';\r\n@" = .error error ∧
      (LineMap.ofText "'\\\u2028';\r\n@").position "'\\\u2028';\r\n@" error.span.start =
        error.position := by
  have reported : (match parseProgram .default "'\\\u2028';\r\n@" with
      | .error error => error.span.start == 9 && error.position == ⟨9, 3, 1⟩
      | .ok _ => false) = true := by decide +kernel
  have counted : (lex KeywordSet.full "'\\\u2028';\r\n@").missedLines 9 = 0 := by decide +kernel
  split at reported
  · next error failed =>
      simp only [Bool.and_eq_true, beq_iff_eq] at reported
      refine ⟨error, failed, (error_position_behind .default _ error failed).2.mpr ?_⟩
      rw [reported.1]
      exact counted
  · cases reported

/-- After a string with a separator in it, an error and a listing tell different lines. -/
theorem error_position_after_separator :
    ∃ error, parseProgram .default "\"\u2028\"; @" = .error error ∧ error.position = ⟨7, 1, 6⟩ ∧
      (LineMap.ofText "\"\u2028\"; @").position "\"\u2028\"; @" error.span.start = ⟨7, 2, 4⟩ := by
  have reported : (match parseProgram .default "\"\u2028\"; @" with
      | .error error => error.span.start == 7 && error.position == ⟨7, 1, 6⟩
      | .ok _ => false) = true := by decide +kernel
  have shown : (LineMap.ofText "\"\u2028\"; @").position "\"\u2028\"; @" 7 = ⟨7, 2, 4⟩ := by
    decide +kernel
  split at reported
  · next error failed =>
      simp only [Bool.and_eq_true, beq_iff_eq] at reported
      refine ⟨error, failed, reported.2, ?_⟩
      rw [reported.1]
      exact shown
  · cases reported

end TypedScript
