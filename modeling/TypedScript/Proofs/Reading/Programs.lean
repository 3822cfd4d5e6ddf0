import TypedScript.Parser.Entry
import TypedScript.Proofs.Reading.Statements

/-!
What reading a whole program tells about its text. Main statements: every range of the tree nests
within the one above it and goes from the start of a token to the end of one, and the tokens of the
text are exactly those that spell the tree.
-/

namespace TypedScript

/-! The kinds of names. -/

theorem Scan.scan_nameKind {keywords : KeywordSet} {first : Char} {rest : List Char}
    {here : Position} {scanned : Scanned} (found : scan keywords first rest here = .ok scanned)
    (isName : scanned.kind.isName = true) : scanned.kind = nameKind keywords scanned.text := by
  rw [scan_eq] at found
  split at found
  · split at found
    · cases found
    · cases found
      cases isName
  · split at found
    · cases found
      rfl
    · simp only at found
      split at found
      · split at found
        · cases found
        · cases found
          cases isName
      · cases found
        cases isName

namespace Lexer

theorem next_nameKind {lexer after : Lexer} {token : Token}
    (found : lexer.next = .ok (token, after)) :
    after.keywords = lexer.keywords ∧
      (token.kind.isName = true →
        token.kind = Scan.nameKind lexer.keywords token.text.toList) := by
  unfold next at found
  simp only at found
  split at found
  · cases found
    refine ⟨rfl, fun isName => ?_⟩
    cases isName
  · split at found
    · cases found
    · next scannedFound =>
        cases found
        rw [String.toList_ofList]
        exact ⟨rfl, Scan.scan_nameKind scannedFound⟩

end Lexer

/-! Whole texts. -/

namespace Parse

variable {α : Type} {before after : Cursor} {value : α}

theorem whole_eq_ok {item : Parse α} (parsed : (do
      let value ← item
      endOfInput
      return value) before = .ok value after) :
    item before = .ok value after ∧
      ∃ last, after.peek 0 = .ok last ∧ last.kind = .endOfFile := by
  simp only [bind_eq_ok, pure_eq_ok] at parsed
  rcases parsed with ⟨_, between, read, _, _, ended, rfl, rfl⟩
  simp only [endOfInput, bind_eq_ok, current_eq_ok] at ended
  rcases ended with ⟨last, _, ⟨seen, rfl⟩, ended⟩
  split at ended
  · exact absurd ended failAt_ne_ok
  · next isEnd =>
      rcases pure_eq_ok.mp ended with ⟨_, rfl⟩
      exact ⟨read, last, seen, by simpa using isEnd⟩

theorem whole_complete {parser : Nesting → Parse α} {spelled : α → List Lexeme → Prop}
    {nodes : α → List Node}
    (reads : ∀ {nesting : Nesting}, nesting.Reading → Reads (parser nesting) spelled nodes)
    {rules : Rules} {lexed : Lexed} (parsed : (do
      let value ← parser (.outermost rules)
      endOfInput
      return value) (.ofLexed lexed) = .ok value after) :
    ∃ token, lexed.ending = .endOfFile token := by
  rcases whole_eq_ok parsed with ⟨read, last, seen, isEnd⟩
  rcases reads (Nesting.ofRoom_reading _ _) read with ⟨_, _, takes, _⟩
  exact ⟨last, takes.ending.symm.trans (Cursor.ahead_of_end seen isEnd).2⟩

end Parse

/-! Programs. -/

theorem ofSource_keywords (keywords : KeywordSet) (source : String) :
    (Lexer.ofSource keywords source).keywords = keywords := by
  unfold Lexer.ofSource Lexer.ofChars
  split <;> rfl

theorem parseProgram_eq_ok {options : ParseOptions} {source : String} {program : Program}
    (parsed : parseProgram options source = .ok program) :
    program.span = ⟨0, source.utf8ByteSize⟩ ∧
      (∃ token, (lex options.keywords source).ending = .endOfFile token) ∧
      program.Spelled ((lex options.keywords source).tokens.map Token.lexeme) ∧
      Node.Among (Node.program program).children (lex options.keywords source).tokens := by
  rcases parseProgram_iff.mp parsed with ⟨list, after, read, rfl⟩
  exact ⟨rfl, Parse.statements_eq_ok (Nesting.ofRoom_reading _ _) read⟩

/-- The ranges of a program nest, and every range below the whole text goes from the start of a
token to the end of one. -/
theorem parseProgram_spans {options : ParseOptions} {source : String} {program : Program}
    (parsed : parseProgram options source = .ok program) :
    program.spanViolation? = none ∧
      ∀ node ∈ (Node.program program).children.flatMap Node.preorder,
        node.span.start < node.span.stop ∧
          (∃ token ∈ (lex options.keywords source).tokens, token.start = node.span.start) ∧
          ∃ token ∈ (lex options.keywords source).tokens, token.stop = node.span.stop := by
  rcases parseProgram_eq_ok parsed with ⟨span, _, _, among⟩
  have inOrder := lex_inOrder options.keywords source
  have lawful : ∀ child ∈ (Node.program program).children, child.violation? = none ∧
      ∀ below ∈ child.preorder, below.Delimited (lex options.keywords source).tokens := by
    intro child member
    rcases among.exists_covers member with ⟨own, sublist, covers⟩
    rcases covers.lawful (inOrder.of_sublist sublist) with ⟨noViolation, delimited⟩
    exact ⟨noViolation, fun below inside => (delimited below inside).mono sublist.subset⟩
  constructor
  · refine Node.violation?_eq_none among inOrder (fun token member => ?_) fun child member =>
      (lawful child member).1
    rw [Node.span, span]
    exact ⟨Nat.zero_le _, lex_stop_le options.keywords source token member⟩
  · intro node member
    rcases List.mem_flatMap.mp member with ⟨child, childMember, inside⟩
    have delimited := (lawful child childMember).2 node inside
    exact ⟨delimited.nonempty, delimited.start, delimited.stop⟩

/-- A program with bars before types, a comparison of two tokens, and a trial that fails. -/
theorem parseProgram_spans_mixed : ∃ program,
    parseProgram .default "type T = | A | B[]; let x = f(a) >= b < c;" = .ok program ∧
      program.spanViolation? = none := by
  have accepted :
      (parseProgram .default "type T = | A | B[]; let x = f(a) >= b < c;").isOk = true := by
    decide +kernel
  rcases exists_of_isOk accepted with ⟨program, parsed⟩
  exact ⟨program, parsed, (parseProgram_spans parsed).1⟩

end TypedScript
