import TypedScript.Token.Lexer

/-!
Where the tokens of a text stand. Main statement: none of them is empty, each begins where the one
before has ended or later, and all of them lie within the text.
-/

namespace TypedScript

structure InOrder (tokens : List Token) : Prop where
  nonempty : ∀ token ∈ tokens, token.start < token.stop
  ordered : tokens.Pairwise fun earlier later => earlier.stop ≤ later.start

namespace InOrder

theorem of_sublist {part tokens : List Token} (inOrder : InOrder tokens)
    (sublist : part.Sublist tokens) : InOrder part :=
  ⟨fun token member => inOrder.nonempty token (sublist.subset member),
    inOrder.ordered.sublist sublist⟩

end InOrder

/-! What is skipped and what is scanned add up to the text. -/

theorem Trivia.skip_offset (mode : Mode) (chars : List Char) (here : Position) (broke : Bool) :
    (skip mode chars here broke).position.offset + byteLength (skip mode chars here broke).rest =
      here.offset + byteLength chars := by
  have newline : '\n'.utf8Size = 1 := rfl
  have carriageReturn : '\r'.utf8Size = 1 := rfl
  fun_induction skip mode chars here broke with
  | case1 => rfl
  | case2 _ _ _ _ induction =>
      rw [induction]
      simp only [Position.newLine, byteLength_cons]
      omega
  | case3 _ _ _ induction =>
      rw [induction, Position.steps_offset]
      simp only [byteLength_cons, byteLength_nil]
      omega
  | case4 _ _ _ induction =>
      rw [induction, Position.steps_offset]
      simp only [byteLength_cons, byteLength_nil]
      omega
  | case5 _ _ _ induction =>
      rw [induction, Position.steps_offset]
      simp only [byteLength_cons, byteLength_nil]
      omega
  | case6 _ _ _ _ _ _ _ _ _ _ induction =>
      rw [induction]
      simp only [Position.newLine, byteLength_cons]
      omega
  | case7 _ _ _ _ _ _ _ _ _ _ _ induction =>
      rw [induction]
      simp only [Position.step, byteLength_cons]
      omega
  | case8 => rfl

namespace Lexer

def limit (lexer : Lexer) : Nat :=
  lexer.position.offset + byteLength lexer.rest

theorem gap_offset (lexer : Lexer) :
    lexer.gap.position.offset + byteLength lexer.gap.rest = lexer.limit :=
  Trivia.skip_offset _ _ _ _

theorem offset_le_gap (lexer : Lexer) : lexer.position.offset ≤ lexer.gap.position.offset := by
  have offset := lexer.gap_offset
  rcases Trivia.skip_rest_suffix .plain lexer.rest lexer.position false with ⟨skipped, split⟩
  have size := congrArg byteLength split
  rw [byteLength_append] at size
  simp only [limit, gap] at offset ⊢
  omega

/-- A token begins where the lexer stands or later, and ends where the lexer stands after it. The
end of the text does not move. -/
theorem next_bounds {lexer after : Lexer} {token : Token}
    (found : lexer.next = .ok (token, after)) (more : token.kind ≠ .endOfFile) :
    lexer.position.offset ≤ token.start ∧ token.stop = after.position.offset ∧
      after.limit = lexer.limit := by
  have gapOffset := lexer.gap_offset
  have gapBound := lexer.offset_le_gap
  unfold next at found
  simp only at found
  split at found
  · cases found
    exact absurd rfl more
  · next first rest shape =>
      split at found
      · cases found
      · next scanned scannedFound =>
          cases found
          have offset := Scan.scan_offset scannedFound
          have whole := congrArg byteLength (Scan.scan_ok scannedFound).1
          rw [byteLength_append] at whole
          rw [shape] at gapOffset
          simp only [Token.start, limit] at *
          exact ⟨gapBound, trivial, by omega⟩

/-- The tokens that a lexer yields lie in order between where it stands and the end of the text. -/
theorem run_inOrder (lexer : Lexer) :
    InOrder lexer.run.tokens ∧
      ∀ token ∈ lexer.run.tokens,
        lexer.position.offset ≤ token.start ∧ token.stop ≤ lexer.limit := by
  fun_induction run lexer with
  | case1 => exact ⟨⟨by simp, by simp⟩, by simp⟩
  | case2 => exact ⟨⟨by simp, by simp⟩, by simp⟩
  | case3 lexer token after found more later induction =>
      rcases induction with ⟨inOrder, bounds⟩
      rcases next_bounds found more with ⟨startBound, stop, sameLimit⟩
      have nonempty := next_nonempty found more
      refine ⟨⟨?_, ?_⟩, ?_⟩
      · exact List.forall_mem_cons.mpr ⟨nonempty, inOrder.nonempty⟩
      · refine List.pairwise_cons.mpr ⟨fun other member => ?_, inOrder.ordered⟩
        have bound := bounds other member
        omega
      · refine List.forall_mem_cons.mpr ⟨⟨startBound, ?_⟩, fun other member => ?_⟩
        · rw [← sameLimit, limit]
          omega
        · have bound := bounds other member
          omega

theorem limit_ofSource (keywords : KeywordSet) (source : String) :
    (ofSource keywords source).limit = source.utf8ByteSize := by
  rw [← byteLength_toList]
  unfold ofSource ofChars
  split
  · next rest shape =>
      rw [limit, Position.steps_offset, Nat.add_assoc, ← byteLength_append,
        List.takeWhile_append_dropWhile]
      simp [Position.origin]
  · simp [limit, Position.origin]

end Lexer

theorem lex_inOrder (keywords : KeywordSet) (source : String) :
    InOrder (lex keywords source).tokens :=
  (Lexer.run_inOrder _).1

theorem lex_stop_le (keywords : KeywordSet) (source : String) :
    ∀ token ∈ (lex keywords source).tokens, token.stop ≤ source.utf8ByteSize := by
  intro token member
  rw [← Lexer.limit_ofSource keywords source]
  exact ((Lexer.run_inOrder _).2 token member).2

end TypedScript
