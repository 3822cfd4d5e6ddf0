import TypedScript.Proofs.Checked.Ranges
import TypedScript.Proofs.Checked.Tokens
import TypedScript.Proofs.Recorded

/-!
Lines and columns that fit in 32 bits. Each line after the first and each column after the first of
its line is reached by passing a byte at least, so neither is beyond the offset. Main statement: in
a text with one byte less than 32 bits could count, tokens and errors are recorded as they are.
-/

namespace TypedScript

/-! Points. -/

namespace Position.Bounded

variable {place : Position}

theorem afterEscape (bounded : place.Bounded) (char : Char) :
    (Scan.afterEscape place char).Bounded := by
  unfold Scan.afterEscape
  split
  · exact (bounded.step '\\').newLine char.utf8Size_pos
  · exact (bounded.step '\\').step char

theorem stringTail? (bounded : place.Bounded) {quote : Char} {chars : List Char}
    {tail : Scan.StringTail} (found : Scan.stringTail? quote chars place = some tail) :
    tail.after.Bounded := by
  fun_induction Scan.stringTail? quote chars place generalizing tail with
  | case1 => cases found
  | case2 rest place induction =>
      obtain ⟨inner, innerFound, rfl⟩ := Option.map_eq_some_iff.mp found
      have after := induction ((bounded.step '\\').newLine Nat.two_pos) innerFound
      exact after
  | case3 char rest place _ induction =>
      obtain ⟨inner, innerFound, rfl⟩ := Option.map_eq_some_iff.mp found
      have after := induction (bounded.afterEscape char) innerFound
      exact after
  | case4 char =>
      cases found
      exact bounded.step char
  | case5 => cases found
  | case6 char rest place _ _ _ _ induction =>
      obtain ⟨inner, innerFound, rfl⟩ := Option.map_eq_some_iff.mp found
      have after := induction (bounded.step char) innerFound
      exact after

theorem scan (bounded : place.Bounded) {keywords : KeywordSet} {first : Char} {rest : List Char}
    {scanned : Scanned} (found : Scan.scan keywords first rest place = .ok scanned) :
    scanned.after.Bounded := by
  cases quotes : Scan.isQuote first with
  | false =>
      rcases Scan.scan_oneLine found quotes with ⟨_, after, oneLine⟩
      rw [after, ← walk_of_oneLine oneLine]
      exact bounded.walk _
  | true =>
      rw [Scan.scan_eq, if_pos quotes] at found
      split at found
      · cases found
      · next tail tailFound =>
          cases found
          exact (bounded.step first).stringTail? tailFound

theorem low32_eq (bounded : place.Bounded) {size : Nat} (within : place.offset ≤ size)
    (small : size + 1 < Numeral.bound32) : place.low32 = place := by
  have line := bounded.line
  have column := bounded.column
  rw [Position.low32, low32_of_lt (by omega), low32_of_lt (by omega), low32_of_lt (by omega)]

end Position.Bounded

/-! Lexers. -/

theorem Lexer.run_bounded {lexer : Lexer} (bounded : lexer.position.Bounded) :
    ∀ place ∈ lexer.run.places, place.Bounded := by
  induction lexer using Lexer.induction with
  | last lexer last =>
      rw [(run_of_last last).1]
      rcases Trivia.skip_walk .plain lexer.rest lexer.position false with ⟨skipped, _, gap⟩
      refine List.forall_mem_singleton.mpr ?_
      rw [Lexer.gap, gap]
      exact bounded.walk skipped
  | step lexer after token found more induction =>
      rcases Trivia.skip_walk .plain lexer.rest lexer.position false with ⟨skipped, _, gap⟩
      have start : lexer.gap.position.Bounded := by
        rw [Lexer.gap, gap]
        exact bounded.walk skipped
      rw [places_of_token found more]
      rcases next_eq_ok found more with ⟨first, rest, scanned, _, scans, rfl, rfl⟩
      exact List.forall_mem_cons.mpr ⟨start, induction (start.scan scans)⟩

theorem lex_bounded (keywords : KeywordSet) (source : String) :
    ∀ place ∈ (lex keywords source).places, place.Bounded := by
  rcases Lexer.ofSource_placed keywords source with ⟨read, placed⟩
  have start : (Position.origin.walk read).Bounded := by
    have origin : Position.origin.Bounded := ⟨Nat.le_refl 1, Nat.le_refl 1⟩
    exact origin.walk read
  exact Lexer.run_bounded (placed.behind.same rfl ▸ start)

theorem lexRecorded_eq (keywords : KeywordSet) {source : String}
    (small : source.utf8ByteSize + 1 < Numeral.bound32) :
    lexRecorded keywords source = lex keywords source := by
  rcases Lexer.ofSource_stands keywords source with ⟨opening, stands⟩
  have tiles : Tiles source 0 (lex keywords source).tokens (lex keywords source).ending :=
    Lexer.run_tiles _ source [] opening stands
  have bounded := lex_bounded keywords source
  rw [Lexed.places, List.forall_mem_append, List.forall_mem_map, List.forall_mem_singleton]
    at bounded
  have whole {token : Token} (place : token.position.Bounded)
      (covers : token.span.slice? source = some token.text) : token.low32 = token := by
    rcases Span.bounds_of_slice? covers with ⟨ordered, within⟩
    have start : token.position.offset ≤ source.utf8ByteSize := Nat.le_trans ordered within
    have stop : low32 token.stop = token.stop :=
      low32_of_lt (Nat.lt_of_le_of_lt within (Nat.lt_of_succ_lt small))
    rw [Token.low32, place.low32_eq start small, stop]
  refine Lexed.eq_of ?_ ?_
  · refine (List.map_congr_left fun token member => ?_).trans (List.map_id _)
    exact whole (bounded.1 token member) (tiles.slice_of_mem member)
  · change (lex keywords source).ending.low32 = _
    cases ending : (lex keywords source).ending with
    | endOfFile token =>
        have place := bounded.2
        rw [ending] at place
        exact congrArg Ending.endOfFile (whole place (tiles.slice_of_end ending))
    | failure error =>
        have place : error.position.Bounded := by
          have last := bounded.2
          rw [ending] at last
          exact last
        rcases tiles.slice_of_failure ending with ⟨char, _, covers⟩
        rcases Span.bounds_of_slice? covers with ⟨ordered, within⟩
        have start : error.position.offset ≤ source.utf8ByteSize := Nat.le_trans ordered within
        rw [Ending.low32, LexicalError.low32, place.low32_eq start small]

end TypedScript
