import TypedScript.Proofs.Lexing.Joining
import TypedScript.Proofs.Lexing.Writing

/-!
Texts in parentheses. Main statement: between the parentheses stand the tokens of the text by
itself, moved, and what comes after the parentheses does not matter to them. The text may not end in
a comment that would take in the closing parenthesis.
-/

namespace TypedScript

/-- What stands after the last token of the text is white space: there is no comment. -/
def EndsWithoutComment (keywords : KeywordSet) (source : String) : Prop :=
  ∀ trail, Span.dropBytes (stopAfter 0 (lex keywords source).tokens) source.toList = some trail →
    ∀ char ∈ trail, isBlank char = true ∨ isLineTerminator char = true

namespace Trivia

/-- White space stands alone, unless it is one line terminator with what comes next. -/
theorem skip_white_next {char first : Char} {rest : List Char}
    (white : isBlank char = true ∨ isLineTerminator char = true) (solid : Solid first)
    (noBreak : ∀ later, char = '\r' → rest = '\n' :: later → False) (more : List Char)
    (here : Position) (broke : Bool) :
    skip .plain (char :: (rest ++ first :: more)) here broke =
      if isLineTerminator char then
        skip .plain (rest ++ first :: more) (here.newLine char.utf8Size) true
      else if isBlank char then
        skip .plain (rest ++ first :: more) (here.step char) broke
      else
        ⟨char :: (rest ++ first :: more), here, broke⟩ := by
  have noSlash : char ≠ '/' := by
    rintro rfl
    exact absurd white (by decide)
  refine skip.eq_6 .plain here broke char (rest ++ first :: more) ?_ ?_ ?_ ?_
  · intro later isReturn isFeed
    cases rest with
    | nil =>
        cases isFeed
        exact absurd solid.sameLine (by decide)
    | cons next rest =>
        cases isFeed
        exact noBreak rest isReturn rfl
  · exact fun _ _ slash _ => noSlash slash
  · exact fun _ _ slash _ => noSlash slash
  · exact fun _ impossible => by cases impossible

theorem skip_white {first : Char} (solid : Solid first) {mode : Mode} {chars : List Char}
    (here : Position) (broke : Bool) (plain : mode = .plain)
    (white : ∀ char ∈ chars, isBlank char = true ∨ isLineTerminator char = true) :
    ∃ there broken, ∀ more,
      skip mode (chars ++ first :: more) here broke = ⟨first :: more, there, broken⟩ := by
  have noSlash : ¬(isBlank '/' = true ∨ isLineTerminator '/' = true) := by decide
  fun_induction skip mode chars here broke with
  | case1 mode here broke =>
      subst plain
      exact ⟨here, broke, fun more => skip_solid solid more here broke⟩
  | case2 mode rest here broke induction =>
      subst plain
      rcases induction rfl fun char member => white char (by simp [member]) with
        ⟨there, broken, skips⟩
      refine ⟨there, broken, fun more => ?_⟩
      simp only [List.cons_append, skip]
      exact skips more
  | case3 => exact absurd (white '/' (by simp)) noSlash
  | case4 => exact absurd (white '/' (by simp)) noSlash
  | case5 => cases plain
  | case6 mode char rest here broke noBreak noLine noBlock noClose terminates induction =>
      subst plain
      rcases induction rfl fun char member => white char (List.mem_cons_of_mem _ member) with
        ⟨there, broken, skips⟩
      refine ⟨there, broken, fun more => ?_⟩
      rw [List.cons_append, skip_white_next (white char (by simp)) solid noBreak,
        if_pos terminates]
      exact skips more
  | case7 mode char rest here broke noBreak noLine noBlock noClose goesOn skipped induction =>
      subst plain
      rcases induction rfl fun char member => white char (List.mem_cons_of_mem _ member) with
        ⟨there, broken, skips⟩
      refine ⟨there, broken, fun more => ?_⟩
      rw [List.cons_append, skip_white_next (white char (by simp)) solid noBreak,
        if_neg goesOn, if_pos (by simpa using skipped)]
      exact skips more
  | case8 mode char rest here broke noBreak noLine noBlock noClose goesOn stands =>
      subst plain
      rcases white char (by simp) with blank | terminates
      · exact absurd (by simp [blank]) stands
      · exact absurd terminates goesOn

end Trivia

/-! Where the last token ends. -/

theorem stopAfter_eq_getLast? (stop : Nat) (tokens : List Token) :
    stopAfter stop tokens = (tokens.getLast?.map (·.stop)).getD stop := by
  induction tokens generalizing stop with
  | nil => rfl
  | cons token tokens induction =>
      rw [stopAfter_cons, induction, List.getLast?_cons]
      cases tokens.getLast? with
      | none => rfl
      | some last => rfl

theorem GoOnAlike.endOfFile {offsets : Nat → Nat → Prop} {cut : Prop} {tokens others : List Token}
    {ending otherEnding : Ending} {last : Token}
    (alike : GoOnAlike offsets cut tokens ending others otherEnding)
    (ended : ending = .endOfFile last) : ∃ otherLast, otherEnding = .endOfFile otherLast := by
  induction alike with
  | ending endings =>
      cases endings with
      | endOfFile => exact ⟨_, rfl⟩
      | failure => cases ended
  | brokenOff => cases ended
  | token _ _ induction => exact induction ended

theorem GoOnAlike.stopAfter {amount : Nat} {cut : Prop} {tokens others : List Token}
    {ending otherEnding : Ending}
    (alike : GoOnAlike (Later amount) cut tokens ending others otherEnding) (finished : ¬cut)
    {stop other : Nat} (later : Later amount stop other) :
    Later amount (stopAfter stop tokens) (stopAfter other others) := by
  induction alike generalizing stop other with
  | ending => exact later
  | brokenOff impossible => exact absurd impossible finished
  | token first _ induction => exact induction first.stop

namespace Lexer

variable {keywords : KeywordSet} {source : String} {last : Token}

theorem run_moved (keywords : KeywordSet) (noLine : ¬['#', '!'] <+: source.toList)
    (here : Position) :
    GoOnAlike (Later here.offset) False (lex keywords source).tokens (lex keywords source).ending
      (mk keywords source.toList here).run.tokens (mk keywords source.toList here).run.ending := by
  rw [lex, ofSource_plain keywords noLine]
  exact run_later _ _ _ _ rfl rfl (Nat.zero_add _).symm

theorem run_closed (noLine : ¬['#', '!'] <+: source.toList)
    (ended : (lex keywords source).ending = .endOfFile last)
    (clear : EndsWithoutComment keywords source) (here : Position) :
    ∃ closing there, closing.kind = .punctuator .closeParen ∧
      closing.stop = here.offset + source.utf8ByteSize + 1 ∧
      there.offset = here.offset + source.utf8ByteSize + 1 ∧ ∀ later,
        (mk keywords (source.toList ++ ')' :: later) here).run.tokens =
          (mk keywords source.toList here).run.tokens ++
            closing :: (mk keywords later there).run.tokens ∧
        (mk keywords (source.toList ++ ')' :: later) here).run.ending =
          (mk keywords later there).run.ending := by
  have moved := run_moved keywords noLine here
  rcases moved.endOfFile ended with ⟨_, endedHere⟩
  rcases run_joined .closeParen endedHere with
    ⟨before, trail, position, shape, offset, stop, _, joined⟩
  have shape : source.toList = before ++ trail := shape
  have offset : position.offset = here.offset + byteLength before := offset
  have stops : stopAfter 0 (lex keywords source).tokens = byteLength before := by
    have later := moved.stopAfter id (Nat.zero_add here.offset).symm
    rw [stopAfter_eq_getLast? here.offset, ← stop, offset, Later] at later
    omega
  have white := clear trail (by rw [stops, shape]; exact Span.dropBytes_append _ _)
  rcases Trivia.skip_white (by decide : Trivia.Solid ')') position false rfl white with
    ⟨place, broken, skips⟩
  have gap (later : List Char) :
      (mk keywords (trail ++ ')' :: later) position).gap = ⟨')' :: later, place, broken⟩ :=
    skips later
  have found (later : List Char) : (mk keywords (trail ++ ')' :: later) position).next =
      .ok (⟨.punctuator .closeParen, ")", place, place.offset + 1, broken, false⟩,
        ⟨keywords, later, place.step ')'⟩) := by
    rw [next_of_scan (congrArg _ (gap later)) rfl, gap later]
    rfl
  have reaches : place.offset = here.offset + source.utf8ByteSize := by
    have size := (mk keywords (trail ++ [')']) position).gap_offset
    rw [gap []] at size
    rw [← byteLength_toList, shape, byteLength_append]
    simp only [limit, byteLength_append] at size
    omega
  refine ⟨⟨.punctuator .closeParen, ")", place, place.offset + 1, broken, false⟩, place.step ')',
    rfl, congrArg (· + 1) reaches, congrArg (· + 1) reaches, fun later => ?_⟩
  rcases joined later with ⟨tokens, ending⟩
  rcases run_of_token (found later) (by simp) with ⟨others, otherEnding⟩
  exact ⟨tokens.trans (congrArg _ others), ending.trans otherEnding⟩

theorem run_opened (keywords : KeywordSet) (here : Position) :
    ∃ opening : Token, opening.kind = .punctuator .openParen ∧ opening.start = here.offset ∧
      opening.stop = here.offset + 1 ∧ ∀ chars,
        (mk keywords ('(' :: chars) here).run.tokens =
          opening :: (mk keywords chars (here.step '(')).run.tokens ∧
        (mk keywords ('(' :: chars) here).run.ending =
          (mk keywords chars (here.step '(')).run.ending := by
  refine ⟨⟨.punctuator .openParen, "(", here, here.offset + 1, false, false⟩, rfl, rfl, rfl,
    fun chars => run_of_token ?_ (by simp)⟩
  have gap : (mk keywords ('(' :: chars) here).gap = ⟨'(' :: chars, here, false⟩ :=
    Trivia.skip_solid (by decide) _ _ _
  rw [next_of_scan (congrArg _ gap) rfl, gap]
  rfl

end Lexer

end TypedScript
