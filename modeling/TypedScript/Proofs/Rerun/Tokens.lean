import TypedScript.Proofs.Rerun.Basic
import TypedScript.Proofs.TwoRuns.Tokens

/-!
The parsers of single tokens, of names, of brackets and of repetitions, in both runs.
-/

namespace TypedScript

namespace Rerun

open Parse

variable {rerun : Rerun} {α β γ δ : Type} {places : Cursor → Cursor → Prop}
  {values : α → β → Prop} {expected : List Punctuator} {left right : Cursor} {token : Token}

/-! Looking ahead. -/

theorem isMark_end (isEnd : token.kind = .endOfFile) (mark : Punctuator) :
    token.isMark mark = false := by
  simp [Token.isMark, isEnd]

theorem isMark_closer {mark : Punctuator} (isCloser : token.kind = .punctuator .closeParen)
    (other : mark ≠ .closeParen) : token.isMark mark = false := by
  simp [Token.isMark, isCloser, other.symm]

theorem ne_closeParen {mark : Punctuator}
    (plain : (TokenKind.punctuator mark).isBracket = false) : mark ≠ .closeParen := by
  rintro rfl
  cases plain

theorem current_inside (same : left.peek 0 = right.peek 0) {next : Token → Parse α}
    {otherNext : Token → Parse β}
    (step : ∀ token, left.peek 0 = .ok token → right.peek 0 = .ok token →
      rerun.Outcome places values (next token left) (otherNext token right)) :
    rerun.Outcome places values ((current >>= next) left) ((current >>= otherNext) right) := by
  simp only [current, Bind.bind, EStateM.bind, peek, ← same]
  cases seen : left.peek 0 with
  | ok token => exact step token seen (same ▸ seen)
  | error error => exact .stopped .lexical

theorem current_over (ended : Over left right) {next : Token → Parse α}
    {otherNext : Token → Parse β}
    (step : ∀ last closer, last.kind = .endOfFile → closer.kind = .punctuator .closeParen →
      rerun.Outcome places values (next last left) (otherNext closer right)) :
    rerun.Outcome places values ((current >>= next) left) ((current >>= otherNext) right) := by
  rcases ended with ⟨⟨last, seen, isEnd⟩, closer, otherSeen, isCloser⟩
  simp only [current, Bind.bind, EStateM.bind, peek, seen, otherSeen]
  exact step last closer isEnd isCloser

theorem current_outcome (related : rerun.Related expected left right) {next : Token → Parse α}
    {otherNext : Token → Parse β}
    (inside : ∀ token, left.peek 0 = .ok token → right.peek 0 = .ok token →
      rerun.Outcome places values (next token left) (otherNext token right))
    (ended : Over left right → ∀ last closer, last.kind = .endOfFile →
      closer.kind = .punctuator .closeParen →
      rerun.Outcome places values (next last left) (otherNext closer right)) :
    rerun.Outcome places values ((current >>= next) left) ((current >>= otherNext) right) := by
  rcases related.cases with same | isOver
  · exact current_inside same inside
  · exact current_over isOver (ended isOver)

theorem peek_outcome (count : Nat)
    (related : rerun.Related expected (left.skip count) (right.skip count))
    {next : Token → Parse α} {otherNext : Token → Parse β}
    (inside : ∀ token, (left.skip count).peek 0 = .ok token →
      (right.skip count).peek 0 = .ok token →
      rerun.Outcome places values (next token left) (otherNext token right))
    (ended : ∀ last closer, last.kind = .endOfFile → closer.kind = .punctuator .closeParen →
      rerun.Outcome places values (next last left) (otherNext closer right)) :
    rerun.Outcome places values ((peek count >>= next) left)
      ((peek count >>= otherNext) right) := by
  have leftPeek : left.peek count = (left.skip count).peek 0 := (left.skip_peek count 0).symm
  have rightPeek : right.peek count = (right.skip count).peek 0 := (right.skip_peek count 0).symm
  simp only [Bind.bind, EStateM.bind, peek, leftPeek, rightPeek]
  rcases related.cases with same | ⟨⟨last, seen, isEnd⟩, closer, otherSeen, isCloser⟩
  · cases seen : (left.skip count).peek 0 with
    | ok token =>
        rw [← same, seen]
        exact inside token seen (same ▸ seen)
    | error error =>
        rw [← same, seen]
        exact .stopped .lexical
  · rw [seen, otherSeen]
    exact ended last closer isEnd isCloser

theorem kindAhead_outcome (count : Nat)
    (related : rerun.Related expected (left.skip count) (right.skip count))
    {next : TokenKind → Parse α} {otherNext : TokenKind → Parse β}
    (inside : ∀ token, (left.skip count).peek 0 = .ok token →
      (right.skip count).peek 0 = .ok token →
      rerun.Outcome places values (next token.kind left) (otherNext token.kind right))
    (ended : rerun.Outcome places values (next .endOfFile left)
      (otherNext (.punctuator .closeParen) right)) :
    rerun.Outcome places values ((kindAhead count >>= next) left)
      ((kindAhead count >>= otherNext) right) := by
  rw [kindAhead, bind_assoc, bind_assoc]
  apply peek_outcome count related
  · intro token seen otherSeen
    rw [pure_bind, pure_bind]
    exact inside token seen otherSeen
  · intro last closer isEnd isCloser
    rw [pure_bind, pure_bind, isEnd, isCloser]
    exact ended

theorem kindAhead_within (count : Nat) {closing : Punctuator}
    (related : rerun.Related (closing :: expected) (left.skip count) (right.skip count))
    {next : TokenKind → Parse α} {otherNext : TokenKind → Parse β}
    (inside : ∀ token, (left.skip count).peek 0 = .ok token →
      (right.skip count).peek 0 = .ok token →
      rerun.Outcome places values (next token.kind left) (otherNext token.kind right)) :
    rerun.Outcome places values ((kindAhead count >>= next) left)
      ((kindAhead count >>= otherNext) right) := by
  have leftPeek : left.peek count = (left.skip count).peek 0 := (left.skip_peek count 0).symm
  have rightPeek : right.peek count = (right.skip count).peek 0 := (right.skip_peek count 0).symm
  rw [kindAhead, bind_assoc, bind_assoc]
  simp only [Bind.bind, EStateM.bind, peek, leftPeek, rightPeek, ← related.inside]
  cases seen : (left.skip count).peek 0 with
  | ok token => exact inside token seen (related.inside.symm.trans seen)
  | error error => exact .stopped .lexical

theorem FailsOver.current {next : Token → Parse α} {otherNext : Token → Parse β}
    (step : ∀ last closer, last.kind = .endOfFile → closer.kind = .punctuator .closeParen →
      rerun.FailsOver (next last) (otherNext closer)) :
    rerun.FailsOver (current >>= next) (current >>= otherNext) := by
  intro left right ended
  exact current_over ended fun last closer isEnd isCloser => step last closer isEnd isCloser ended

theorem FailsOver.currentStart {next : Nat → Parse α} {otherNext : Nat → Parse β}
    (step : ∀ start otherStart, rerun.FailsOver (next start) (otherNext otherStart)) :
    rerun.FailsOver (currentStart >>= next) (currentStart >>= otherNext) := by
  rw [Parse.currentStart, bind_assoc, bind_assoc]
  apply FailsOver.current
  intro last closer _ _
  rw [pure_bind, pure_bind]
  exact step _ _

theorem Begins.start {next otherNext : Nat → Parse α}
    (ended : ∀ start otherStart, rerun.FailsOver (next start) (otherNext otherStart))
    (alike : ∀ start, rerun.Alike (next start) (otherNext start)) :
    rerun.Begins (currentStart >>= next) (currentStart >>= otherNext) := by
  refine ⟨fun expected left right related => ?_, .currentStart ended⟩
  rcases related.cases with same | isOver
  · rw [currentStart, bind_assoc, bind_assoc]
    apply current_inside same
    intro token _ _
    rw [pure_bind, pure_bind]
    exact alike _ _ related
  · exact (FailsOver.currentStart ended isOver).ofNothing

theorem Begins.current {next otherNext : Token → Parse α}
    (ended : ∀ last closer, last.kind = .endOfFile → closer.kind = .punctuator .closeParen →
      rerun.FailsOver (next last) (otherNext closer))
    (inside : ∀ expected left right token, rerun.Related expected left right →
      left.peek 0 = .ok token → right.peek 0 = .ok token →
      rerun.Outcome (rerun.Related expected) Eq (next token left) (otherNext token right)) :
    rerun.Begins (current >>= next) (current >>= otherNext) := by
  refine ⟨fun expected left right related => ?_, .current ended⟩
  rcases related.cases with same | isOver
  · exact current_inside same fun token seen otherSeen =>
      inside expected left right token related seen otherSeen
  · exact (FailsOver.current ended isOver).ofNothing

theorem atMark_alike {mark : Punctuator} (other : mark ≠ .closeParen) :
    rerun.Alike (atMark mark) (atMark mark) := by
  intro expected left right related
  apply current_outcome related
  · intro token _ _
    exact .ok rfl related
  · intro _ last closer isEnd isCloser
    rw [isMark_end isEnd, isMark_closer isCloser other]
    exact .ok rfl related

theorem atMark_within {closing mark : Punctuator} :
    rerun.AlikeAt (closing :: expected) (atMark mark) (atMark mark) := by
  intro left right related
  apply current_inside related.inside
  intro token _ _
  exact .ok rfl related

theorem atWord_alike (word : String) : rerun.Alike (atWord word) (atWord word) := by
  intro expected left right related
  apply current_outcome related
  · intro token _ _
    exact .ok rfl related
  · intro _ last closer isEnd isCloser
    simp only [Token.isWord, isEnd, isCloser]
    exact .ok rfl related

theorem get_bind {next : Cursor → Parse α} {otherNext : Cursor → Parse β}
    (step : rerun.Outcome places values (next left left) (otherNext right right)) :
    rerun.Outcome places values ((get >>= next) left) ((get >>= otherNext) right) :=
  step

/-! Failing. -/

theorem failAt_outcome (related : rerun.Related expected left right)
    {fault otherFault : GrammarFault}
    {wanted otherWanted : Expected}
    (passes : ∀ found, (SyntaxError.grammar ⟨fault, wanted, found⟩).isFinal = false)
    (otherPasses : ∀ found,
      (SyntaxError.grammar ⟨otherFault, otherWanted, found⟩).isFinal = false) :
    rerun.Outcome places values (failAt fault wanted left)
      (failAt otherFault otherWanted right) := by
  unfold failAt
  apply current_outcome related
  · intro token _ _
    exact .failed (passes _) (otherPasses _)
  · intro _ last closer _ _
    exact .failed (passes _) (otherPasses _)

theorem failAt_over {fault otherFault : GrammarFault} {wanted otherWanted : Expected}
    (passes : ∀ found, (SyntaxError.grammar ⟨fault, wanted, found⟩).isFinal = false)
    (otherPasses : ∀ found,
      (SyntaxError.grammar ⟨otherFault, otherWanted, found⟩).isFinal = false) :
    rerun.FailsOver (failAt fault wanted : Parse α) (failAt otherFault otherWanted : Parse β) := by
  intro left right ended
  unfold failAt
  apply current_over ended
  intro last closer _ _
  exact .failed (passes _) (otherPasses _)

theorem unexpected_outcome (related : rerun.Related expected left right)
    (wanted otherWanted : Expected) :
    rerun.Outcome places values (unexpected wanted left) (unexpected otherWanted right) := by
  apply current_outcome related
  · intro token _ _
    split <;> exact failAt_outcome related (fun _ => rfl) (fun _ => rfl)
  · intro ended last closer isEnd isCloser
    rw [if_pos isEnd, if_neg (by simp [isCloser])]
    exact failAt_outcome related (fun _ => rfl) (fun _ => rfl)

theorem unexpected_over (wanted otherWanted : Expected) :
    rerun.FailsOver (unexpected wanted : Parse α) (unexpected otherWanted : Parse β) := by
  apply FailsOver.current
  intro last closer isEnd isCloser
  rw [if_pos isEnd, if_neg (by simp [isCloser])]
  exact failAt_over (fun _ => rfl) (fun _ => rfl)

theorem unexpected_alike (wanted : Expected) :
    rerun.Alike (unexpected wanted : Parse α) (unexpected wanted) := by
  intro expected left right related
  exact unexpected_outcome related wanted wanted

theorem identifierExpected_alike :
    rerun.Alike (identifierExpected : Parse α) identifierExpected := by
  intro expected left right related
  apply current_outcome related
  · intro token _ _
    split <;> exact failAt_outcome related (fun _ => rfl) (fun _ => rfl)
  · intro ended last closer isEnd isCloser
    rw [if_pos isEnd, if_neg (by simp [isCloser])]
    exact failAt_outcome related (fun _ => rfl) (fun _ => rfl)

theorem identifierExpected_over :
    rerun.FailsOver (identifierExpected : Parse α) (identifierExpected : Parse β) := by
  apply FailsOver.current
  intro last closer isEnd isCloser
  rw [if_pos isEnd, if_neg (by simp [isCloser])]
  exact failAt_over (fun _ => rfl) (fun _ => rfl)

theorem typeExpected_alike : rerun.Alike (typeExpected : Parse α) typeExpected := by
  intro expected left right related
  exact failAt_outcome related (fun _ => rfl) (fun _ => rfl)

theorem typeExpected_over :
    rerun.FailsOver (typeExpected : Parse α) (typeExpected : Parse β) :=
  failAt_over (fun _ => rfl) (fun _ => rfl)

/-! Taking tokens. -/

theorem take_eq (seen : left.peek 0 = .ok token) : take left = .ok token left.next := by
  simp only [take, current, Bind.bind, EStateM.bind, peek, seen]
  rfl

theorem take_bind (seen : left.peek 0 = .ok token) (next : Token → Parse α) :
    (take >>= next) left = next token left.next := by
  simp only [Bind.bind, EStateM.bind, take_eq seen]

theorem accept_alike {mark : Punctuator} (plain : (TokenKind.punctuator mark).isBracket = false) :
    rerun.Alike (accept mark) (accept mark) := by
  intro expected left right related
  rw [accept, atMark, bind_assoc]
  apply current_outcome related
  · intro token seen otherSeen
    rw [pure_bind]
    split
    · next isMark =>
        have kind := Token.isMark_iff.mp isMark
        rw [take_bind seen, take_bind otherSeen]
        exact .ok rfl (related.next seen otherSeen (kind ▸ plain))
    · exact .ok rfl related
  · intro _ last closer isEnd isCloser
    rw [pure_bind, pure_bind, isMark_end isEnd, isMark_closer isCloser (ne_closeParen plain)]
    exact .ok rfl related

theorem FailsOver.accept {mark : Punctuator}
    (plain : (TokenKind.punctuator mark).isBracket = false) {next : Bool → Parse α}
    {otherNext : Bool → Parse β} (fails : rerun.FailsOver (next false) (otherNext false)) :
    rerun.FailsOver (accept mark >>= next) (accept mark >>= otherNext) := by
  simp only [Parse.accept, atMark, bind_assoc]
  apply FailsOver.current
  intro last closer isEnd isCloser
  rw [pure_bind, pure_bind, isMark_end isEnd, isMark_closer isCloser (ne_closeParen plain)]
  exact fails

theorem acceptWord_alike (word : String) :
    rerun.Alike (acceptWord word) (acceptWord word) := by
  intro expected left right related
  rw [acceptWord, atWord, bind_assoc]
  apply current_outcome related
  · intro token seen otherSeen
    rw [pure_bind]
    split
    · next isWord =>
        have plain : token.kind.isBracket = false := by
          simp only [Token.isWord, Bool.and_eq_true, beq_iff_eq] at isWord
          rw [isWord.1]
          rfl
        rw [take_bind seen, take_bind otherSeen]
        exact .ok rfl (related.next seen otherSeen plain)
    · exact .ok rfl related
  · intro _ last closer isEnd isCloser
    simp only [Token.isWord, isEnd, isCloser]
    exact .ok rfl related

theorem expectKind_begins {kind : TokenKind} (plain : kind.isBracket = false)
    (more : kind ≠ .endOfFile) : rerun.Begins (expectKind kind) (expectKind kind) := by
  apply Begins.current
  · intro last closer isEnd isCloser
    have different : closer.kind ≠ kind := by
      rintro rfl
      rw [isCloser] at plain
      cases plain
    rw [if_neg (by rw [isEnd]; exact more.symm), if_neg different]
    exact unexpected_over _ _
  · intro expected left right token related seen otherSeen
    split
    · next isKind =>
        rw [take_eq seen, take_eq otherSeen]
        exact .ok rfl (related.next seen otherSeen (isKind ▸ plain))
    · exact unexpected_alike _ _ related

theorem expect_begins {mark : Punctuator} (plain : (TokenKind.punctuator mark).isBracket = false) :
    rerun.Begins (expect mark) (expect mark) :=
  expectKind_begins plain nofun

theorem expectKeyword_begins (word : Keyword) :
    rerun.Begins (expectKeyword word) (expectKeyword word) :=
  expectKind_begins rfl nofun

theorem spanFrom_alike (start : Nat) : rerun.Alike (spanFrom start) (spanFrom start) := by
  intro expected left right related
  have same : (⟨start, max left.lastStop start⟩ : Span) = ⟨start, max right.lastStop start⟩ := by
    rw [related.lastStop]
  exact .ok same related

/-! Brackets. -/

section Brackets

variable {opening closing : Punctuator}

theorem expect_open (opens : (TokenKind.punctuator opening).closing? = some closing)
    (related : rerun.Related expected left right) :
    rerun.Outcome (rerun.Related (closing :: expected)) Eq (expect opening left)
      (expect opening right) := by
  have other : opening ≠ .closeParen := by
    rintro rfl
    cases opens
  apply current_outcome related
  · intro token seen otherSeen
    split
    · next isKind =>
        rw [take_eq seen, take_eq otherSeen]
        exact .ok rfl (related.next_open seen otherSeen (isKind ▸ opens))
    · exact unexpected_outcome related _ _
  · intro _ last closer isEnd isCloser
    rw [if_neg (by simp [isEnd]), if_neg (by simp [isCloser, other.symm])]
    exact unexpected_outcome related _ _

theorem expect_over (other : opening ≠ .closeParen) :
    rerun.FailsOver (expect opening) (expect opening) := by
  apply FailsOver.current
  intro last closer isEnd isCloser
  rw [if_neg (by simp [isEnd]), if_neg (by simp [isCloser, other.symm])]
  exact unexpected_over _ _

theorem expect_close (closes : (TokenKind.punctuator closing).isClosing = true)
    (fits : rerun.Fits expected) (related : rerun.Related (closing :: expected) left right) :
    rerun.Outcome (rerun.Related expected) Eq (expect closing left) (expect closing right) := by
  apply current_inside related.inside
  intro token seen otherSeen
  split
  · next isKind =>
      rw [take_eq seen, take_eq otherSeen]
      exact .ok rfl (related.next_close seen otherSeen (isKind ▸ closes) fits)
  · exact unexpected_outcome related _ _

theorem bracketed_begins (opens : (TokenKind.punctuator opening).closing? = some closing)
    {inner otherInner : Parse α} {next otherNext : α → Parse β}
    (same : ∀ expected, rerun.AlikeAt (closing :: expected) inner otherInner)
    (goesOn : ∀ value, rerun.Alike (next value) (otherNext value)) :
    rerun.Begins
      (do let _ ← expect opening; let value ← inner; let _ ← expect closing; next value)
      (do let _ ← expect opening; let value ← otherInner; let _ ← expect closing
          otherNext value) := by
  have closes : (TokenKind.punctuator closing).isClosing = true := by
    rcases TokenKind.closing?_cases opens with ⟨_, rfl⟩ | ⟨_, rfl⟩ | ⟨_, rfl⟩ <;> rfl
  have other : opening ≠ .closeParen := by
    rintro rfl
    cases opens
  refine ⟨fun expected left right related => ?_, (expect_over other).bind _ _⟩
  apply (expect_open opens related).bind
  intro _ _ _ _ _ opened
  apply (same expected opened).bind
  rintro value _ _ _ rfl reached
  apply (expect_close closes related.fits reached).bind
  intro _ _ _ _ _ closed
  exact goesOn value expected closed

end Brackets

/-! Something that may be missing. -/

section Optional

variable {first second : Parse α}

theorem afterMark_alike {mark : Punctuator}
    (plain : (TokenKind.punctuator mark).isBracket = false) (item : rerun.Alike first second) :
    rerun.Alike (afterMark mark first) (afterMark mark second) := by
  intro expected
  apply (accept_alike plain expected).bind
  intro found
  exact .branch ((item expected).map _) (.pure _)

theorem afterWord_alike (word : String) (item : rerun.Alike first second) :
    rerun.Alike (afterWord word first) (afterWord word second) := by
  intro expected
  apply (acceptWord_alike word expected).bind
  intro found
  exact .branch ((item expected).map _) (.pure _)

end Optional

/-! Repetition. -/

section Repetition

theorem repeated_alike {first second : Parse (Turn α)}
    (turn : rerun.AlikeAt expected first second) :
    rerun.AlikeAt expected (repeated first) (repeated second) := by
  intro left right related
  -- Every further turn begins with fewer tokens ahead.
  induction size : left.ahead.length using Nat.strongRecOn generalizing left right with
  | ind length induction =>
      rw [TwoRuns.repeated_eq, TwoRuns.repeated_eq]
      apply (turn related).bind
      rintro turned _ after otherAfter rfl later
      cases turned with
      | stop => exact .ok rfl later
      | last => exact .ok rfl later
      | more item =>
          dsimp only
          simp only [← related.shorter_iff later]
          split
          · next shorter =>
              apply (induction _ (size ▸ shorter) later rfl).bind
              rintro items _ last otherLast rfl lastRelated
              exact .ok rfl lastRelated
          · exact .ok rfl later

theorem commaTurn_alike (item : α) : rerun.Alike (commaTurn item) (commaTurn item) := by
  intro expected
  apply (accept_alike rfl expected).bind
  intro found
  exact .branch (.pure _) (.pure _)

theorem commaList_alike {first second : Parse α} {closing : Punctuator} (mark : Punctuator)
    (item : rerun.Alike first second) :
    rerun.AlikeAt (closing :: expected) (commaList mark first) (commaList mark second) := by
  apply repeated_alike
  apply atMark_within.bind
  intro found
  apply AlikeAt.branch
  · exact .pure _
  · exact (item _).bind fun value => commaTurn_alike value _

end Repetition

/-! Trial. -/

theorem speculate_alike {isFinal : SyntaxError → Bool}
    (lenient : ∀ error, isFinal error = true → error.isFinal = true)
    {first second : Parse (Option α)}
    (attempt : rerun.Related expected left right →
      rerun.Outcome (rerun.Related expected) Eq (first left) (second right))
    (related : rerun.Related expected left right) :
    rerun.Outcome (rerun.Related expected) Eq (speculate isFinal first left)
      (speculate SyntaxError.isFinal second right) := by
  have tried := attempt related
  unfold speculate
  revert tried
  generalize first left = firstResult
  generalize second right = secondResult
  intro tried
  cases tried with
  | @ok found _ _ _ same later =>
      subst same
      cases found with
      | none => exact .ok rfl related
      | some value => exact .ok rfl later
  | @failed error other _ _ passes otherPasses =>
      have taken : isFinal error = false := by
        cases stands : isFinal error with
        | false => rfl
        | true => exact (lenient error stands).symm.trans passes
      simp only [taken, otherPasses, Bool.false_eq_true, if_false]
      exact .ok rfl related
  | stopped stops =>
      simp only [stops.isFinal, if_true]
      exact .stopped stops

/-! Names and literals. -/

theorem identifier_begins : rerun.Begins identifier identifier := by
  apply Begins.current
  · intro last closer isEnd isCloser
    rw [if_neg (by simp [isEnd]), if_neg (by simp [isCloser])]
    exact identifierExpected_over
  · intro expected left right token related seen otherSeen
    split
    · next isName =>
        have plain : token.kind.isBracket = false := by rw [isName]; rfl
        rw [take_bind seen, take_bind otherSeen]
        exact .ok rfl (related.next seen otherSeen plain)
    · exact identifierExpected_alike _ related

theorem isBracket_of_isName {kind : TokenKind} (isName : kind.isName = true) :
    kind.isBracket = false := by
  cases kind with
  | identifier => rfl
  | keyword => rfl
  | _ => cases isName

theorem identifierName_begins : rerun.Begins identifierName identifierName := by
  apply Begins.current
  · intro last closer isEnd isCloser
    rw [if_neg (by simp [isEnd, TokenKind.isName]), if_neg (by simp [isCloser, TokenKind.isName])]
    exact identifierExpected_over
  · intro expected left right token related seen otherSeen
    split
    · next isName =>
        rw [take_bind seen, take_bind otherSeen]
        exact .ok rfl (related.next seen otherSeen (isBracket_of_isName isName))
    · exact identifierExpected_alike _ related

/-! Bodies. -/

/-- Both runs pass as many tokens of the part, up to a place where as many brackets are open. -/
theorem Within.skip {later : List Punctuator} (within : rerun.Within expected left right)
    {count : Nat} (enough : count ≤ left.ahead.length)
    (balance : balances later (left.ahead.drop count) = true) :
    rerun.Within later (left.skip count) (right.skip count) := by
  have otherEnough : count ≤ right.ahead.length := by
    rw [within.ahead, List.length_append]
    omega
  refine ⟨within.more, ?_, ?_, ?_, ?_⟩
  · rw [Cursor.skip_ahead, Cursor.skip_ahead, within.ahead, List.drop_append_of_le_length enough]
  · rw [(left.skip_takes enough).lastStop, (right.skip_takes otherEnough).lastStop,
      within.lastStop, within.ahead, List.take_append_of_le_length enough]
  · rw [Cursor.skip_ending]
    exact within.ending
  · rw [Cursor.skip_ahead]
    exact balance

theorem functionBody_begins : rerun.Begins functionBody functionBody := by
  refine .start (fun _ _ => (expect_over (by decide)).bind _ _) fun start => ?_
  intro expected left right related
  apply (expect_open rfl related).bind
  intro _ _ between otherBetween _ opened
  have closed (count : Nat) {after otherAfter : Cursor}
      (reached : rerun.Related (.closeBrace :: expected) after otherAfter) :
      rerun.Outcome (rerun.Related expected) Eq
        ((do let _ ← expect .closeBrace; return ⟨← spanFrom start, count⟩ : Parse FunctionBody)
          after)
        ((do let _ ← expect .closeBrace; return ⟨← spanFrom start, count⟩ : Parse FunctionBody)
          otherAfter) := by
    apply (expect_close rfl related.fits reached).bind
    intro _ _ _ _ _ later
    exact ((spanFrom_alike start expected).bind fun span => .pure _) later
  rcases opened.places with ⟨alone, rfl⟩ | within
  · apply get_bind
    cases bodyLength? 0 between.ahead with
    | some count => exact closed count (.of_eq alone _)
    | none =>
        have again (cursor : Cursor) : rerun.Related expected cursor cursor := .of_eq alone cursor
        exact unexpected_outcome (again _) _ _
  · rcases exists_body [] within.balance with
      ⟨body, closing, after, split, kind, balance, found⟩
    have leftFound : bodyLength? 0 between.ahead = some body.length := by
      simpa using found []
    have rightFound : bodyLength? 0 otherBetween.ahead = some body.length := by
      rw [within.ahead]
      exact found rerun.tail
    apply get_bind
    rw [leftFound, rightFound]
    have closes : closing.kind.isClosing = true := by rw [kind]; rfl
    refine closed body.length ⟨.inside, .inr (within.skip ?_ ?_)⟩
    · simp [split]
    · rw [split, List.drop_left]
      exact (balances_close closes).mpr ⟨_, _, rfl, kind, balance⟩

end Rerun

end TypedScript
