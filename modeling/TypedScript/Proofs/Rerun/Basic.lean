import TypedScript.Proofs.Rerun.Brackets

/-!
A part of a text read twice: alone, and before a tail of other tokens. In the second run there may
be fewer levels of nesting left, and errors may stand there that are taken back in the first. Unless
the second run stops for one of these reasons it comes to the same as the first.

If there is a tail then brackets match in the part, and outside of all brackets a closing
parenthesis comes after it. So where the first run sees the end of the text the second one sees a
token that no rule can go on with either.
-/

namespace TypedScript

/-- A second run: what comes after the part that is read twice, and the nesting limit. -/
structure Rerun where
  tail : List Token
  limit : Nat

namespace Rerun

variable (rerun : Rerun) {α β γ δ : Type}

/-- Whether a part with these brackets open may stand before the tail. -/
def Fits (expected : List Punctuator) : Prop :=
  expected = [] → ∀ closer ∈ rerun.tail.head?, closer.kind = .punctuator .closeParen

/-- The two runs stand at the same place of the part, and the tail follows in the second. -/
structure Within (expected : List Punctuator) (left right : Cursor) : Prop where
  more : rerun.tail ≠ []
  ahead : right.ahead = left.ahead ++ rerun.tail
  lastStop : right.lastStop = left.lastStop
  ending : ∃ last, left.ending = .endOfFile last
  balance : balances expected left.ahead = true

/-- The two runs stand at the same place, within brackets that are to be closed by the ones
`expected`. Nothing is asked of the brackets if there is no tail. -/
structure Related (expected : List Punctuator) (left right : Cursor) : Prop where
  fits : rerun.Fits expected
  places : rerun.tail = [] ∧ left = right ∨ rerun.Within expected left right

/-- The part is over: the first run sees the end of the text, and the second a parenthesis. -/
structure Over (left right : Cursor) : Prop where
  ends : ∃ last, left.peek 0 = .ok last ∧ last.kind = .endOfFile
  closes : ∃ closer, right.peek 0 = .ok closer ∧ closer.kind = .punctuator .closeParen

inductive Stops : SyntaxError → Prop
  | lexical {error} : Stops (.lexical error)
  | refused {expected found} :
      Stops (.grammar ⟨.nestingLimitExceeded rerun.limit, expected, found⟩)

variable {rerun}

theorem Stops.isFinal {error : SyntaxError} (stops : rerun.Stops error) :
    error.isFinal = true := by
  cases stops with
  | lexical => rfl
  | refused => rfl

variable {expected outer : List Punctuator} {closing : Punctuator} {left right : Cursor}
  {token : Token}

theorem Fits.inside : rerun.Fits (closing :: outer) :=
  nofun

namespace Related

theorem of_eq (alone : rerun.tail = []) (cursor : Cursor) :
    rerun.Related expected cursor cursor :=
  ⟨fun _ closer member => by simp [alone] at member, .inl ⟨alone, rfl⟩⟩

theorem eq_of_alone (related : rerun.Related expected left right) (alone : rerun.tail = []) :
    left = right := by
  rcases related.places with ⟨_, same⟩ | within
  · exact same
  · exact absurd alone within.more

/-- The two runs see the same token, unless the part is over. -/
theorem cases (related : rerun.Related expected left right) :
    left.peek 0 = right.peek 0 ∨ Over left right := by
  rcases related.places with ⟨_, rfl⟩ | within
  · exact .inl rfl
  · cases ahead : left.ahead with
    | cons token rest =>
        have otherAhead : right.ahead = token :: (rest ++ rerun.tail) := by
          rw [within.ahead, ahead, List.cons_append]
        rw [Cursor.peek_of_ahead ahead, Cursor.peek_of_ahead otherAhead]
        exact .inl rfl
    | nil =>
        rcases within.ending with ⟨last, ending⟩
        cases tail : rerun.tail with
        | nil => exact absurd tail within.more
        | cons closer rest =>
            have otherAhead : right.ahead = closer :: rest := by
              rw [within.ahead, ahead, tail, List.nil_append]
            have balance := within.balance
            rw [ahead, balances_nil] at balance
            refine .inr ⟨⟨last, ?_, ?_⟩, closer, Cursor.peek_of_ahead otherAhead, ?_⟩
            · simp [Cursor.peek, ahead, ending]
            · have wellFormed := left.endingWellFormed
              rw [ending] at wellFormed
              exact wellFormed
            · exact related.fits balance closer (by simp [tail])

theorem inside (related : rerun.Related (closing :: outer) left right) :
    left.peek 0 = right.peek 0 := by
  rcases related.cases with same | ended
  · exact same
  · rcases related.places with ⟨_, rfl⟩ | within
    · rfl
    · rcases ended.ends with ⟨last, seen, isEnd⟩
      have balance := within.balance
      rw [(Cursor.ahead_of_end seen isEnd).1, balances_nil] at balance
      cases balance

theorem step {later : List Punctuator} (related : rerun.Related expected left right)
    (seen : left.peek 0 = .ok token) (otherSeen : right.peek 0 = .ok token)
    (fits : rerun.Fits later)
    (moves : ∀ rest, balances expected (token :: rest) = true → balances later rest = true) :
    rerun.Related later left.next right.next := by
  refine ⟨fits, ?_⟩
  rcases related.places with ⟨alone, rfl⟩ | within
  · exact .inl ⟨alone, rfl⟩
  · right
    cases ahead : left.ahead with
    | nil =>
        have ended : Over left right := by
          rcases related.cases with same | ended
          · have balance := within.balance
            rw [ahead, balances_nil] at balance
            rcases within.ending with ⟨last, ending⟩
            cases tail : rerun.tail with
            | nil => exact absurd tail within.more
            | cons closer rest =>
                have otherAhead : right.ahead = closer :: rest := by
                  rw [within.ahead, ahead, tail, List.nil_append]
                have isEnd := left.endingWellFormed
                have leftSeen : left.peek 0 = .ok last := by simp [Cursor.peek, ahead, ending]
                rw [ending] at isEnd
                refine ⟨⟨last, leftSeen, isEnd⟩, closer, Cursor.peek_of_ahead otherAhead, ?_⟩
                exact related.fits balance closer (by simp [tail])
          · exact ended
        rcases ended with ⟨⟨last, lastSeen, isEnd⟩, closer, closerSeen, isCloser⟩
        cases lastSeen.symm.trans seen
        cases closerSeen.symm.trans otherSeen
        rw [isEnd] at isCloser
        cases isCloser
    | cons first rest =>
        have otherAhead : right.ahead = first :: (rest ++ rerun.tail) := by
          rw [within.ahead, ahead, List.cons_append]
        cases (Cursor.peek_of_ahead ahead).symm.trans seen
        rcases Cursor.next_of_ahead ahead with ⟨nextAhead, nextEnding, nextStop⟩
        rcases Cursor.next_of_ahead otherAhead with ⟨otherNext, _, otherStop⟩
        have balance := within.balance
        rw [ahead] at balance
        refine ⟨within.more, ?_, ?_, ?_, ?_⟩
        · rw [otherNext, nextAhead]
        · rw [otherStop, nextStop]
        · rw [nextEnding]
          exact within.ending
        · rw [nextAhead]
          exact moves rest balance

theorem next (related : rerun.Related expected left right) (seen : left.peek 0 = .ok token)
    (otherSeen : right.peek 0 = .ok token) (plain : token.kind.isBracket = false) :
    rerun.Related expected left.next right.next :=
  related.step seen otherSeen related.fits fun _ balance => by rwa [balances_plain plain] at balance

theorem next_open (related : rerun.Related expected left right) (seen : left.peek 0 = .ok token)
    (otherSeen : right.peek 0 = .ok token) (opens : token.kind.closing? = some closing) :
    rerun.Related (closing :: expected) left.next right.next :=
  related.step seen otherSeen .inside fun _ balance => by rwa [balances_open opens] at balance

theorem next_close (related : rerun.Related (closing :: outer) left right)
    (seen : left.peek 0 = .ok token) (otherSeen : right.peek 0 = .ok token)
    (closes : token.kind.isClosing = true)
    (fits : rerun.Fits outer) : rerun.Related outer left.next right.next := by
  refine related.step seen otherSeen fits fun rest balance => ?_
  rcases (balances_close closes).mp balance with ⟨_, _, same, _, remains⟩
  rwa [(List.cons.inj same).2]

theorem lastStop (related : rerun.Related expected left right) :
    left.lastStop = right.lastStop := by
  rcases related.places with ⟨_, rfl⟩ | within
  · rfl
  · exact within.lastStop.symm

theorem shorter_iff {later otherLater : Cursor} {laterExpected : List Punctuator}
    (related : rerun.Related expected left right)
    (laterRelated : rerun.Related laterExpected later otherLater) :
    later.ahead.length < left.ahead.length ↔ otherLater.ahead.length < right.ahead.length := by
  have length {expected : List Punctuator} {left right : Cursor}
      (related : rerun.Related expected left right) :
      right.ahead.length = left.ahead.length + rerun.tail.length := by
    rcases related.places with ⟨alone, rfl⟩ | within
    · simp [alone]
    · rw [within.ahead, List.length_append]
  rw [length related, length laterRelated]
  omega

end Related

/-! What two runs come to. -/

variable (rerun)

/-- Both runs yield a value, or both fail in a way that can be taken back, or the second stops. -/
inductive Outcome (places : Cursor → Cursor → Prop) (values : α → β → Prop) :
    EStateM.Result SyntaxError Cursor α → EStateM.Result SyntaxError Cursor β → Prop
  | ok {first second left right} :
      values first second → places left right →
      Outcome places values (.ok first left) (.ok second right)
  | failed {first second left right} :
      first.isFinal = false → second.isFinal = false →
      Outcome places values (.error first left) (.error second right)
  | stopped {error left right} :
      rerun.Stops error → Outcome places values left (.error error right)

def AlikeFrom (expected : List Punctuator) (left right : Cursor) (first second : Parse α) : Prop :=
  rerun.Outcome (rerun.Related expected) Eq (first left) (second right)

/-- From the same places within such brackets the two parsers come to the same. -/
def AlikeAt (expected : List Punctuator) (first second : Parse α) : Prop :=
  ∀ ⦃left right⦄, rerun.Related expected left right →
    rerun.Outcome (rerun.Related expected) Eq (first left) (second right)

def Alike (first second : Parse α) : Prop :=
  ∀ expected, rerun.AlikeAt expected first second

/-- Where the part is over neither parser finds anything. -/
def FailsOver (first : Parse α) (second : Parse β) : Prop :=
  ∀ ⦃left right⦄, Over left right →
    rerun.Outcome (fun _ _ => False) (fun _ _ => False) (first left) (second right)

structure Begins (first second : Parse α) : Prop where
  alike : rerun.Alike first second
  ended : rerun.FailsOver first second

variable {rerun}

namespace Outcome

variable {places later : Cursor → Cursor → Prop} {values : α → β → Prop} {results : γ → δ → Prop}

theorem imp {weaker : α → β → Prop} {first : EStateM.Result SyntaxError Cursor α}
    {second : EStateM.Result SyntaxError Cursor β}
    (outcome : rerun.Outcome places values first second)
    (implies : ∀ value other left right, values value other → places left right →
      weaker value other ∧ later left right) :
    rerun.Outcome later weaker first second := by
  cases outcome with
  | ok same related =>
      rcases implies _ _ _ _ same related with ⟨weak, arrived⟩
      exact .ok weak arrived
  | failed first second => exact .failed first second
  | stopped stops => exact .stopped stops

theorem ofNothing {first : EStateM.Result SyntaxError Cursor α}
    {second : EStateM.Result SyntaxError Cursor β}
    (outcome : rerun.Outcome (fun _ _ => False) (fun _ _ => False) first second) :
    rerun.Outcome places values first second :=
  outcome.imp fun _ _ _ _ impossible => impossible.elim

theorem bind {first : Parse α} {second : Parse β} {firstNext : α → Parse γ}
    {secondNext : β → Parse δ}
    (start : rerun.Outcome places values (first left) (second right))
    (next : ∀ value other after otherAfter, values value other → places after otherAfter →
      rerun.Outcome later results (firstNext value after) (secondNext other otherAfter)) :
    rerun.Outcome later results ((first >>= firstNext) left) ((second >>= secondNext) right) := by
  simp only [Bind.bind, EStateM.bind]
  revert start
  generalize first left = firstResult
  generalize second right = secondResult
  intro start
  cases start with
  | ok same related => exact next _ _ _ _ same related
  | failed first second => exact .failed first second
  | stopped stops => exact .stopped stops

end Outcome

namespace AlikeAt

variable {first second : Parse α} {firstNext secondNext : α → Parse β}

theorem bind (start : rerun.AlikeAt expected first second)
    (next : ∀ value, rerun.AlikeAt expected (firstNext value) (secondNext value)) :
    rerun.AlikeAt expected (first >>= firstNext) (second >>= secondNext) := by
  intro left right related
  apply (start related).bind
  rintro value _ after otherAfter rfl later
  exact next value later

theorem pure (value : α) : rerun.AlikeAt expected (Pure.pure value) (Pure.pure value) := by
  intro left right related
  exact .ok rfl related

theorem map (change : α → β) (start : rerun.AlikeAt expected first second) :
    rerun.AlikeAt expected (change <$> first) (change <$> second) := by
  rw [map_eq_pure_bind, map_eq_pure_bind]
  exact start.bind fun value => pure (change value)

theorem branch {condition : Prop} [Decidable condition] {firstElse secondElse : Parse α}
    (whenTrue : rerun.AlikeAt expected first second)
    (whenFalse : rerun.AlikeAt expected firstElse secondElse) :
    rerun.AlikeAt expected (if condition then first else firstElse)
      (if condition then second else secondElse) := by
  split
  · exact whenTrue
  · exact whenFalse

end AlikeAt

namespace FailsOver

variable {first : Parse α} {second : Parse β}

theorem bind (fails : rerun.FailsOver first second) (next : α → Parse γ) (otherNext : β → Parse δ) :
    rerun.FailsOver (first >>= next) (second >>= otherNext) := by
  intro left right ended
  exact (fails ended).bind fun _ _ _ _ impossible => impossible.elim

theorem map (fails : rerun.FailsOver first second) (change : α → γ) (otherChange : β → δ) :
    rerun.FailsOver (change <$> first) (otherChange <$> second) := by
  rw [map_eq_pure_bind, map_eq_pure_bind]
  exact fails.bind _ _

end FailsOver

namespace Begins

variable {first second : Parse α} {firstNext secondNext : α → Parse β}

theorem bind (begins : rerun.Begins first second)
    (next : ∀ value, rerun.Alike (firstNext value) (secondNext value)) :
    rerun.Begins (first >>= firstNext) (second >>= secondNext) :=
  ⟨fun expected => (begins.alike expected).bind fun value => next value expected,
    begins.ended.bind _ _⟩

end Begins

end Rerun

end TypedScript
