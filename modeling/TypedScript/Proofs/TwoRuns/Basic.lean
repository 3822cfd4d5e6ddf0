import Mathlib.Data.List.Forall2
import TypedScript.Parser.Expressions
import TypedScript.Proofs.Relocation

/-!
Two runs of a parser side by side, on two texts or with two nesting limits. The tokens of the two
texts agree in all but their offsets, and `move` and `otherMove` send the offsets of both to common
ones. As long as neither run fails they stand at tokens of the same index, and what they have built
is the same once its offsets are moved. If one fails the other fails for the same reason, at the
same index. The first run alone may stop early: it refuses to go deeper if its limit is the smaller
one, and it has no next token where its text breaks off and the other goes on.
-/

namespace TypedScript

structure Token.Alike (offsets : Nat → Nat → Prop) (left right : Token) : Prop where
  kind : left.kind = right.kind
  text : left.text = right.text
  afterLineBreak : left.afterLineBreak = right.afterLineBreak
  hasEscape : left.hasEscape = right.hasEscape
  start : offsets left.start right.start
  stop : offsets left.stop right.stop

inductive Ending.Alike (offsets : Nat → Nat → Prop) : Ending → Ending → Prop
  | endOfFile {left right} :
      left.Alike offsets right → Alike offsets (.endOfFile left) (.endOfFile right)
  | failure {left right : LexicalError} :
      left.fault = right.fault → Alike offsets (.failure left) (.failure right)

/-- Two texts go on alike to their ends or, if `cut` holds, until the first breaks off. -/
inductive GoOnAlike (offsets : Nat → Nat → Prop) (cut : Prop) :
    List Token → Ending → List Token → Ending → Prop
  | ending {left right} : left.Alike offsets right → GoOnAlike offsets cut [] left [] right
  | brokenOff {error tokens ending} : cut → GoOnAlike offsets cut [] (.failure error) tokens ending
  | token {first second tokens otherTokens left right} :
      first.Alike offsets second → GoOnAlike offsets cut tokens left otherTokens right →
      GoOnAlike offsets cut (first :: tokens) left (second :: otherTokens) right

/-- Whether a fault may be found with a token: only the end of a text is an unexpected end, and it
is no unexpected token. -/
def GrammarFault.Fits : GrammarFault → Token → Prop
  | .unexpectedEnd, found => found.kind = .endOfFile
  | .unexpectedToken, found => found.kind ≠ .endOfFile
  | .identifierExpected, found => found.kind ≠ .endOfFile
  | .typeExpected, _ => True
  | .nestingLimitExceeded _, _ => True

/-- Two texts that go on alike after `passed` and `otherPassed` tokens, and a limit for each of
them: `limit`, and `extra` more. -/
structure TwoRuns where
  left : Lexed
  right : Lexed
  passed : Nat
  otherPassed : Nat
  Offsets : Nat → Nat → Prop
  move : Nat → Nat
  otherMove : Nat → Nat
  limit : Nat
  extra : Nat
  /-- The first text may break off where the other goes on. -/
  cut : Prop
  moves : ∀ {first second}, Offsets first second → move first = otherMove second
  greater : ∀ {first second otherFirst otherSecond}, Offsets first otherFirst →
    Offsets second otherSecond → Offsets (max first second) (max otherFirst otherSecond)
  /-- So it is with the places where the two runs begin, even if these do not stand for each
  other. -/
  sinceBeginning : ∀ {first second}, Offsets first second →
    Offsets (max ((Cursor.ofLexed left).skip passed).lastStop first)
      (max ((Cursor.ofLexed right).skip otherPassed).lastStop second)
  goOn : GoOnAlike Offsets cut (left.tokens.drop passed) left.ending
    (right.tokens.drop otherPassed) right.ending
  /-- A closing angle bracket touches the equals sign after it in both texts or in none. -/
  touching : ∀ {index first second otherFirst otherSecond},
    left.tokens[passed + index]? = some first → left.tokens[passed + (index + 1)]? = some second →
    right.tokens[otherPassed + index]? = some otherFirst →
    right.tokens[otherPassed + (index + 1)]? = some otherSecond →
    first.isMark .greaterThan = true → second.isMark .equals = true →
    (second.start = first.stop ↔ otherSecond.start = otherFirst.stop)
  /-- Where the first text breaks off, parentheses still look alike to one who looks for arrow
  functions. -/
  lookahead : cut → ∀ {index token}, left.tokens[passed + index]? = some token →
    token.isMark .openParen = true →
    Parse.arrowLookahead (left.tokens.drop (passed + index)) =
      Parse.arrowLookahead (right.tokens.drop (otherPassed + index))

-- Two runs that keep all their offsets: `Offsets` is equality and nothing is moved.

theorem TwoRuns.moves_same {first second : Nat} (same : first = second) : id first = id second :=
  same

theorem TwoRuns.greater_same {first second otherFirst otherSecond : Nat}
    (same : first = otherFirst) (alsoSame : second = otherSecond) :
    max first second = max otherFirst otherSecond := by
  rw [same, alsoSame]

namespace GoOnAlike

variable {offsets : Nat → Nat → Prop} {cut : Prop} {tokens others : List Token}
  {ending otherEnding : Ending}

theorem ofForall₂ (alike : List.Forall₂ (Token.Alike offsets) tokens others)
    (endings : ending.Alike offsets otherEnding) :
    GoOnAlike offsets cut tokens ending others otherEnding := by
  induction alike with
  | nil => exact .ending endings
  | cons first _ induction => exact .token first induction

theorem drop (alike : GoOnAlike offsets cut tokens ending others otherEnding) {count : Nat}
    (within : count ≤ tokens.length) :
    GoOnAlike offsets cut (tokens.drop count) ending (others.drop count) otherEnding := by
  induction alike generalizing count with
  | ending endings =>
      rw [List.drop_nil]
      exact .ending endings
  | brokenOff cut =>
      rw [List.drop_nil]
      exact .brokenOff cut
  | token first rest induction =>
      cases count with
      | zero => exact .token first rest
      | succ count => exact induction (Nat.le_of_succ_le_succ within)

theorem length_le (alike : GoOnAlike offsets cut tokens ending others otherEnding) :
    tokens.length ≤ others.length := by
  induction alike with
  | ending => exact Nat.le_refl 0
  | brokenOff => exact Nat.zero_le _
  | token _ _ induction => exact Nat.succ_le_succ induction

/-- The second text has all tokens that the first has, and more only where the first breaks off. -/
theorem split (alike : GoOnAlike offsets cut tokens ending others otherEnding) :
    ∃ common rest, others = common ++ rest ∧ List.Forall₂ (Token.Alike offsets) tokens common ∧
      (rest = [] ∨ cut ∧ ∃ error, ending = .failure error) := by
  induction alike with
  | ending => exact ⟨[], [], rfl, .nil, .inl rfl⟩
  | @brokenOff error tokens _ cut => exact ⟨[], tokens, rfl, .nil, .inr ⟨cut, error, rfl⟩⟩
  | @token _ second _ _ _ _ first _ induction =>
      rcases induction with ⟨common, rest, rfl, alike, broken⟩
      exact ⟨second :: common, rest, rfl, .cons first alike, broken⟩

/-- What can be seen from two places that go on alike: tokens that are alike, or the errors that
both texts end with, or the error with which the first breaks off. -/
theorem peek {left right : Cursor}
    (alike : GoOnAlike offsets cut left.ahead left.ending right.ahead right.ending) (count : Nat) :
    (∃ first second, left.peek count = .ok first ∧ right.peek count = .ok second ∧
      first.Alike offsets second) ∨
    (∃ first second, left.peek count = .error first ∧ right.peek count = .error second ∧
      left.ending = .failure first ∧ right.ending = .failure second) ∨
    cut ∧ ∃ error, left.peek count = .error error ∧ left.ending = .failure error := by
  simp only [Cursor.peek]
  revert alike
  generalize left.ahead = tokens
  generalize right.ahead = others
  generalize left.ending = ending
  generalize right.ending = otherEnding
  intro alike
  induction alike generalizing count with
  | ending endings =>
      cases endings with
      | endOfFile last => exact .inl ⟨_, _, rfl, rfl, last⟩
      | failure => exact .inr (.inl ⟨_, _, rfl, rfl, rfl, rfl⟩)
  | brokenOff cut => exact .inr (.inr ⟨cut, _, rfl, rfl⟩)
  | token first _ induction =>
      cases count with
      | zero => exact .inl ⟨_, _, rfl, rfl, first⟩
      | succ count => exact induction count

theorem alike_of_getElem? (alike : GoOnAlike offsets cut tokens ending others otherEnding)
    {index : Nat} {first second : Token} (found : tokens[index]? = some first)
    (otherFound : others[index]? = some second) : first.Alike offsets second := by
  induction alike generalizing index with
  | ending => cases found
  | brokenOff => cases found
  | token firstAlike _ induction =>
      cases index with
      | zero =>
          cases found
          cases otherFound
          exact firstAlike
      | succ index => exact induction found otherFound

/-- Tokens touch each other in both texts or in none, if offsets that are equal stand for offsets
that are equal. -/
theorem touching (alike : GoOnAlike offsets cut tokens ending others otherEnding)
    (faithful : ∀ {first second otherFirst otherSecond}, offsets first otherFirst →
      offsets second otherSecond → (first = second ↔ otherFirst = otherSecond))
    {index next : Nat} {first second otherFirst otherSecond : Token}
    (found : tokens[index]? = some first) (foundNext : tokens[next]? = some second)
    (otherFound : others[index]? = some otherFirst)
    (otherFoundNext : others[next]? = some otherSecond) :
    second.start = first.stop ↔ otherSecond.start = otherFirst.stop :=
  faithful (alike.alike_of_getElem? foundNext otherFoundNext).start
    (alike.alike_of_getElem? found otherFound).stop

/-- Where the first text is over the second is over too, unless the first breaks off. -/
theorem ahead_eq_nil {left right : Cursor}
    (alike : GoOnAlike offsets cut left.ahead left.ending right.ahead right.ending)
    (finished : left.ahead = []) {token : Token} (seen : left.peek 0 = .ok token) :
    right.ahead = [] := by
  simp only [Cursor.peek, finished, List.getElem?_nil] at seen
  rw [finished] at alike
  generalize left.ending = ending at alike seen
  generalize right.ahead = others at alike ⊢
  cases alike with
  | ending => rfl
  | brokenOff => cases seen

end GoOnAlike

theorem Cursor.next_of_nil {cursor : Cursor} (finished : cursor.ahead = []) :
    cursor.next = cursor := by
  refine Cursor.ext ?_ cursor.next_ending ?_
  · rw [next_ahead, finished, List.tail_nil]
  · rw [next_lastStop, finished, List.head?_nil, Option.map_none, Option.getD_none]

namespace TwoRuns

variable (runs : TwoRuns) {α β : Type}

def beginning : Cursor :=
  (Cursor.ofLexed runs.left).skip runs.passed

def otherBeginning : Cursor :=
  (Cursor.ofLexed runs.right).skip runs.otherPassed

def Related (left right : Cursor) : Prop :=
  ∃ index ≤ runs.beginning.ahead.length,
    left = runs.beginning.skip index ∧ right = runs.otherBeginning.skip index

inductive StopsEarly : SyntaxError → Prop
  | refused {expected found} :
      0 < runs.extra →
      StopsEarly (.grammar ⟨.nestingLimitExceeded runs.limit, expected, found⟩)
  | brokenOff {error} : runs.cut → runs.left.ending = .failure error → StopsEarly (.lexical error)

theorem related_beginning : runs.Related runs.beginning runs.otherBeginning :=
  ⟨0, Nat.zero_le _, rfl, rfl⟩

theorem goOn_beginning :
    GoOnAlike runs.Offsets runs.cut runs.beginning.ahead runs.beginning.ending
      runs.otherBeginning.ahead runs.otherBeginning.ending := by
  rw [beginning, otherBeginning, Cursor.skip_ahead, Cursor.skip_ahead, Cursor.skip_ending,
    Cursor.skip_ending]
  exact runs.goOn

variable {runs} {left right : Cursor}

namespace Related

theorem skip (related : runs.Related left right) {count : Nat}
    (within : count ≤ left.ahead.length) :
    runs.Related (left.skip count) (right.skip count) := by
  rcases related with ⟨index, inside, rfl, rfl⟩
  rw [Cursor.skip_ahead, List.length_drop] at within
  exact ⟨index + count, by omega, Cursor.skip_skip _ _ _, Cursor.skip_skip _ _ _⟩

theorem goOn (related : runs.Related left right) :
    GoOnAlike runs.Offsets runs.cut left.ahead left.ending right.ahead right.ending := by
  rcases related with ⟨index, inside, rfl, rfl⟩
  rw [Cursor.skip_ahead, Cursor.skip_ahead, Cursor.skip_ending, Cursor.skip_ending]
  exact runs.goOn_beginning.drop inside

theorem ending (related : runs.Related left right) :
    left.ending = runs.left.ending ∧ right.ending = runs.right.ending := by
  rcases related with ⟨index, _, rfl, rfl⟩
  rw [beginning, otherBeginning, Cursor.skip_ending, Cursor.skip_ending, Cursor.skip_ending,
    Cursor.skip_ending]
  exact ⟨rfl, rfl⟩

theorem shorter_iff {later otherLater : Cursor} (related : runs.Related left right)
    (laterRelated : runs.Related later otherLater) :
    later.ahead.length < left.ahead.length ↔ otherLater.ahead.length < right.ahead.length := by
  have longer := runs.goOn_beginning.length_le
  rcases related with ⟨index, inside, rfl, rfl⟩
  rcases laterRelated with ⟨laterIndex, laterInside, rfl, rfl⟩
  simp only [Cursor.skip_ahead, List.length_drop]
  omega

theorem peek (related : runs.Related left right) (count : Nat) :
    (∃ first second index, left.peek count = .ok first ∧ right.peek count = .ok second ∧
      first.Alike runs.Offsets second ∧
      (Cursor.ofLexed runs.left).peek (runs.passed + index) = .ok first ∧
      (Cursor.ofLexed runs.right).peek (runs.otherPassed + index) = .ok second) ∨
    (∃ first second, left.peek count = .error first ∧ right.peek count = .error second ∧
      runs.left.ending = .failure first ∧ runs.right.ending = .failure second) ∨
    ∃ error, left.peek count = .error error ∧ runs.StopsEarly (.lexical error) := by
  have seen := related.goOn.peek count
  rw [related.ending.1, related.ending.2] at seen
  rcases seen with ⟨first, second, found, otherFound, alike⟩ | failed |
    ⟨cut, error, failed, ending⟩
  · refine .inl ⟨first, second, ?_⟩
    rcases related with ⟨index, _, rfl, rfl⟩
    refine ⟨index + count, found, otherFound, alike, ?_, ?_⟩
    · rw [← found, beginning, Cursor.skip_peek, Cursor.skip_peek]
    · rw [← otherFound, otherBeginning, Cursor.skip_peek, Cursor.skip_peek]
  · exact .inr (.inl failed)
  · exact .inr (.inr ⟨error, failed, .brokenOff cut ending⟩)

theorem alike_of_peek (related : runs.Related left right) {count : Nat} {first second : Token}
    (found : left.peek count = .ok first) (otherFound : right.peek count = .ok second) :
    first.Alike runs.Offsets second := by
  rcases related.peek count with ⟨_, _, _, seen, otherSeen, alike, _⟩ | ⟨_, _, failed, _⟩ |
    ⟨_, failed, _⟩
  · rw [found] at seen
    rw [otherFound] at otherSeen
    cases seen
    cases otherSeen
    exact alike
  · rw [found] at failed
    cases failed
  · rw [found] at failed
    cases failed

theorem next (related : runs.Related left right) {token : Token}
    (seen : left.peek 0 = .ok token) : runs.Related left.next right.next := by
  cases ahead : left.ahead with
  | cons first rest =>
      have one : 1 ≤ left.ahead.length := by simp [ahead]
      exact related.skip one
  | nil =>
      rw [Cursor.next_of_nil ahead, Cursor.next_of_nil (related.goOn.ahead_eq_nil ahead seen)]
      exact related

/-- The last tokens end at offsets that stand for each other, unless none has been taken. -/
theorem lastStop (related : runs.Related left right) :
    (left.lastStop = runs.beginning.lastStop ∧ right.lastStop = runs.otherBeginning.lastStop) ∨
      runs.Offsets left.lastStop right.lastStop := by
  rcases related with ⟨index, inside, rfl, rfl⟩
  cases index with
  | zero => exact .inl ⟨rfl, rfl⟩
  | succ index =>
      have goOn := runs.goOn_beginning.drop (Nat.le_of_succ_le inside)
      have more : (runs.beginning.ahead.drop index).length ≠ 0 := by
        rw [List.length_drop]
        omega
      rw [Cursor.skip_succ, Cursor.skip_succ, Cursor.next_lastStop, Cursor.next_lastStop,
        Cursor.skip_ahead, Cursor.skip_ahead]
      generalize runs.beginning.ahead.drop index = tokens at goOn more ⊢
      generalize runs.otherBeginning.ahead.drop index = others at goOn ⊢
      generalize runs.beginning.ending = ending at goOn
      cases goOn with
      | ending => exact absurd rfl more
      | brokenOff => exact absurd rfl more
      | token first => exact .inr first.stop

/-- Whether an equals sign touches the closing angle bracket before it is the same in both. -/
theorem touching (related : runs.Related left right) {first second otherFirst otherSecond : Token}
    (found : left.peek 0 = .ok first) (foundNext : left.peek 1 = .ok second)
    (otherFound : right.peek 0 = .ok otherFirst) (otherFoundNext : right.peek 1 = .ok otherSecond)
    (isAngle : first.isMark .greaterThan = true) (isEquals : second.isMark .equals = true) :
    second.start = first.stop ↔ otherSecond.start = otherFirst.stop := by
  have firstAlike := related.alike_of_peek found otherFound
  have secondAlike := related.alike_of_peek foundNext otherFoundNext
  have angle : first.kind = .punctuator .greaterThan := by simpa [Token.isMark] using isAngle
  have equals : second.kind = .punctuator .equals := by simpa [Token.isMark] using isEquals
  rcases related with ⟨index, _, rfl, rfl⟩
  rw [beginning, Cursor.skip_skip, Cursor.skip_peek] at found foundNext
  rw [otherBeginning, Cursor.skip_skip, Cursor.skip_peek] at otherFound otherFoundNext
  exact runs.touching (Cursor.getElem?_of_peek found (by simp [angle]))
    (Cursor.getElem?_of_peek foundNext (by simp [equals]))
    (Cursor.getElem?_of_peek otherFound (by simp [← firstAlike.kind, angle]))
    (Cursor.getElem?_of_peek otherFoundNext (by simp [← secondAlike.kind, equals])) isAngle isEquals

end Related

/-! What two runs come to. -/

variable (runs)

/-- The two runs fail for the same reason, at tokens of the same index. -/
inductive Errors : SyntaxError → SyntaxError → Prop
  | lexical {first second} :
      runs.left.ending = .failure first → runs.right.ending = .failure second →
      Errors (.lexical first) (.lexical second)
  | grammar {fault expected first second} (index : Nat) :
      (Cursor.ofLexed runs.left).peek (runs.passed + index) = .ok first →
      (Cursor.ofLexed runs.right).peek (runs.otherPassed + index) = .ok second →
      first.Alike runs.Offsets second → fault.Fits first →
      Errors (.grammar ⟨fault, expected, first⟩) (.grammar ⟨fault, expected, second⟩)

/-- Both runs yield a value, or both fail, or the first one stops early. -/
inductive Outcome (places : Cursor → Cursor → Prop) (values : α → β → Prop) :
    EStateM.Result SyntaxError Cursor α → EStateM.Result SyntaxError Cursor β → Prop
  | ok {first second left right} :
      values first second → places left right →
      Outcome places values (.ok first left) (.ok second right)
  | error {first second left right} :
      runs.Errors first second → runs.Related left right →
      Outcome places values (.error first left) (.error second right)
  | early {error left other} :
      runs.StopsEarly error → Outcome places values (.error error left) other

def Alike (values : α → β → Prop) (first : Parse α) (second : Parse β) : Prop :=
  ∀ ⦃left right⦄, runs.Related left right →
    runs.Outcome runs.Related values (first left) (second right)

/-- Values of which the two runs see the same once offsets are moved. -/
abbrev Same (view : (Nat → Nat) → α → β) (first second : α) : Prop :=
  view runs.move first = view runs.otherMove second

variable {runs} {γ δ : Type} {values : α → β → Prop} {results : γ → δ → Prop}

theorem Same.perhaps_cases {view : (Nat → Nat) → α → β} {first second : Option α}
    (same : runs.Same (perhaps view) first second) :
    first = none ∧ second = none ∨
      ∃ value other, first = some value ∧ second = some other ∧ runs.Same view value other := by
  cases first with
  | none =>
      cases second with
      | none => exact .inl ⟨rfl, rfl⟩
      | some => cases same
  | some value =>
      cases second with
      | none => cases same
      | some other => exact .inr ⟨value, other, rfl, rfl, Option.some.inj same⟩

/-- What holds where both runs yield a value may be replaced by what follows from it. -/
theorem Outcome.imp {places later : Cursor → Cursor → Prop} {weaker : α → β → Prop}
    {first : EStateM.Result SyntaxError Cursor α} {second : EStateM.Result SyntaxError Cursor β}
    (outcome : runs.Outcome places values first second)
    (implies : ∀ value other left right, values value other → places left right →
      weaker value other ∧ later left right) :
    runs.Outcome later weaker first second := by
  cases outcome with
  | ok same related =>
      rcases implies _ _ _ _ same related with ⟨weak, arrived⟩
      exact .ok weak arrived
  | error errors related => exact .error errors related
  | early stops => exact .early stops

theorem Outcome.exists_ok {places : Cursor → Cursor → Prop} {value : α} {left : Cursor}
    {other : EStateM.Result SyntaxError Cursor β}
    (outcome : runs.Outcome places values (.ok value left) other) :
    ∃ otherValue right, other = .ok otherValue right ∧ values value otherValue ∧
      places left right := by
  cases outcome with
  | ok same related => exact ⟨_, _, rfl, same, related⟩

theorem Outcome.bind {places later : Cursor → Cursor → Prop} {first : Parse α} {second : Parse β}
    {firstNext : α → Parse γ} {secondNext : β → Parse δ}
    (start : runs.Outcome places values (first left) (second right))
    (next : ∀ value other after otherAfter, values value other → places after otherAfter →
      runs.Outcome later results (firstNext value after) (secondNext other otherAfter)) :
    runs.Outcome later results ((first >>= firstNext) left) ((second >>= secondNext) right) := by
  simp only [Bind.bind, EStateM.bind]
  revert start
  generalize first left = firstResult
  generalize second right = secondResult
  intro start
  cases start with
  | ok same related => exact next _ _ _ _ same related
  | error errors related => exact .error errors related
  | early stops => exact .early stops

namespace Alike

theorem bind {first : Parse α} {second : Parse β} {firstNext : α → Parse γ}
    {secondNext : β → Parse δ} (start : runs.Alike values first second)
    (next : ∀ value other, values value other →
      runs.Alike results (firstNext value) (secondNext other)) :
    runs.Alike results (first >>= firstNext) (second >>= secondNext) := by
  intro left right related
  apply (start related).bind
  intro value other after otherAfter same later
  exact next value other same later

theorem bindEq {first second : Parse α} {firstNext : α → Parse γ} {secondNext : α → Parse δ}
    (start : runs.Alike Eq first second)
    (next : ∀ value, runs.Alike results (firstNext value) (secondNext value)) :
    runs.Alike results (first >>= firstNext) (second >>= secondNext) := by
  apply start.bind
  intro value other same
  rw [← same]
  exact next value

theorem pure {first : α} {second : β} (same : values first second) :
    runs.Alike values (Pure.pure first) (Pure.pure second) := by
  intro left right related
  exact .ok same related

theorem map {first : Parse α} {second : Parse β} {change : α → γ} {otherChange : β → δ}
    (start : runs.Alike values first second)
    (same : ∀ value other, values value other → results (change value) (otherChange other)) :
    runs.Alike results (change <$> first) (otherChange <$> second) := by
  rw [map_eq_pure_bind, map_eq_pure_bind]
  apply start.bind
  intro value other values
  exact pure (same value other values)

theorem present {view : (Nat → Nat) → α → β} {first second : Parse α}
    (start : runs.Alike (runs.Same view) first second) :
    runs.Alike (runs.Same (perhaps view)) (some <$> first) (some <$> second) := by
  apply start.map
  intro value other same
  exact congrArg some same

theorem ite {condition otherCondition : Prop} [Decidable condition] [Decidable otherCondition]
    {first firstElse : Parse α} {second secondElse : Parse β}
    (same : condition ↔ otherCondition) (whenTrue : runs.Alike values first second)
    (whenFalse : runs.Alike values firstElse secondElse) :
    runs.Alike values (if condition then first else firstElse)
      (if otherCondition then second else secondElse) := by
  by_cases holds : condition
  · rw [if_pos holds, if_pos (same.mp holds)]
    exact whenTrue
  · rw [if_neg holds, if_neg (holds ∘ same.mpr)]
    exact whenFalse

theorem branch {condition : Prop} [Decidable condition] {first firstElse : Parse α}
    {second secondElse : Parse β} (whenTrue : runs.Alike values first second)
    (whenFalse : runs.Alike values firstElse secondElse) :
    runs.Alike values (if condition then first else firstElse)
      (if condition then second else secondElse) :=
  ite Iff.rfl whenTrue whenFalse

end Alike

end TwoRuns

end TypedScript
