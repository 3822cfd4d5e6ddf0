import TypedScript.Parser.Expressions
import TypedScript.Proofs.Checked.Stream
import TypedScript.Proofs.Progress.Bodies
import TypedScript.Proofs.Recorded

/-!
The two loops of the grammar that count: one looks past a pair of parentheses, the other skips the
body of a function. Both work on tokens that nothing has parsed. Main statement: wherever a stream
may get, neither count goes below zero or beyond its bits, and the loops find what the lists of
tokens hold.
-/

namespace TypedScript

namespace ByteStream

/-! The loops. -/

/-- No fewer than the tokens after the next `ahead`, since each takes a byte or more. -/
def left (stream : ByteStream) (ahead : Nat) : Nat :=
  stream.lexer.source.utf8ByteSize - (stream.cursor + ahead)

/-- What the token `ahead` places after the cursor says about the parentheses before it. -/
def afterParens (stream : ByteStream) (ahead : Nat) :
    Option (Parse.ArrowLookahead × ByteStream) := do
  match ← stream.peek ahead with
  | (.error _, after) => return (.notArrow, after)
  | (.ok token, after) =>
      if token.isMark .arrow then return (.arrow, after)
      else if token.isMark .colon then return (.ambiguous, after)
      else return (.notArrow, after)

def lookaheadTurn : Nat × Nat × ByteStream →
    Option (Nat × Nat × ByteStream ⊕ Parse.ArrowLookahead × ByteStream)
  | (depth, ahead, stream) => do
      match ← stream.peek ahead with
      | (.error _, after) => return .inr (.notArrow, after)
      | (.ok token, after) =>
          if token.kind = .endOfFile then return .inr (.notArrow, after)
          else
            let next ← sum? Numeral.bound64 ahead 1
            if token.isMark .openParen then
              return .inl (← sum? Numeral.bound64 depth 1, next, after)
            else if token.isMark .closeParen then
              let outer ← subtract? depth 1
              if outer = 0 then .inr <$> after.afterParens next
              else return .inl (outer, next, after)
            else return .inl (depth, next, after)

def arrowLookahead (stream : ByteStream) (depth ahead : Nat) :
    Option (Parse.ArrowLookahead × ByteStream) :=
  loop (fun (_, ahead, stream) => stream.left ahead) lookaheadTurn (depth, ahead, stream)

inductive BodyEnd where
  | closed (count : Nat)
  | unclosed
  | failure (error : LexicalError)
deriving DecidableEq, Repr

/-- Takes one token of a body that began at `mark` and in which `depth` braces are open, its own
included. -/
def skipTurn (mark : TokenStream.Mark) :
    Nat × ByteStream → Option (Nat × ByteStream ⊕ BodyEnd × ByteStream)
  | (depth, stream) => do
      match ← stream.peek 0 with
      | (.error error, after) => return .inr (.failure error, after)
      | (.ok token, after) =>
          if token.kind = .endOfFile then return .inr (.unclosed, after)
          else
            let within ←
              if token.isMark .openBrace then sum? Numeral.bound32 depth 1
              else if token.isMark .closeBrace then subtract? depth 1
              else some depth
            if within = 0 then return .inr (.closed (← subtract? after.cursor mark.index), after)
            else
              match ← after.advance with
              | (.error error, later) => return .inr (.failure error, later)
              | (.ok _, later) => return .inl (within, later)

/-- Takes the tokens of a body that began at `mark` and in which `depth` braces are open. -/
def skipBody (stream : ByteStream) (mark : TokenStream.Mark) (depth : Nat) :
    Option (BodyEnd × ByteStream) :=
  loop (·.2.left 0) (skipTurn mark) (depth, stream)

/-! Where a stream is. -/

def Views (stream : ByteStream) (source : String) (lexed : Lexed) (index : Nat) : Prop :=
  ∃ model reach, stream.Mirrors source model ∧ model.Represents ⟨lexed, index, reach⟩

theorem split_of_drop {tokens rest : List Token} {index : Nat} {token : Token}
    (left : tokens.drop index = token :: rest) :
    tokens[index]? = some token ∧ tokens.drop (index + 1) = rest := by
  constructor
  · rw [← List.head?_drop, left, List.head?_cons]
  · rw [← List.drop_drop, left]
    rfl

theorem isMark_of_end {token : Token} (isLast : token.kind = .endOfFile) (mark : Punctuator) :
    token.isMark mark = false := by
  rw [Token.isMark, isLast]
  rfl

namespace Views

variable {stream : ByteStream} {source : String} {lexed : Lexed} {index : Nat}

theorem cursor (views : stream.Views source lexed index) : stream.cursor = index := by
  rcases views with ⟨model, reach, mirrors, represents⟩
  rw [mirrors.cursor, represents.cursor]

theorem text (views : stream.Views source lexed index) : stream.lexer.source = source := by
  rcases views with ⟨model, reach, mirrors, represents⟩
  exact mirrors.text

theorem left_lt {next : ByteStream} {nextIndex ahead nextAhead : Nat}
    (views : stream.Views source lexed index) (nextViews : next.Views source lexed nextIndex)
    (short : lexed.tokens.length ≤ source.utf8ByteSize)
    (present : lexed.tokens.drop (index + ahead) ≠ [])
    (passed : index + ahead < nextIndex + nextAhead) : next.left nextAhead < stream.left ahead := by
  have within : index + ahead < lexed.tokens.length := by
    by_contra beyond
    exact present (List.drop_eq_nil_of_le (Nat.not_lt.mp beyond))
  rw [left, left, views.text, nextViews.text, views.cursor, nextViews.cursor]
  omega

theorem index_lt (views : stream.Views source lexed index) :
    index + 0 < Numeral.bound64 := by
  rcases views with ⟨model, reach, mirrors, represents⟩
  have within := mirrors.within
  rw [represents.cursor] at within
  exact within

theorem peek_eq (views : stream.Views source lexed index) {ahead : Nat}
    (fits : index + ahead < Numeral.bound64) :
    ∃ after, stream.peek ahead =
        some ((IndexedTokens.ofLexed lexed).tokenAt (index + ahead), after) ∧
      after.Views source lexed index := by
  rcases views with ⟨model, reach, mirrors, represents⟩
  have place : model.cursor = index := represents.cursor
  rcases mirrors.peek_eq (place ▸ fits) with ⟨after, peeks, afterMirrors⟩
  rcases represents.peek ahead with ⟨found, afterRepresents⟩
  exact ⟨after, found ▸ peeks, _, _, afterMirrors, afterRepresents⟩

theorem peek_token (views : stream.Views source lexed index) {ahead : Nat} {token : Token}
    {rest : List Token} (fits : index + ahead < Numeral.bound64)
    (left : lexed.tokens.drop (index + ahead) = token :: rest) :
    ∃ after, stream.peek ahead = some (.ok token, after) ∧
      after.Views source lexed index := by
  rcases views.peek_eq fits with ⟨after, peeks, afterViews⟩
  have found : (IndexedTokens.ofLexed lexed).tokenAt (index + ahead) = .ok token :=
    IndexedTokens.tokenAt_of_getElem? (split_of_drop left).1
  rw [found] at peeks
  exact ⟨after, peeks, afterViews⟩

theorem peek_end (views : stream.Views source lexed index) {ahead : Nat}
    (fits : index + ahead < Numeral.bound64)
    (left : lexed.tokens.drop (index + ahead) = []) :
    ∃ after, after.Views source lexed index ∧
      ((∃ error, lexed.ending = .failure error ∧
          stream.peek ahead = some (.error error, after)) ∨
        ∃ token, lexed.ending = .endOfFile token ∧ token.kind = .endOfFile ∧
          stream.peek ahead = some (.ok token, after)) := by
  rcases views.peek_eq fits with ⟨after, peeks, afterViews⟩
  have found : (IndexedTokens.ofLexed lexed).tokenAt (index + ahead) = lexed.ending.found :=
    IndexedTokens.tokenAt_of_le (List.drop_eq_nil_iff.mp left)
  have wellFormed := lexed.endingWellFormed
  rw [found] at peeks
  refine ⟨after, afterViews, ?_⟩
  cases ending : lexed.ending with
  | failure error =>
      rw [ending] at peeks
      exact .inl ⟨error, rfl, peeks⟩
  | endOfFile token =>
      rw [ending] at peeks wellFormed
      exact .inr ⟨token, rfl, wellFormed, peeks⟩

theorem head_isMark (views : stream.Views source lexed index) {token : Token}
    {after : ByteStream} {mark : Punctuator} (peeks : stream.peek 0 = some (.ok token, after))
    (isMark : token.isMark mark = true) :
    (lexed.tokens.drop index).head?.any (·.isMark mark) = true := by
  cases left : lexed.tokens.drop index with
  | nil =>
      rcases views.peek_end views.index_lt left with
        ⟨_, _, ⟨error, _, failed⟩ | ⟨last, _, isLast, found⟩⟩
      · cases peeks.symm.trans failed
      · cases peeks.symm.trans found
        rw [isMark_of_end isLast] at isMark
        cases isMark
  | cons first rest =>
      rcases views.peek_token views.index_lt left with ⟨_, found, _⟩
      cases peeks.symm.trans found
      exact isMark

theorem advance_token (views : stream.Views source lexed index) {token : Token}
    {rest : List Token} (left : lexed.tokens.drop index = token :: rest) :
    ∃ after, stream.advance = some (.ok token, after) ∧
      after.Views source lexed (index + 1) := by
  rcases views with ⟨model, reach, mirrors, represents⟩
  rcases mirrors.advance_eq with ⟨after, advances, afterMirrors⟩
  rcases represents.advance with ⟨found, afterRepresents⟩
  have present := (split_of_drop left).1
  have more : index < lexed.tokens.length := (List.getElem?_eq_some_iff.mp present).1
  have moved : (IndexedTokens.asked ⟨lexed, index, reach⟩ index).moved =
      ⟨lexed, index + 1, max reach (index + 1)⟩ := if_pos more
  rw [moved] at afterRepresents
  rw [found, IndexedTokens.tokenAt_of_getElem? present] at advances
  exact ⟨after, advances, _, _, afterMirrors, afterRepresents⟩

/-! Parentheses. -/

def arrowAfter : Option Token → Parse.ArrowLookahead
  | none => .notArrow
  | some token =>
      if token.isMark .arrow then .arrow
      else if token.isMark .colon then .ambiguous
      else .notArrow

theorem afterParens_eq (views : stream.Views source lexed index) {ahead : Nat}
    (fits : index + ahead < Numeral.bound64) :
    ∃ after, stream.afterParens ahead =
        some (arrowAfter (lexed.tokens.drop (index + ahead)).head?, after) ∧
      after.Views source lexed index := by
  cases left : lexed.tokens.drop (index + ahead) with
  | nil =>
      rcases views.peek_end fits left with
        ⟨after, afterViews, ⟨error, _, peeks⟩ | ⟨token, _, isLast, peeks⟩⟩
      · refine ⟨after, ?_, afterViews⟩
        rw [afterParens, peeks]
        rfl
      · refine ⟨after, ?_, afterViews⟩
        rw [afterParens, peeks]
        simp [isMark_of_end isLast, arrowAfter]
  | cons token rest =>
      rcases views.peek_token fits left with ⟨after, peeks, afterViews⟩
      refine ⟨after, ?_, afterViews⟩
      rw [afterParens, peeks, List.head?_cons, arrowAfter]
      simp only [Option.bind_eq_bind, Option.bind_some]
      split
      · rfl
      · split <;> rfl

/-- A turn at a token that is no end of the text, by what the token does to the parentheses. -/
theorem lookaheadTurn_eq {after : ByteStream} {token : Token} {depth ahead : Nat}
    (peeks : stream.peek ahead = some (.ok token, after)) (more : token.kind ≠ .endOfFile)
    (next : ahead + 1 < Numeral.bound64) (fewer : depth + 1 < Numeral.bound64)
    (positive : token.isMark .openParen = false → 0 < depth) :
    lookaheadTurn (depth, ahead, stream) =
      if token.isMark .openParen then some (.inl (depth + 1, ahead + 1, after))
      else if token.isMark .closeParen then
        if depth ≤ 1 then .inr <$> after.afterParens (ahead + 1)
        else some (.inl (depth - 1, ahead + 1, after))
      else some (.inl (depth, ahead + 1, after)) := by
  rw [lookaheadTurn, peeks]
  simp only [Option.bind_eq_bind, Option.bind_some, if_neg more]
  rw [sum?_of_lt next, Option.bind_some]
  by_cases opens : token.isMark .openParen = true
  · rw [if_pos opens, if_pos opens, sum?_of_lt fewer]
    rfl
  · have enough : 0 < depth := positive (Bool.eq_false_iff.mpr opens)
    rw [if_neg opens, if_neg opens, subtract?_of_le enough, Option.bind_some]
    have last : depth - 1 = 0 ↔ depth ≤ 1 := by omega
    simp only [last]
    rfl

/-- Once a parenthesis is open, the count stays above zero until it is closed. No more of them are
open than tokens have been passed. -/
theorem arrowLookahead_eq (views : stream.Views source lexed index)
    (short : lexed.tokens.length ≤ source.utf8ByteSize)
    (small : source.utf8ByteSize < Numeral.bound32) {depth ahead : Nat}
    (counts : 0 < depth ∨
      (lexed.tokens.drop (index + ahead)).head?.any (·.isMark .openParen) = true)
    (fewer : depth ≤ ahead) (fits : index + ahead < Numeral.bound64) :
    ∃ after, stream.arrowLookahead depth ahead =
        some (arrowAfter ((Parse.afterParens? depth
          (lexed.tokens.drop (index + ahead))).bind List.head?), after) ∧
      after.Views source lexed index := by
  generalize left : lexed.tokens.drop (index + ahead) = tokens at counts
  induction tokens generalizing stream depth ahead with
  | nil =>
      rcases views.peek_end fits left with
        ⟨after, afterViews, ⟨error, _, peeks⟩ | ⟨token, _, isLast, peeks⟩⟩
      · exact ⟨after, loop_of_last (by rw [lookaheadTurn, peeks]; rfl), afterViews⟩
      · exact ⟨after, loop_of_last (by rw [lookaheadTurn, peeks]; simp [isLast]; rfl), afterViews⟩
  | cons token rest induction =>
      have later : lexed.tokens.drop (index + (ahead + 1)) = rest := (split_of_drop left).2
      have more : token.kind ≠ .endOfFile :=
        (lexed.wellFormed token (List.mem_of_mem_drop (left ▸ List.mem_cons_self ..))).notEnd
      have within : index + ahead < lexed.tokens.length :=
        (List.getElem?_eq_some_iff.mp (split_of_drop left).1).1
      have nextFits : index + (ahead + 1) < Numeral.bound64 := by
        simp only [Numeral.bound32, Numeral.bound64] at small ⊢
        omega
      have positive (opensNot : token.isMark .openParen = false) : 0 < depth :=
        counts.resolve_right (by simp [opensNot])
      rcases views.peek_token fits left with ⟨after, peeks, afterViews⟩
      have turned := lookaheadTurn_eq peeks more (by omega) (by omega) positive
      -- The loop goes on with the next token.
      have goesOn {inner : Nat} (atMost : inner ≤ ahead + 1) (inside : 0 < inner)
          (turned : lookaheadTurn (depth, ahead, stream) = some (.inl (inner, ahead + 1, after))) :
          ∃ last, stream.arrowLookahead depth ahead =
              some (arrowAfter ((Parse.afterParens? inner rest).bind List.head?), last) ∧
            last.Views source lexed index := by
        have smaller : after.left (ahead + 1) < stream.left ahead :=
          views.left_lt afterViews short (by rw [left]; exact List.cons_ne_nil _ _) (by omega)
        rw [arrowLookahead, loop_of_more turned smaller]
        exact induction afterViews atMost nextFits later (.inl inside)
      rw [Parse.afterParens?]
      split_ifs at turned ⊢ with opens closes lastOne
      · exact goesOn (by omega) (Nat.succ_pos depth) turned
      · rcases afterViews.afterParens_eq nextFits with ⟨found, looks, foundViews⟩
        rw [looks, later] at turned
        exact ⟨found, loop_of_last turned, foundViews⟩
      · exact goesOn (by omega) (by omega) turned
      · exact goesOn (by omega) (positive (Bool.eq_false_iff.mpr opens)) turned

/-! Braces. -/

def bodyEnd (ending : Ending) (passed : Nat) : Option Nat → BodyEnd
  | some count => .closed (passed + count)
  | none =>
      match ending with
      | .endOfFile _ => .unclosed
      | .failure error => .failure error

theorem bodyEnd_succ (ending : Ending) (passed : Nat) (count? : Option Nat) :
    bodyEnd ending (passed + 1) count? = bodyEnd ending passed (count?.map (· + 1)) := by
  cases count? with
  | none => rfl
  | some count => simp [bodyEnd, Nat.add_assoc, Nat.add_comm 1]

/-- A body's own brace is counted as well, so the count is one more than that of the braces open
within the body. -/
theorem skipTurn_of_open (mark : TokenStream.Mark) {after next : ByteStream} {token : Token}
    {depth inner : Nat} (peeks : stream.peek 0 = some (.ok token, after))
    (more : token.kind ≠ .endOfFile) (goesOn : Parse.depthAfter? depth token = some inner)
    (advances : after.advance = some (.ok token, next)) (fits : depth + 2 < Numeral.bound32) :
    skipTurn mark (depth + 1, stream) = some (.inl (inner + 1, next)) := by
  unfold Parse.depthAfter? at goesOn
  rw [skipTurn, peeks]
  simp only [Option.bind_eq_bind, Option.bind_some, if_neg more]
  split_ifs at goesOn with opens closes
  · cases goesOn
    rw [if_pos opens, @sum?_of_lt _ (depth + 1) 1 fits]
    simp [advances]
  · cases depth with
    | zero => cases goesOn
    | succ outer =>
        cases goesOn
        rw [if_neg opens, if_pos closes, subtract?_of_le (Nat.le_add_left 1 _)]
        simp [advances]
  · cases goesOn
    rw [if_neg opens, if_neg closes]
    simp [advances]

theorem skipTurn_of_closed {mark : TokenStream.Mark} {after : ByteStream} {token : Token}
    {depth : Nat} (peeks : stream.peek 0 = some (.ok token, after))
    (more : token.kind ≠ .endOfFile) (closes : Parse.depthAfter? depth token = none)
    (behind : mark.index ≤ after.cursor) :
    skipTurn mark (depth + 1, stream) =
      some (.inr (.closed (after.cursor - mark.index), after)) := by
  unfold Parse.depthAfter? at closes
  rw [skipTurn, peeks]
  simp only [Option.bind_eq_bind, Option.bind_some, if_neg more]
  split_ifs at closes with opens isClosing
  cases depth with
  | zero =>
      rw [if_neg opens, if_pos isClosing, subtract?_of_le (Nat.le_refl 1)]
      simp [subtract?_of_le behind]
  | succ outer => cases closes

/-- A body is over where its own brace is closed, so the count of braces stays above zero, and the
mark stays behind the cursor. -/
theorem skipBody_eq (views : stream.Views source lexed index)
    (short : lexed.tokens.length ≤ source.utf8ByteSize) (mark : TokenStream.Mark)
    (behind : mark.index ≤ index) (depth : Nat)
    (fewer : depth + 1 + (lexed.tokens.drop index).length < Numeral.bound32) :
    ∃ after, stream.skipBody mark (depth + 1) =
        some (bodyEnd lexed.ending (index - mark.index)
          (Parse.bodyLength? depth (lexed.tokens.drop index)), after) ∧
      after.Views source lexed (index +
        (Parse.bodyLength? depth (lexed.tokens.drop index)).getD
          (lexed.tokens.drop index).length) := by
  generalize left : lexed.tokens.drop index = tokens at fewer
  induction tokens generalizing stream index depth with
  | nil =>
      rcases views.peek_end views.index_lt left with
        ⟨after, afterViews, ⟨error, ending, peeks⟩ | ⟨token, ending, isLast, peeks⟩⟩
      · exact ⟨after, loop_of_last (by rw [skipTurn, peeks, ending]; rfl), afterViews⟩
      · exact ⟨after, loop_of_last (by rw [skipTurn, peeks, ending]; simp [isLast]; rfl),
          afterViews⟩
  | cons token rest induction =>
      have later := (split_of_drop left).2
      have more : token.kind ≠ .endOfFile :=
        (lexed.wellFormed token (List.mem_of_mem_drop (left ▸ List.mem_cons_self ..))).notEnd
      rcases views.peek_token views.index_lt left with ⟨after, peeks, afterViews⟩
      rw [List.length_cons] at fewer
      cases stepped : Parse.depthAfter? depth token with
      | none =>
          rw [Parse.bodyLength?_of_closed stepped]
          have turned := skipTurn_of_closed peeks more stepped (afterViews.cursor ▸ behind)
          rw [afterViews.cursor] at turned
          exact ⟨after, loop_of_last turned, afterViews⟩
      | some inner =>
          rcases afterViews.advance_token left with ⟨next, advances, nextViews⟩
          have smaller : next.left 0 < stream.left 0 :=
            views.left_lt nextViews short (by rw [Nat.add_zero, left]; exact List.cons_ne_nil _ _)
              (by omega)
          have atMost := Parse.depthAfter?_le stepped
          rcases induction nextViews (by omega) inner later (by omega) with
            ⟨last, skips, lastViews⟩
          have turned := skipTurn_of_open mark peeks more stepped advances (by omega)
          have step : index + 1 - mark.index = index - mark.index + 1 := by omega
          rw [step, bodyEnd_succ] at skips
          rw [Parse.bodyLength?_of_open stepped]
          refine ⟨last, (loop_of_more turned smaller).trans skips, ?_⟩
          -- What one token adds to the length of the body it adds to the cursor.
          cases length : Parse.bodyLength? inner rest with
          | none =>
              simpa [length, Nat.add_assoc, Nat.add_comm 1] using lastViews
          | some count =>
              simpa [length, Nat.add_assoc, Nat.add_comm 1] using lastViews

end Views

/-! All runs. -/

/-- The streams that come about from a new one when requests are made of it one after another, and
when the two loops are run: the first at a parenthesis, the second after the brace of a body. -/
inductive Reachable (keywords : KeywordSet) (source : String) : ByteStream → Prop
  | start {stream : ByteStream} :
      ofSource keywords source = some stream → Reachable keywords source stream
  | step {stream after : ByteStream} {request : Request} {answer : Answer} :
      Reachable keywords source stream → request.Fits stream.cursor →
      stream.respond request = some (answer, after) → Reachable keywords source after
  | look {stream before after : ByteStream} {token : Token} {found : Parse.ArrowLookahead} :
      Reachable keywords source stream → stream.peek 0 = some (.ok token, before) →
      token.isMark .openParen = true → before.arrowLookahead 0 0 = some (found, after) →
      Reachable keywords source after
  | skip {stream after : ByteStream} {ending : BodyEnd} :
      Reachable keywords source stream →
      stream.skipBody ⟨stream.cursor⟩ 1 = some (ending, after) → Reachable keywords source after

namespace Views

variable {stream : ByteStream} {source : String} {lexed : Lexed} {index : Nat}

theorem responds (views : stream.Views source lexed index) {request : Request}
    (fits : request.Fits stream.cursor) : (stream.respond request).isSome := by
  rcases views with ⟨model, reach, mirrors, represents⟩
  rw [mirrors.cursor] at fits
  rcases mirrors.respond_eq fits with ⟨after, answers, _⟩
  exact Option.isSome_of_eq_some answers

/-- A request that is answered leads from one place among the tokens to another. -/
theorem of_respond {after : ByteStream} {request : Request} {answer : Answer}
    (views : stream.Views source lexed index) (fits : request.Fits stream.cursor)
    (answers : stream.respond request = some (answer, after)) :
    ∃ next, after.Views source lexed next := by
  rcases views with ⟨model, reach, mirrors, represents⟩
  rw [mirrors.cursor] at fits
  rcases mirrors.respond_eq fits with ⟨other, otherAnswers, otherMirrors⟩
  cases answers.symm.trans otherAnswers
  have same : (IndexedTokens.respond ⟨lexed, index, reach⟩ request).2.lexed = lexed := by
    cases request with
    | advance =>
        rw [IndexedTokens.respond, IndexedTokens.moved]
        split <;> rfl
    | _ => rfl
  have afterRepresents := (TokenStream.respond_represents represents request).2
  generalize IndexedTokens.respond ⟨lexed, index, reach⟩ request = responded at *
  rcases responded with ⟨said, tokens, next, further⟩
  subst same
  exact ⟨next, _, further, otherMirrors, afterRepresents⟩

/-- Where a parenthesis comes next, the first loop finds what comes after its end. -/
theorem looks (views : stream.Views source lexed index)
    (short : lexed.tokens.length ≤ source.utf8ByteSize)
    (small : source.utf8ByteSize < Numeral.bound32) {token : Token} {before : ByteStream}
    (peeks : stream.peek 0 = some (.ok token, before)) (opens : token.isMark .openParen = true) :
    ∃ after, before.arrowLookahead 0 0 =
        some (Parse.arrowLookahead (lexed.tokens.drop index), after) ∧
      after.Views source lexed index := by
  rcases views.peek_eq views.index_lt with ⟨other, found, otherViews⟩
  have same : before = other := (Prod.mk.inj (Option.some.inj (peeks.symm.trans found))).2
  subst same
  exact otherViews.arrowLookahead_eq short small (.inr (views.head_isMark peeks opens))
    (Nat.le_refl 0) views.index_lt

/-- From anywhere, the second loop finds the end of the body that has begun there. -/
theorem skips (views : stream.Views source lexed index)
    (short : lexed.tokens.length ≤ source.utf8ByteSize)
    (small : source.utf8ByteSize + 1 < Numeral.bound32) :
    ∃ after, stream.skipBody ⟨stream.cursor⟩ 1 =
        some (bodyEnd lexed.ending 0 (Parse.bodyLength? 0 (lexed.tokens.drop index)), after) ∧
      ∃ next, after.Views source lexed next := by
  have fewer : 0 + 1 + (lexed.tokens.drop index).length < Numeral.bound32 := by
    rw [List.length_drop]
    omega
  rcases views.skipBody_eq short ⟨stream.cursor⟩ (Nat.le_of_eq views.cursor) 0 fewer with
    ⟨after, found, afterViews⟩
  rw [views.cursor, Nat.sub_self] at found
  rw [views.cursor]
  exact ⟨after, found, _, afterViews⟩

end Views

theorem Reachable.views {keywords : KeywordSet} {source : String} {stream : ByteStream}
    (small : source.utf8ByteSize + 1 < Numeral.bound32)
    (reachable : Reachable keywords source stream) :
    stream.Views source (lex keywords source) stream.cursor := by
  have found : ∃ index, stream.Views source (lex keywords source) index := by
    induction reachable with
    | @start stream starts =>
        rcases ofSource_mirrors keywords small with ⟨other, otherStarts, mirrors⟩
        cases starts.symm.trans otherStarts
        exact ⟨0, _, 0, mirrors, TokenStream.ofSource_represents keywords source⟩
    | step _ fits answers induction =>
        rcases induction with ⟨index, views⟩
        exact views.of_respond fits answers
    | look _ peeks opens looks induction =>
        rcases induction with ⟨index, views⟩
        rcases views.looks (lex_length_le keywords source) (Nat.lt_of_succ_lt small) peeks opens
          with ⟨after, otherLooks, afterViews⟩
        cases looks.symm.trans otherLooks
        exact ⟨index, afterViews⟩
    | skip _ skips induction =>
        rcases induction with ⟨index, views⟩
        rcases views.skips (lex_length_le keywords source) small with
          ⟨after, otherSkips, afterViews⟩
        cases skips.symm.trans otherSkips
        exact afterViews
  rcases found with ⟨index, views⟩
  rw [views.cursor]
  exact views

end ByteStream

end TypedScript
