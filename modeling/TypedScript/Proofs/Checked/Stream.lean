import TypedScript.Proofs.Checked.Tokens
import TypedScript.Proofs.Recorded

/-!
A stream over the bytes of a text, with every index, every sum and every difference checked. Main
statement: a new stream answers every request, in whatever order they come, except for two: which
token stands at an index that needs more than 64 bits, and how many tokens were taken since a mark
that lies after the cursor.
-/

namespace TypedScript

/-! The stream. -/

structure ByteStream where
  lexer : ByteLexer
  buffer : Array Token
  cursor : Nat
  error : Option LexicalError

namespace ByteStream

def ofSource (keywords : KeywordSet) (source : String) : Option ByteStream := do
  return ⟨← ByteLexer.ofSource keywords source, #[], 0, none⟩

def fillTurn (index : Nat) (stream : ByteStream) :
    Option (ByteStream ⊕ Except LexicalError Unit × ByteStream) :=
  if index < stream.buffer.size then some (.inr (.ok (), stream))
  else
    match stream.error with
    | some error => some (.inr (.error error, stream))
    | none =>
        if stream.buffer.back?.any (·.kind = .endOfFile) then some (.inr (.ok (), stream))
        else do
          match ← stream.lexer.next with
          | (none, lexer) => return .inr (.ok (), { stream with lexer := lexer })
          | (some (.error error), lexer) =>
              return .inr (.error error, { stream with lexer := lexer, error := some error })
          | (some (.ok token), lexer) =>
              return .inl { stream with lexer := lexer, buffer := stream.buffer.push token }

/-- Reads tokens until there is one with a given index, or until there are no more. -/
def fill (stream : ByteStream) (index : Nat) : Option (Except LexicalError Unit × ByteStream) :=
  loop (index + 1 - ·.buffer.size) (fillTurn index) stream

/-- The token with a given index, or the last one. The buffer must not be empty. -/
def peekIndex (stream : ByteStream) (index : Nat) :
    Option (Except LexicalError Token × ByteStream) := do
  match ← stream.fill index with
  | (.error error, after) => return (.error error, after)
  | (.ok _, after) =>
      let last ← subtract? after.buffer.size 1
      let token ← after.buffer[min index last]?
      return (.ok token, after)

def peek (stream : ByteStream) (ahead : Nat) :
    Option (Except LexicalError Token × ByteStream) := do
  stream.peekIndex (← sum? Numeral.bound64 stream.cursor ahead)

def advance (stream : ByteStream) : Option (Except LexicalError Token × ByteStream) := do
  match ← stream.peek 0 with
  | (.error error, after) => return (.error error, after)
  | (.ok token, after) =>
      if token.kind = .endOfFile then return (.ok token, after)
      else return (.ok token, { after with cursor := ← sum? Numeral.bound64 after.cursor 1 })

def respond (stream : ByteStream) : Request → Option (Answer × ByteStream)
  | .peek ahead => do
      let (found, after) ← stream.peek ahead
      return (.token found, after)
  | .peekKind ahead => do
      let (found, after) ← stream.peek ahead
      return (.kind (found.map (·.kind)), after)
  | .advance => do
      let (found, after) ← stream.advance
      return (.token found, after)
  | .checkpoint => return (.mark ⟨stream.cursor⟩, stream)
  | .restore mark => return (.restored, { stream with cursor := mark.index })
  | .consumedSince mark => do
      let count ← subtract? stream.cursor mark.index
      return (.consumed (some count), stream)

/-- The answers to requests that are made one after another, each with the number of tokens that
are buffered after it. -/
def transcript? (stream : ByteStream) : List Request → Option (List (Answer × Nat))
  | [] => some []
  | request :: later => do
      let (answer, after) ← stream.respond request
      return (answer, after.buffer.size) :: (← after.transcript? later)

end ByteStream

/-- Where the cursor is, the request looks at an index of 64 bits, or goes back to one, or counts
from a mark that is not after the cursor. -/
def Request.Fits (cursor : Nat) : Request → Prop
  | .peek ahead | .peekKind ahead => cursor + ahead < Numeral.bound64
  | .restore mark => mark.index < Numeral.bound64
  | .consumedSince mark => mark.index ≤ cursor
  | .advance | .checkpoint => True

def TokenStream.Serves (stream : TokenStream) : List Request → Prop
  | [] => True
  | request :: later => request.Fits stream.cursor ∧ (stream.respond request).2.Serves later

/-! What it stands for. -/

namespace ByteStream

def Continues (stream : ByteStream) (source : String) (model : TokenStream) : Prop :=
  match model.ending with
  | none => stream.error = none ∧ stream.buffer.back?.any (·.kind = .endOfFile) = false ∧
      stream.lexer.done = false ∧ ∃ before, stream.lexer.Stands source before model.lexer
  | some (.endOfFile token) => stream.error = none ∧ token.kind = .endOfFile ∧
      stream.buffer.back? = some token
  | some (.failure error) => stream.error = some error

structure Mirrors (stream : ByteStream) (source : String) (model : TokenStream) : Prop where
  text : stream.lexer.source = source
  cursor : stream.cursor = model.cursor
  buffer : stream.buffer = model.buffer
  continues : stream.Continues source model
  within : model.cursor < Numeral.bound64
  short : model.tokens.length < Numeral.bound32

theorem ofSource_mirrors (keywords : KeywordSet) {source : String}
    (small : source.utf8ByteSize + 1 < Numeral.bound32) :
    ∃ stream, ofSource keywords source = some stream ∧
      stream.Mirrors source (.ofSource keywords source) := by
  rcases ByteLexer.ofSource_stands keywords small with ⟨lexer, before, starts, goesOn, stands⟩
  refine ⟨⟨lexer, #[], 0, none⟩, ?_, stands.text, rfl, rfl, ⟨rfl, rfl, goesOn, before, stands⟩,
    (by decide : 0 < Numeral.bound64), ?_⟩
  · rw [ofSource, starts]
    rfl
  · have represents := TokenStream.ofSource_represents keywords source
    have atMost := lex_length_le keywords source
    rw [represents.tokens, IndexedTokens.ofLexed, Lexed.withEnd]
    cases (lex keywords source).ending with
    | endOfFile token =>
        simp only [List.length_append, List.length_singleton]
        omega
    | failure error =>
        dsimp only
        omega

namespace Mirrors

variable {stream : ByteStream} {source : String} {model : TokenStream} {index : Nat}

theorem size_eq (mirrors : stream.Mirrors source model) :
    stream.buffer.size = model.buffer.size := by
  rw [mirrors.buffer]

theorem beyond (mirrors : stream.Mirrors source model) (absent : model.buffer[index]? = none) :
    ¬index < stream.buffer.size := by
  rw [mirrors.size_eq]
  exact Nat.not_lt.mpr (Array.getElem?_eq_none_iff.mp absent)

theorem fill_pull (mirrors : stream.Mirrors source model) (goesOn : model.ending = none)
    (absent : model.buffer[index]? = none) :
    ∃ next : ByteStream, stream.fill index = next.fill index ∧
      next.Mirrors source model.pull := by
  have continues := mirrors.continues
  rw [Continues, goesOn] at continues
  rcases continues with ⟨noError, noEnd, running, before, stands⟩
  have beyond := mirrors.beyond absent
  have short : model.pull.tokens.length < Numeral.bound32 :=
    (TokenStream.pull_same goesOn).1 ▸ mirrors.short
  have within : model.pull.cursor < Numeral.bound64 :=
    (TokenStream.pull_same goesOn).2.2 ▸ mirrors.within
  rcases stands.next_eq running with ⟨lexer, passed, later, answers, lexerStands, failed, found⟩
  cases step : model.lexer.next with
  | error error =>
      rw [step] at answers
      refine ⟨{ stream with lexer := lexer, error := some error }, ?_, ?_⟩
      · rw [fill, loop_turn, fillTurn, if_neg beyond, noError, fill, loop_turn, fillTurn,
          if_neg beyond]
        simp only [noEnd, Bool.false_eq_true, if_false, answers]
        rfl
      · rw [TokenStream.pull, step] at short within ⊢
        exact ⟨lexerStands.text, mirrors.cursor, mirrors.buffer, rfl, within, short⟩
  | ok pair =>
      rcases pair with ⟨token, after⟩
      rcases found token after step with ⟨rfl, done⟩
      have buffer : stream.buffer.push token = model.buffer.push token :=
        congrArg (Array.push · token) mirrors.buffer
      rw [step] at answers
      refine ⟨{ stream with lexer := lexer, buffer := stream.buffer.push token }, ?_, ?_⟩
      · rw [fill, loop_turn, fillTurn, if_neg beyond, noError]
        simp only [noEnd, Bool.false_eq_true, if_false, answers]
        refine if_pos ?_
        rw [Array.size_push]
        omega
      · rw [TokenStream.pull, step] at short within ⊢
        dsimp only at short within ⊢
        by_cases isLast : token.kind = .endOfFile
        · rw [if_pos isLast] at short within ⊢
          exact ⟨lexerStands.text, mirrors.cursor, buffer, ⟨noError, isLast, Array.back?_push⟩,
            within, short⟩
        · have kind : (stream.buffer.push token).back?.any (·.kind = .endOfFile) = false := by
            rw [Array.back?_push]
            exact decide_eq_false isLast
          rw [if_neg isLast] at short within ⊢
          refine ⟨lexerStands.text, mirrors.cursor, buffer, ?_, within, short⟩
          rw [Continues, goesOn]
          exact ⟨noError, kind, by rw [done, decide_eq_false isLast], passed, lexerStands⟩

theorem peekIndex_of_fill {after : ByteStream} {token : Token}
    (fills : stream.fill index = some (.ok (), after))
    (last : after.buffer[min index (after.buffer.size - 1)]? = some token) :
    stream.peekIndex index = some (.ok token, after) := by
  have bound := (Array.getElem?_eq_some_iff.mp last).1
  rw [peekIndex, fills]
  simp only [Option.bind_eq_bind, Option.bind_some]
  rw [subtract?_of_le (by omega)]
  simp only [Option.bind_some, last]
  rfl

theorem peekIndex_eq (mirrors : stream.Mirrors source model) (index : Nat) :
    ∃ after, stream.peekIndex index = some ((model.peekIndex index).1, after) ∧
      after.Mirrors source (model.peekIndex index).2 := by
  fun_induction TokenStream.peekIndex model index generalizing stream with
  | case1 model token present =>
      have within : index < stream.buffer.size := by
        rw [mirrors.size_eq]
        exact (Array.getElem?_eq_some_iff.mp present).1
      refine ⟨stream, peekIndex_of_fill ?_ ?_, mirrors⟩
      · rw [fill, loop_turn, fillTurn, if_pos within]
        rfl
      · rw [Nat.min_eq_left (by omega), mirrors.buffer, present]
  | case2 model absent token known =>
      have beyond := mirrors.beyond absent
      have continues := mirrors.continues
      rw [Continues, known] at continues
      rcases continues with ⟨noError, isLast, back⟩
      have ended : stream.buffer.back?.any (·.kind = .endOfFile) = true := by
        rw [back]
        exact decide_eq_true isLast
      refine ⟨stream, peekIndex_of_fill ?_ ?_, mirrors⟩
      · rw [fill, loop_turn, fillTurn, if_neg beyond, noError]
        simp only [ended, if_true]
        rfl
      · rw [Nat.min_eq_right (by omega), ← Array.back?_eq_getElem?]
        exact back
  | case3 model absent error known =>
      have beyond := mirrors.beyond absent
      have continues := mirrors.continues
      rw [Continues, known] at continues
      refine ⟨stream, ?_, mirrors⟩
      rw [peekIndex, fill, loop_turn, fillTurn, if_neg beyond, continues]
      rfl
  | case4 model absent goesOn induction =>
      rcases mirrors.fill_pull goesOn absent with ⟨next, fills, nextMirrors⟩
      have same : stream.peekIndex index = next.peekIndex index := by
        rw [peekIndex, peekIndex, fills]
      rw [same]
      exact induction nextMirrors

theorem peek_eq (mirrors : stream.Mirrors source model) {ahead : Nat}
    (fits : model.cursor + ahead < Numeral.bound64) :
    ∃ after, stream.peek ahead = some ((model.peek ahead).1, after) ∧
      after.Mirrors source (model.peek ahead).2 := by
  rw [peek, mirrors.cursor, sum?_of_lt fits]
  exact mirrors.peekIndex_eq _

theorem kind_of_lastEnding (mirrors : stream.Mirrors source model) {token : Token}
    (found : model.lastEnding.found = .ok token) : token.kind = .endOfFile := by
  have continues := mirrors.continues
  rw [TokenStream.lastEnding] at found
  cases ending : model.ending with
  | none =>
      have wellFormed := model.lexer.run.endingWellFormed
      rw [ending] at found
      cases last : model.lexer.run.ending with
      | endOfFile token =>
          rw [last] at wellFormed
          rw [Option.getD_none, last] at found
          cases found
          exact wellFormed
      | failure error =>
          rw [Option.getD_none, last] at found
          cases found
  | some known =>
      rw [ending] at found
      rw [Continues, ending] at continues
      cases known with
      | endOfFile token =>
          cases found
          exact continues.2.1
      | failure error => cases found

theorem succ_cursor_lt (mirrors : stream.Mirrors source model) {token : Token}
    (found : (model.peek 0).1 = .ok token) (more : token.kind ≠ .endOfFile) :
    model.cursor + 1 < Numeral.bound64 := by
  have reached := (model.peekIndex_reached (model.cursor + 0)).found
  rw [TokenStream.peek] at found
  rw [found] at reached
  cases present : model.tokens[model.cursor + 0]? with
  | none =>
      rw [present] at reached
      exact absurd (mirrors.kind_of_lastEnding reached.symm) more
  | some other =>
      have inRange := (List.getElem?_eq_some_iff.mp present).1
      have short := mirrors.short
      simp only [Numeral.bound32, Numeral.bound64] at short ⊢
      omega

theorem advance_eq (mirrors : stream.Mirrors source model) :
    ∃ after, stream.advance = some (model.advance.1, after) ∧
      after.Mirrors source model.advance.2 := by
  have here : model.cursor + 0 < Numeral.bound64 := mirrors.within
  rcases mirrors.peek_eq here with ⟨after, peeks, afterMirrors⟩
  have sameCursor := (model.peekIndex_reached (model.cursor + 0)).cursor
  have next (token : Token) (found : (model.peekIndex (model.cursor + 0)).1 = .ok token)
      (more : token.kind ≠ .endOfFile) : model.cursor + 1 < Numeral.bound64 :=
    mirrors.succ_cursor_lt found more
  rw [advance, peeks, TokenStream.advance, TokenStream.peek]
  rw [TokenStream.peek] at afterMirrors
  revert afterMirrors sameCursor next
  generalize model.peekIndex (model.cursor + 0) = peeked
  rcases peeked with ⟨error | token, later⟩
  · intro afterMirrors sameCursor next
    exact ⟨after, rfl, afterMirrors⟩
  · intro afterMirrors sameCursor next
    simp only [Option.bind_eq_bind, Option.bind_some]
    by_cases isLast : token.kind = .endOfFile
    · rw [if_pos isLast, if_pos isLast]
      exact ⟨after, rfl, afterMirrors⟩
    · have fits : later.cursor + 1 < Numeral.bound64 := by
        have bound := next token rfl isLast
        dsimp only at sameCursor
        omega
      rw [if_neg isLast, if_neg isLast, afterMirrors.cursor, sum?_of_lt fits]
      exact ⟨_, rfl, afterMirrors.text, rfl, afterMirrors.buffer, afterMirrors.continues, fits,
        afterMirrors.short⟩

theorem respond_eq (mirrors : stream.Mirrors source model) {request : Request}
    (fits : request.Fits model.cursor) :
    ∃ after, stream.respond request = some ((model.respond request).1, after) ∧
      after.Mirrors source (model.respond request).2 := by
  cases request with
  | peek ahead =>
      rcases mirrors.peek_eq fits with ⟨after, peeks, afterMirrors⟩
      refine ⟨after, ?_, afterMirrors⟩
      rw [respond, peeks]
      rfl
  | peekKind ahead =>
      rcases mirrors.peek_eq fits with ⟨after, peeks, afterMirrors⟩
      refine ⟨after, ?_, afterMirrors⟩
      rw [respond, peeks]
      rfl
  | advance =>
      rcases mirrors.advance_eq with ⟨after, advances, afterMirrors⟩
      refine ⟨after, ?_, afterMirrors⟩
      rw [respond, advances]
      rfl
  | checkpoint =>
      refine ⟨stream, ?_, mirrors⟩
      rw [respond, mirrors.cursor]
      rfl
  | restore mark =>
      exact ⟨_, rfl, mirrors.text, rfl, mirrors.buffer, mirrors.continues, fits, mirrors.short⟩
  | consumedSince mark =>
      have notAfter : mark.index ≤ model.cursor := fits
      refine ⟨stream, ?_, mirrors⟩
      rw [respond, mirrors.cursor, subtract?_of_le notAfter, TokenStream.respond,
        TokenStream.consumedSince, if_pos notAfter]
      rfl

theorem transcript?_eq (mirrors : stream.Mirrors source model) {requests : List Request}
    (serves : model.Serves requests) :
    stream.transcript? requests =
      some (transcript TokenStream.respond TokenStream.buffered model requests) := by
  induction requests generalizing stream model with
  | nil => rfl
  | cons request later induction =>
      rcases mirrors.respond_eq serves.1 with ⟨after, answers, afterMirrors⟩
      rw [ByteStream.transcript?, answers]
      simp only [Option.bind_eq_bind, Option.bind_some, induction afterMirrors serves.2, transcript,
        afterMirrors.size_eq]
      rfl

end Mirrors

end ByteStream

end TypedScript
