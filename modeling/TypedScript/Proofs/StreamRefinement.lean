import TypedScript.Token.Stream

/-!
A stream of tokens and the tokens themselves. A stream reads its text only as far as it is asked
to, keeps what it has read, and remembers how the text ended. Main statement: whatever it is asked,
and in whatever order, it answers like the complete list of tokens with an index into it, and it
never holds more tokens than the furthest request called for.
-/

namespace TypedScript

/-! Requests and answers. -/

/-- A use of a stream. A mark may be any place at all, so also one that was given out before. -/
inductive Request where
  | peek (ahead : Nat)
  | peekKind (ahead : Nat)
  | advance
  | checkpoint
  | restore (mark : TokenStream.Mark)
  | consumedSince (mark : TokenStream.Mark)
deriving DecidableEq, Repr

inductive Answer where
  | token (found : Except LexicalError Token)
  | kind (found : Except LexicalError TokenKind)
  | mark (mark : TokenStream.Mark)
  | restored
  | consumed (count : Option Nat)

/-- The answers to requests that are made one after another, each with the number of tokens that
are buffered after it. -/
def transcript {State : Type} (respond : State → Request → Answer × State)
    (buffered : State → Nat) (state : State) : List Request → List (Answer × Nat)
  | [] => []
  | request :: later =>
      let (answer, after) := respond state request
      (answer, buffered after) :: transcript respond buffered after later

/-- Two systems whose states stay related while they answer alike have the same transcripts. -/
theorem transcript_eq {State Other : Type} {respond : State → Request → Answer × State}
    {otherRespond : Other → Request → Answer × Other} {buffered : State → Nat}
    {otherBuffered : Other → Nat} {related : State → Other → Prop}
    (sizes : ∀ {state other}, related state other → buffered state = otherBuffered other)
    (step : ∀ {state other}, related state other → ∀ request,
      (respond state request).1 = (otherRespond other request).1 ∧
        related (respond state request).2 (otherRespond other request).2)
    {state : State} {other : Other} (start : related state other) (requests : List Request) :
    transcript respond buffered state requests =
      transcript otherRespond otherBuffered other requests := by
  induction requests generalizing state other with
  | nil => rfl
  | cons request later induction =>
      rcases step start request with ⟨answers, after⟩
      simp only [transcript, answers, sizes after, induction after]

namespace TokenStream

def respond (stream : TokenStream) : Request → Answer × TokenStream
  | .peek ahead =>
      let (found, after) := stream.peek ahead
      (.token found, after)
  | .peekKind ahead =>
      let (found, after) := stream.peekKind ahead
      (.kind found, after)
  | .advance =>
      let (found, after) := stream.advance
      (.token found, after)
  | .checkpoint => (.mark stream.checkpoint, stream)
  | .restore mark => (.restored, stream.restore mark)
  | .consumedSince mark => (.consumed (stream.consumedSince mark), stream)

end TokenStream

/-! The list with an index. -/

def Ending.found : Ending → Except LexicalError Token
  | .endOfFile token => .ok token
  | .failure error => .error error

structure IndexedTokens where
  lexed : Lexed
  cursor : Nat
  /-- One more than the largest index that was asked for, zero if none was. -/
  reach : Nat

namespace IndexedTokens

def ofLexed (lexed : Lexed) : IndexedTokens :=
  ⟨lexed, 0, 0⟩

/-- The token with an index. Beyond the last token stands the end-of-file token or the error that
the text ends with. -/
def tokenAt (tokens : IndexedTokens) (index : Nat) : Except LexicalError Token :=
  match tokens.lexed.withEnd[index]? with
  | some token => .ok token
  | none => tokens.lexed.ending.found

def asked (tokens : IndexedTokens) (index : Nat) : IndexedTokens :=
  { tokens with reach := max tokens.reach (index + 1) }

/-- The place after the next token, unless the text ends here. -/
def moved (tokens : IndexedTokens) : IndexedTokens :=
  if tokens.cursor < tokens.lexed.tokens.length then { tokens with cursor := tokens.cursor + 1 }
  else tokens

def respond (tokens : IndexedTokens) : Request → Answer × IndexedTokens
  | .peek ahead =>
      (.token (tokens.tokenAt (tokens.cursor + ahead)), tokens.asked (tokens.cursor + ahead))
  | .peekKind ahead =>
      (.kind ((tokens.tokenAt (tokens.cursor + ahead)).map (·.kind)),
        tokens.asked (tokens.cursor + ahead))
  | .advance => (.token (tokens.tokenAt tokens.cursor), (tokens.asked tokens.cursor).moved)
  | .checkpoint => (.mark ⟨tokens.cursor⟩, tokens)
  | .restore mark => (.restored, { tokens with cursor := mark.index })
  | .consumedSince mark =>
      (.consumed (if mark.index ≤ tokens.cursor then some (tokens.cursor - mark.index) else none),
        tokens)

/-- What a stream should hold: as many tokens as were asked for, if there are so many. -/
def buffered (tokens : IndexedTokens) : Nat :=
  min tokens.lexed.withEnd.length tokens.reach

/-! Before the end of the text a token has its own index; from there on all indices are alike. -/

theorem tokenAt_of_getElem? {tokens : IndexedTokens} {index : Nat} {token : Token}
    (present : tokens.lexed.tokens[index]? = some token) : tokens.tokenAt index = .ok token := by
  have within : index < tokens.lexed.tokens.length := (List.getElem?_eq_some_iff.mp present).1
  have same : tokens.lexed.withEnd[index]? = some token := by
    unfold Lexed.withEnd
    split
    · rw [List.getElem?_append_left within, present]
    · exact present
  rw [tokenAt, same]

theorem tokenAt_of_lt {tokens : IndexedTokens} {index : Nat}
    (within : index < tokens.lexed.tokens.length) :
    ∃ token, tokens.tokenAt index = .ok token ∧ token.kind ≠ .endOfFile :=
  ⟨tokens.lexed.tokens[index], tokenAt_of_getElem? (List.getElem?_eq_getElem within),
    (tokens.lexed.wellFormed _ (List.getElem_mem within)).notEnd⟩

theorem tokenAt_of_le {tokens : IndexedTokens} {index : Nat}
    (beyond : tokens.lexed.tokens.length ≤ index) :
    tokens.tokenAt index = tokens.lexed.ending.found := by
  unfold tokenAt Lexed.withEnd
  cases tokens.lexed.ending with
  | endOfFile last =>
      simp only [List.getElem?_append_right beyond, List.getElem?_singleton]
      split
      · next found =>
          split at found
          · cases found
            rfl
          · cases found
      · rfl
  | failure error => simp only [List.getElem?_eq_none beyond]

end IndexedTokens

/-! What a lexer has left to read. -/

namespace Lexer

theorem run_of_error {lexer : Lexer} {error : LexicalError} (found : lexer.next = .error error) :
    lexer.run.withEnd = [] ∧ lexer.run.ending = .failure error := by
  fun_cases run lexer with
  | case1 other otherFound =>
      rw [found] at otherFound
      cases otherFound
      exact ⟨rfl, rfl⟩
  | case2 _ _ otherFound =>
      rw [found] at otherFound
      cases otherFound
  | case3 _ _ otherFound =>
      rw [found] at otherFound
      cases otherFound

theorem run_of_next {lexer after : Lexer} {token : Token}
    (found : lexer.next = .ok (token, after)) :
    lexer.run.withEnd = token :: (if token.kind = .endOfFile then [] else after.run.withEnd) ∧
      lexer.run.ending =
        if token.kind = .endOfFile then .endOfFile token else after.run.ending := by
  fun_cases run lexer with
  | case1 _ otherFound =>
      rw [found] at otherFound
      cases otherFound
  | case2 _ _ otherFound last =>
      rw [found] at otherFound
      cases otherFound
      simp [Lexed.withEnd, last]
  | case3 _ _ otherFound more later =>
      rw [found] at otherFound
      cases otherFound
      simp only [more, if_false, Lexed.withEnd]
      cases after.run.ending <;> simp [later]

end Lexer

/-! What a stream stands for. -/

namespace TokenStream

def tokens (stream : TokenStream) : List Token :=
  match stream.ending with
  | none => stream.buffer.toList ++ stream.lexer.run.withEnd
  | some _ => stream.buffer.toList

def lastEnding (stream : TokenStream) : Ending :=
  stream.ending.getD stream.lexer.run.ending

theorem tokens_eq_append (stream : TokenStream) :
    ∃ later, stream.tokens = stream.buffer.toList ++ later := by
  unfold tokens
  split
  · exact ⟨_, rfl⟩
  · exact ⟨[], (List.append_nil _).symm⟩

theorem buffer_size_le (stream : TokenStream) : stream.buffer.size ≤ stream.tokens.length := by
  rcases stream.tokens_eq_append with ⟨later, split⟩
  rw [split, List.length_append, Array.length_toList]
  exact Nat.le_add_right _ _

/-- Reading one more token changes nothing of what the stream stands for. -/
theorem pull_same {stream : TokenStream} (goesOn : stream.ending = none) :
    stream.pull.tokens = stream.tokens ∧ stream.pull.lastEnding = stream.lastEnding ∧
      stream.pull.cursor = stream.cursor := by
  unfold pull
  split
  · next error found =>
      rcases Lexer.run_of_error found with ⟨withEnd, ending⟩
      simp [tokens, lastEnding, goesOn, withEnd, ending]
  · next token after found =>
      rcases Lexer.run_of_next found with ⟨withEnd, ending⟩
      split
      · next last => simp [tokens, lastEnding, goesOn, withEnd, ending, last]
      · next more => simp [tokens, lastEnding, goesOn, withEnd, ending, more]

theorem pull_buffer (stream : TokenStream) :
    stream.buffer.size ≤ stream.pull.buffer.size ∧
      stream.pull.buffer.size ≤ stream.buffer.size + 1 := by
  unfold pull
  split
  · exact ⟨Nat.le_refl _, Nat.le_succ _⟩
  · split <;> simp

structure Reached (stream after : TokenStream) (index : Nat)
    (found : Except LexicalError Token) : Prop where
  tokens : after.tokens = stream.tokens
  lastEnding : after.lastEnding = stream.lastEnding
  cursor : after.cursor = stream.cursor
  buffer : after.buffer.size = max stream.buffer.size (min stream.tokens.length (index + 1))
  found : found = match stream.tokens[index]? with
    | some token => .ok token
    | none => stream.lastEnding.found

theorem reached_of_buffer {stream : TokenStream} {index : Nat} {token : Token}
    (present : stream.buffer[index]? = some token) :
    stream.Reached stream index (.ok token) := by
  have within : index < stream.buffer.size := (Array.getElem?_eq_some_iff.mp present).1
  have bound := stream.buffer_size_le
  rcases stream.tokens_eq_append with ⟨later, split⟩
  refine ⟨rfl, rfl, rfl, by omega, ?_⟩
  rw [split, List.getElem?_append_left (by simpa using within), Array.getElem?_toList, present]

theorem reached_of_ending {stream : TokenStream} {index : Nat} {ending : Ending}
    (absent : stream.buffer[index]? = none) (known : stream.ending = some ending) :
    stream.Reached stream index ending.found := by
  have beyond : stream.buffer.size ≤ index := Array.getElem?_eq_none_iff.mp absent
  have all : stream.tokens = stream.buffer.toList := by rw [tokens, known]
  refine ⟨rfl, rfl, rfl, ?_, ?_⟩
  · rw [all, Array.length_toList]
    omega
  · rw [all, Array.getElem?_toList, absent, lastEnding, known]
    rfl

theorem peekIndex_reached (stream : TokenStream) (index : Nat) :
    stream.Reached (stream.peekIndex index).2 index (stream.peekIndex index).1 := by
  fun_induction peekIndex stream index with
  | case1 stream token present => exact reached_of_buffer present
  | case2 stream absent token known => exact reached_of_ending absent known
  | case3 stream absent error known => exact reached_of_ending absent known
  | case4 stream absent goesOn induction =>
      -- One more token is buffered, while buffer and rest together stay the same.
      have beyond : stream.buffer.size ≤ index := Array.getElem?_eq_none_iff.mp absent
      have bound := stream.pull.buffer_size_le
      have grown := stream.pull_buffer
      rcases pull_same goesOn with ⟨sameTokens, sameEnding, sameCursor⟩
      rw [sameTokens] at bound
      have size := induction.buffer
      have found := induction.found
      rw [sameTokens] at size found
      rw [sameEnding] at found
      exact ⟨induction.tokens.trans sameTokens, induction.lastEnding.trans sameEnding,
        induction.cursor.trans sameCursor, by omega, found⟩

/-! One request. -/

structure Represents (stream : TokenStream) (indexed : IndexedTokens) : Prop where
  cursor : stream.cursor = indexed.cursor
  tokens : stream.tokens = indexed.lexed.withEnd
  lastEnding : stream.lastEnding = indexed.lexed.ending
  buffered : stream.buffered = indexed.buffered

theorem ofSource_represents (keywords : KeywordSet) (source : String) :
    (ofSource keywords source).Represents (.ofLexed (lex keywords source)) :=
  ⟨rfl, rfl, rfl, by simp [buffered, ofSource, IndexedTokens.buffered, IndexedTokens.ofLexed]⟩

variable {stream : TokenStream} {indexed : IndexedTokens}

namespace Represents

theorem peekIndex (represents : stream.Represents indexed) (index : Nat) :
    (stream.peekIndex index).1 = indexed.tokenAt index ∧
      (stream.peekIndex index).2.Represents (indexed.asked index) := by
  have reached := stream.peekIndex_reached index
  constructor
  · rw [reached.found, represents.tokens, represents.lastEnding, IndexedTokens.tokenAt]
  · refine ⟨reached.cursor.trans represents.cursor, reached.tokens.trans represents.tokens,
      reached.lastEnding.trans represents.lastEnding, ?_⟩
    have size := reached.buffer
    have before := represents.buffered
    rw [represents.tokens] at size
    simp only [TokenStream.buffered, IndexedTokens.buffered, IndexedTokens.asked] at before ⊢
    omega

theorem peek (represents : stream.Represents indexed) (ahead : Nat) :
    (stream.peek ahead).1 = indexed.tokenAt (indexed.cursor + ahead) ∧
      (stream.peek ahead).2.Represents (indexed.asked (indexed.cursor + ahead)) := by
  rw [← represents.cursor]
  exact represents.peekIndex _

theorem advance (represents : stream.Represents indexed) :
    stream.advance.1 = indexed.tokenAt indexed.cursor ∧
      stream.advance.2.Represents (indexed.asked indexed.cursor).moved := by
  rcases represents.peek 0 with ⟨found, represented⟩
  rw [Nat.add_zero] at found represented
  unfold TokenStream.advance
  revert found represented
  generalize stream.peek 0 = peeked
  rcases peeked with ⟨result, after⟩
  rintro rfl represented
  rcases Nat.lt_or_ge indexed.cursor indexed.lexed.tokens.length with within | beyond
  · rcases IndexedTokens.tokenAt_of_lt within with ⟨token, present, more⟩
    have moved : (indexed.asked indexed.cursor).moved =
        { indexed.asked indexed.cursor with cursor := indexed.cursor + 1 } := if_pos within
    simp only [present, more, if_false, moved, true_and]
    exact ⟨congrArg (· + 1) represented.cursor, represented.tokens, represented.lastEnding,
      represented.buffered⟩
  · have stays : (indexed.asked indexed.cursor).moved = indexed.asked indexed.cursor :=
      if_neg (Nat.not_lt.mpr beyond)
    have endingWellFormed := indexed.lexed.endingWellFormed
    rw [IndexedTokens.tokenAt_of_le beyond, stays]
    cases ending : indexed.lexed.ending with
    | endOfFile last =>
        rw [ending] at endingWellFormed
        have isEnd : last.kind = .endOfFile := endingWellFormed
        simp only [Ending.found, isEnd, if_true, true_and]
        exact represented
    | failure error => exact ⟨rfl, represented⟩

end Represents

theorem respond_represents (represents : stream.Represents indexed) (request : Request) :
    (stream.respond request).1 = (indexed.respond request).1 ∧
      (stream.respond request).2.Represents (indexed.respond request).2 := by
  cases request with
  | peek ahead =>
      rcases represents.peek ahead with ⟨found, after⟩
      exact ⟨congrArg Answer.token found, after⟩
  | peekKind ahead =>
      rcases represents.peek ahead with ⟨found, after⟩
      refine ⟨?_, after⟩
      simp only [respond, IndexedTokens.respond, TokenStream.peekKind, found]
  | advance =>
      rcases represents.advance with ⟨found, after⟩
      exact ⟨congrArg Answer.token found, after⟩
  | checkpoint => exact ⟨congrArg (Answer.mark ⟨·⟩) represents.cursor, represents⟩
  | restore mark =>
      exact ⟨rfl, rfl, represents.tokens, represents.lastEnding, represents.buffered⟩
  | consumedSince mark =>
      refine ⟨?_, represents⟩
      simp only [respond, IndexedTokens.respond, consumedSince, represents.cursor]

end TokenStream

/-- A stream answers like the list of all tokens with an index, whatever it is asked, and holds as
many tokens as the furthest request called for. -/
theorem stream_transcript (keywords : KeywordSet) (source : String) (requests : List Request) :
    transcript TokenStream.respond TokenStream.buffered (.ofSource keywords source) requests =
      transcript IndexedTokens.respond IndexedTokens.buffered (.ofLexed (lex keywords source))
        requests :=
  transcript_eq (fun represents => represents.buffered) TokenStream.respond_represents
    (TokenStream.ofSource_represents keywords source) requests

end TypedScript
