import TypedScript.Token.Lexer

/-!
A cursor over the tokens of a text that reads the text only as far as it is asked to. Tokens are
kept once read, so a place to come back to is just a number of tokens.
-/

namespace TypedScript

structure TokenStream where
  /-- Reads the tokens that are not in the buffer yet. -/
  lexer : Lexer
  buffer : Array Token
  cursor : Nat
  /-- Why there are no more tokens, once that is known. -/
  ending : Option Ending

namespace TokenStream

structure Mark where
  index : Nat
deriving DecidableEq, Repr

def ofSource (keywords : KeywordSet) (source : String) : TokenStream :=
  ⟨Lexer.ofSource keywords source, #[], 0, none⟩

def pull (stream : TokenStream) : TokenStream :=
  match stream.lexer.next with
  | .error error => { stream with ending := some (.failure error) }
  | .ok (token, after) =>
      if token.kind = .endOfFile then
        { stream with buffer := stream.buffer.push token, ending := some (.endOfFile token) }
      else
        { stream with lexer := after, buffer := stream.buffer.push token }

def left (stream : TokenStream) : Nat :=
  if stream.ending.isSome then 0 else stream.lexer.rest.length + 1

theorem pull_left_lt {stream : TokenStream} (goesOn : stream.ending = none) :
    stream.pull.left < stream.left := by
  unfold pull
  split
  · simp [left, goesOn]
  · next token after found =>
      split
      · simp [left, goesOn]
      · next more =>
          have less := Lexer.next_rest_length_lt found more
          simp only [left, goesOn, Option.isSome_none, Bool.false_eq_true, if_false]
          omega

/-- The token with a given index, and the stream that has read that far. An index beyond the end
gives the end-of-file token; an index at or beyond an error gives the error. -/
def peekIndex (stream : TokenStream) (index : Nat) : Except LexicalError Token × TokenStream :=
  match stream.buffer[index]? with
  | some token => (.ok token, stream)
  | none =>
      match _goesOn : stream.ending with
      | some (.endOfFile token) => (.ok token, stream)
      | some (.failure error) => (.error error, stream)
      | none => stream.pull.peekIndex index
termination_by stream.left
decreasing_by exact pull_left_lt _goesOn

def peek (stream : TokenStream) (ahead : Nat) : Except LexicalError Token × TokenStream :=
  stream.peekIndex (stream.cursor + ahead)

def peekKind (stream : TokenStream) (ahead : Nat) :
    Except LexicalError TokenKind × TokenStream :=
  let (token, after) := stream.peek ahead
  (token.map (·.kind), after)

/-- Takes the token at the cursor. The cursor stays at an error and at the end of the text. -/
def advance (stream : TokenStream) : Except LexicalError Token × TokenStream :=
  match stream.peek 0 with
  | (.error error, after) => (.error error, after)
  | (.ok token, after) =>
      if token.kind = .endOfFile then (.ok token, after)
      else (.ok token, { after with cursor := after.cursor + 1 })

def checkpoint (stream : TokenStream) : Mark :=
  ⟨stream.cursor⟩

def restore (stream : TokenStream) (mark : Mark) : TokenStream :=
  { stream with cursor := mark.index }

/-- The number of tokens taken since a mark; none if the mark lies after the cursor. -/
def consumedSince (stream : TokenStream) (mark : Mark) : Option Nat :=
  if mark.index ≤ stream.cursor then some (stream.cursor - mark.index) else none

/-- How many tokens have been read, the end-of-file token included. -/
def buffered (stream : TokenStream) : Nat :=
  stream.buffer.size

end TokenStream

end TypedScript
