import TypedScript.Parser.Error
import TypedScript.Token.Lexer
import TypedScript.Tree.Basic

/-!
Parsers are functions of the tokens that lie ahead. A parser that fails still says how far it got,
so that another parser may go on from there.
-/

namespace TypedScript

@[ext]
structure Cursor where
  ahead : List Token
  ending : Ending
  /-- Where the last token before this place ends, zero if there is none. -/
  lastStop : Nat
  wellFormed : ∀ token ∈ ahead, token.WellFormed
  endingWellFormed : ending.WellFormed
deriving Repr

namespace Cursor

def ofLexed (lexed : Lexed) : Cursor :=
  ⟨lexed.tokens, lexed.ending, 0, lexed.wellFormed, lexed.endingWellFormed⟩

/-- The token `count` places ahead. Beyond the last token stands the end-of-file token or the error
that the text ends with. -/
def peek (cursor : Cursor) (count : Nat) : Except LexicalError Token :=
  match cursor.ahead[count]? with
  | some token => .ok token
  | none =>
      match cursor.ending with
      | .endOfFile token => .ok token
      | .failure error => .error error

/-- The place after the next token; the last token is never passed. -/
def next (cursor : Cursor) : Cursor :=
  match split : cursor.ahead with
  | [] => cursor
  | token :: rest =>
      { cursor with
        ahead := rest
        lastStop := token.stop
        wellFormed := fun later member =>
          cursor.wellFormed later (split ▸ List.mem_cons_of_mem token member) }

def skip (cursor : Cursor) : Nat → Cursor
  | 0 => cursor
  | count + 1 => cursor.next.skip count

theorem next_ahead (cursor : Cursor) : cursor.next.ahead = cursor.ahead.tail := by
  unfold next
  split
  · next empty => rw [empty, List.tail_nil]
  · next token rest split =>
      change rest = cursor.ahead.tail
      rw [split, List.tail_cons]

theorem next_ending (cursor : Cursor) : cursor.next.ending = cursor.ending := by
  unfold next
  split <;> rfl

theorem next_lastStop (cursor : Cursor) :
    cursor.next.lastStop = (cursor.ahead.head?.map (·.stop)).getD cursor.lastStop := by
  unfold next
  split
  · next empty =>
      rw [empty]
      rfl
  · next token rest split =>
      change token.stop = _
      rw [split]
      rfl

theorem skip_succ (cursor : Cursor) (count : Nat) :
    cursor.skip (count + 1) = (cursor.skip count).next := by
  induction count generalizing cursor with
  | zero => rfl
  | succ count induction => exact induction cursor.next

theorem skip_skip (cursor : Cursor) (first second : Nat) :
    (cursor.skip first).skip second = cursor.skip (first + second) := by
  induction second with
  | zero => rfl
  | succ second induction => rw [skip_succ, induction, ← skip_succ, Nat.add_assoc]

theorem skip_ahead (cursor : Cursor) (count : Nat) :
    (cursor.skip count).ahead = cursor.ahead.drop count := by
  induction count with
  | zero => rfl
  | succ count induction => rw [skip_succ, next_ahead, induction, List.tail_drop]

theorem skip_ending (cursor : Cursor) (count : Nat) :
    (cursor.skip count).ending = cursor.ending := by
  induction count with
  | zero => rfl
  | succ count induction => rw [skip_succ, next_ending, induction]

theorem skip_peek (cursor : Cursor) (first second : Nat) :
    (cursor.skip first).peek second = cursor.peek (first + second) := by
  rw [peek, peek, skip_ahead, skip_ending, List.getElem?_drop]

theorem next_peek (cursor : Cursor) (count : Nat) :
    cursor.next.peek count = cursor.peek (count + 1) := by
  rw [Nat.add_comm]
  exact skip_peek cursor 1 count

/-- A token that is not the end of the text is among the tokens ahead. -/
theorem getElem?_of_peek {cursor : Cursor} {index : Nat} {token : Token}
    (found : cursor.peek index = .ok token) (more : token.kind ≠ .endOfFile) :
    cursor.ahead[index]? = some token := by
  rw [peek] at found
  cases place : cursor.ahead[index]? with
  | some other =>
      rw [place] at found
      rw [Except.ok.inj found]
  | none =>
      rw [place] at found
      have wellFormed := cursor.endingWellFormed
      cases ending : cursor.ending with
      | endOfFile last =>
          rw [ending] at found wellFormed
          cases found
          exact absurd wellFormed more
      | failure error =>
          rw [ending] at found
          cases found

end Cursor

/-- A parser of `α`: it looks at the tokens ahead, and takes some of them or fails. -/
abbrev Parse (α : Type) := EStateM SyntaxError Cursor α

namespace Parse

/-! Looking ahead. Asking for a token that the text does not have fails with the error that the
text ends with. -/

def peek (count : Nat) : Parse Token := fun cursor =>
  match cursor.peek count with
  | .ok token => .ok token cursor
  | .error error => .error (.lexical error) cursor

def current : Parse Token :=
  peek 0

def kindAhead (count : Nat) : Parse TokenKind := do
  return (← peek count).kind

def currentStart : Parse Nat := do
  return (← current).start

def atMark (mark : Punctuator) : Parse Bool := do
  return (← current).isMark mark

def atWord (word : String) : Parse Bool := do
  return (← current).isWord word

/-! Failing. -/

def failAt (fault : GrammarFault) (expected : Expected) : Parse α := do
  throw (.grammar ⟨fault, expected, ← current⟩)

def unexpected (expected : Expected) : Parse α := do
  if (← current).kind = .endOfFile then failAt .unexpectedEnd expected
  else failAt .unexpectedToken expected

def identifierExpected : Parse α := do
  if (← current).kind = .endOfFile then failAt .unexpectedEnd .identifier
  else failAt .identifierExpected .identifier

def typeExpected : Parse α :=
  failAt .typeExpected .type

/-! Taking tokens. -/

/-- Takes the next token. The end-of-file token may be taken any number of times. -/
def take : Parse Token := do
  let token ← current
  modify Cursor.next
  return token

def accept (mark : Punctuator) : Parse Bool := do
  if ← atMark mark then
    let _ ← take
    return true
  else
    return false

def acceptWord (word : String) : Parse Bool := do
  if ← atWord word then
    let _ ← take
    return true
  else
    return false

def expectKind (kind : TokenKind) : Parse Token := do
  if (← current).kind = kind then take else unexpected (.token kind)

def expect (mark : Punctuator) : Parse Token :=
  expectKind (.punctuator mark)

def expectKeyword (word : Keyword) : Parse Token :=
  expectKind (.keyword word)

def expectWord (word : String) : Parse Token := do
  if ← atWord word then take else unexpected (.word word)

def afterMark (mark : Punctuator) (item : Parse α) : Parse (Option α) := do
  if ← accept mark then some <$> item else return none

def afterWord (word : String) (item : Parse α) : Parse (Option α) := do
  if ← acceptWord word then some <$> item else return none

def spanFrom (start : Nat) : Parse Span := do
  return ⟨start, max (← get).lastStop start⟩

/-! Repetition. -/

inductive Turn (α : Type) where
  | stop
  | last (item : α)
  | more (item : α)

/-- Takes turns until one of them is the last. A turn that took no token is never followed by
another. -/
def repeated (turn : Parse (Turn α)) : Parse (List α) := fun cursor =>
  match turn cursor with
  | .error error after => .error error after
  | .ok .stop after => .ok [] after
  | .ok (.last item) after => .ok [item] after
  | .ok (.more item) after =>
      if after.ahead.length < cursor.ahead.length then
        match repeated turn after with
        | .error error later => .error error later
        | .ok items later => .ok (item :: items) later
      else
        .ok [item] after
termination_by cursor => cursor.ahead.length

def commaTurn (item : α) : Parse (Turn α) := do
  if ← accept .comma then return .more item else return .last item

def listTurn (closing : Punctuator) (item : Parse α) : Parse (Turn α) := do
  if ← atMark closing then return .stop else commaTurn (← item)

def commaList (closing : Punctuator) (item : Parse α) : Parse (List α) :=
  repeated (listTurn closing item)

/-! Trial. -/

/-- Tries a parser. Its tokens stay taken only if it yields a value; otherwise nothing has happened,
unless the error is one that `isFinal` says to stand. -/
def speculate (isFinal : SyntaxError → Bool) (attempt : Parse (Option α)) : Parse (Option α) :=
  fun cursor =>
    match attempt cursor with
    | .ok (some value) after => .ok (some value) after
    | .ok none _ => .ok none cursor
    | .error error after => if isFinal error then .error error after else .ok none cursor

/-! Names and literals. -/

def identifierOf (token : Token) : Identifier :=
  ⟨token.span, token.text⟩

def identifier : Parse Identifier := do
  if (← current).kind = .identifier then return identifierOf (← take)
  else identifierExpected

/-- A name where reserved words may stand too: of a member, a property or an import. -/
def identifierName : Parse Identifier := do
  if (← current).kind.isName then return identifierOf (← take)
  else identifierExpected

def literalOf? (token : Token) : Option Literal :=
  match token.kind with
  | .stringLiteral => some ⟨token.span, .string (token.stringValue?.getD "")⟩
  | .numericLiteral => some ⟨token.span, .number token.text⟩
  | .identifier =>
      if token.text == "true" then some ⟨token.span, .boolean true⟩
      else if token.text == "false" then some ⟨token.span, .boolean false⟩
      else if token.text == "null" then some ⟨token.span, .null⟩
      else none
  | _ => none

end Parse

end TypedScript
