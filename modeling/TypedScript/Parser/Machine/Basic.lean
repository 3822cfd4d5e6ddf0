import TypedScript.Parser.Functions
import TypedScript.Tree.Stored

/-!
A parser with a state of its own. It counts the levels of nesting it is in, and gives them back when
it leaves them, whether it has read something or failed; and it marks places that it may return to.
The nodes that it builds are stored with the kind that is named where they are finished.
-/

namespace TypedScript

/-- A place among the tokens, and how many levels of nesting lead to it. -/
structure ParserState where
  cursor : Cursor
  depth : Nat

structure Snapshot where
  mark : Cursor
  lastStop : Nat
  depth : Nat

namespace ParserState

def ofLexed (lexed : Lexed) : ParserState :=
  ⟨.ofLexed lexed, 0⟩

def snapshot (state : ParserState) : Snapshot :=
  ⟨state.cursor, state.cursor.lastStop, state.depth⟩

def rewind (_ : ParserState) (snapshot : Snapshot) : ParserState :=
  ⟨{ snapshot.mark with lastStop := snapshot.lastStop }, snapshot.depth⟩

end ParserState

abbrev Machine (α : Type) := EStateM SyntaxError ParserState α

namespace Machine

def ofParse (parser : Parse α) : Machine α := fun state =>
  match parser state.cursor with
  | .ok value after => .ok value { state with cursor := after }
  | .error error after => .error error { state with cursor := after }

instance : MonadLift Parse Machine := ⟨ofParse⟩

open Parse

/-! Levels. -/

/-- Takes one more level, or fails at the next token if there are no more than `limit`. The level is
not given back. -/
def deepen (limit : Nat) (what : Expected) : Machine Unit := do
  if limit ≤ (← get).depth then failAt (.nestingLimitExceeded limit) what
  else modify fun state => { state with depth := state.depth + 1 }

def chained (body : Machine α) : Machine α := fun state =>
  match body state with
  | .ok value after => .ok value { after with depth := state.depth }
  | .error error after => .error error { after with depth := state.depth }

def nested (limit : Nat) (what : Expected) (body : Machine α) : Machine α :=
  chained do
    deepen limit what
    body

/-! Trial and repetition. -/

/-- Tries a parser. Its tokens stay taken only if it yields a value; otherwise it returns to where
it began, unless the error is final. -/
def speculate (attempt : Machine (Option α)) : Machine (Option α) := fun state =>
  match attempt state with
  | .ok (some value) after => .ok (some value) after
  | .ok none after => .ok none (after.rewind state.snapshot)
  | .error error after =>
      if error.isFinal then .error error after else .ok none (after.rewind state.snapshot)

/-- Takes turns until one of them is the last. A turn that took no token is never followed by
another. -/
def repeated (turn : Machine (Turn α)) : Machine (List α) := fun state =>
  match turn state with
  | .error error after => .error error after
  | .ok .stop after => .ok [] after
  | .ok (.last item) after => .ok [item] after
  | .ok (.more item) after =>
      if after.cursor.ahead.length < state.cursor.ahead.length then
        match repeated turn after with
        | .error error later => .error error later
        | .ok items later => .ok (item :: items) later
      else
        .ok [item] after
termination_by state => state.cursor.ahead.length

def skip (count : Nat) : Machine Unit :=
  ofParse (modify (·.skip count))

def afterMark (mark : Punctuator) (item : Machine α) : Machine (Option α) := do
  if ← accept mark then some <$> item else return none

def afterWord (word : String) (item : Machine α) : Machine (Option α) := do
  if ← acceptWord word then some <$> item else return none

def commaTurn (item : α) : Machine (Turn α) := do
  if ← accept .comma then return .more item else return .last item

def listTurn (closing : Punctuator) (item : Machine α) : Machine (Turn α) := do
  if ← atMark closing then return .stop else commaTurn (← item)

def commaList (closing : Punctuator) (item : Machine α) : Machine (List α) :=
  repeated (listTurn closing item)

/-! Nodes. -/

def finish (kind : Kind) (start : Nat) : Machine NodeData := do
  return ⟨kind, ← spanFrom start⟩

def identifierFromToken (token : Token) : Stored.Identifier :=
  ⟨⟨.token .identifier, token.span⟩, token.text⟩

def literalFromToken? (token : Token) : Option Stored.Literal :=
  match token.kind with
  | .stringLiteral =>
      some ⟨⟨.token .stringLiteral, token.span⟩, .string (token.stringValue?.getD "")⟩
  | .numericLiteral => some ⟨⟨.token .numericLiteral, token.span⟩, .number token.text⟩
  | .identifier =>
      if token.text == "true" then some ⟨⟨.node .trueLiteral, token.span⟩, .boolean true⟩
      else if token.text == "false" then some ⟨⟨.node .falseLiteral, token.span⟩, .boolean false⟩
      else if token.text == "null" then some ⟨⟨.node .nullLiteral, token.span⟩, .null⟩
      else none
  | _ => none

def moduleNameFromToken (token : Token) : Stored.ModuleName :=
  ⟨⟨.token .stringLiteral, token.span⟩, token.stringValue?.getD ""⟩

def identifier : Machine Stored.Identifier := do
  if (← current).kind = .identifier then return identifierFromToken (← take)
  else identifierExpected

def identifierName : Machine Stored.Identifier := do
  if (← current).kind.isName then return identifierFromToken (← take)
  else identifierExpected

def functionBody : Machine Stored.FunctionBody := do
  let start ← currentStart
  let _ ← expect .openBrace
  let ahead := (← get).cursor.ahead
  match bodyLength? 0 ahead with
  | some count =>
      skip count
      let _ ← expect .closeBrace
      return ⟨← finish (.node .functionBody) start, low32 count⟩
  | none =>
      skip ahead.length
      unexpected (.token (.punctuator .closeBrace))

/-! Calls. -/

/-- The limit of nesting, and the productions that are called after a level has been taken. The
loops that wrap a node around the one before take a level in every turn; the rest of such a loop is
called like a production. -/
structure Calls where
  limit : Nat
  type : Machine Stored.TypeExpr
  arraySuffix : (start : Nat) → (element : Stored.TypeExpr) → Machine Stored.TypeExpr
  assignment : Machine Stored.Expression
  unary : Machine Stored.Expression
  newExpression : Machine Stored.Expression
  operator : (start minimum : Nat) → (left : Stored.Expression) → (operator : Punctuator) →
    (width precedence : Nat) → Machine Stored.Expression
  suffix : (start : Nat) → (allowCalls : Bool) → (base : Stored.Expression) →
    Machine Stored.Expression
  typedSuffix : (start : Nat) → (allowCalls : Bool) → (base : Stored.Expression) →
    (typeArguments : List Stored.TypeExpr) → Machine Stored.Expression

namespace Calls

def nestedType (calls : Calls) : Machine Stored.TypeExpr :=
  nested calls.limit .type calls.type

def nestedExpression (calls : Calls) : Machine Stored.Expression :=
  nested calls.limit .expression calls.assignment

end Calls

end Machine

end TypedScript
