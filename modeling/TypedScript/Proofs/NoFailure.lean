import TypedScript.Proofs.Checked.Counters
import TypedScript.Proofs.Checked.LineMap
import TypedScript.Proofs.Checked.Places

/-!
Errors are values. Main statement: with a text that is at least two bytes shorter than 32 bits can
count nothing fails, whatever the keywords and the limit are. Every slice of the text and every
index is in range, no sum needs more bits than it has, no difference goes below zero and every loop
ends, in lexers and streams wherever they may get, in the loops of the grammar that count, in the
ranges of trees and errors, and in line maps; and what is computed on the way is what the
definitions without checks give.
-/

namespace TypedScript

/-- A lexer never fails, whatever is asked of it and however often, and gives the tokens of the text
one by one. -/
structure ByteLexer.Sound (lexer : ByteLexer) (lexed : Lexed) : Prop where
  answers : ∀ calls, (lexer.answers calls).isSome
  tokens : ∀ count, lexer.answers (.replicate count .next) =
    some ((List.range count).map fun index => lexed.results[index]?)

/-- Nothing that may be done with a stream fails where it is: a request that fits there, the search
for the end of the parentheses that come next, and the search for the end of a body. -/
structure ByteStream.Sound (stream : ByteStream) (lexed : Lexed) : Prop where
  responds : ∀ request : Request, request.Fits stream.cursor → (stream.respond request).isSome
  looks : ∀ token before, stream.peek 0 = some (.ok token, before) →
    token.isMark .openParen = true → ∃ after, before.arrowLookahead 0 0 =
      some (Parse.arrowLookahead (lexed.tokens.drop stream.cursor), after)
  skips : ∃ after, stream.skipBody ⟨stream.cursor⟩ 1 =
    some (Views.bodyEnd lexed.ending 0 (Parse.bodyLength? 0 (lexed.tokens.drop stream.cursor)),
      after)

def ByteStream.Follows (stream : ByteStream) (model : TokenStream) (requests : List Request) :
    Prop :=
  model.Serves requests → stream.transcript? requests =
    some (transcript TokenStream.respond TokenStream.buffered model requests)

structure NoFailure (options : ParseOptions) (source : String) : Prop where
  lexer : ∃ lexer, ByteLexer.ofSource options.keywords source = some lexer ∧
    lexer.Sound (lex options.keywords source)
  stream : ∃ stream, ByteStream.ofSource options.keywords source = some stream ∧
    ∀ requests, stream.Follows (.ofSource options.keywords source) requests
  reachable : ∀ stream, ByteStream.Reachable options.keywords source stream →
    stream.Sound (lex options.keywords source)
  tokens : ∀ token ∈ (lex options.keywords source).withEnd,
    token.span.length32? = some token.span.length ∧ token.cutValue? = some token.stringValue?
  recorded : lexRecorded options.keywords source = lex options.keywords source
  program : Measured (fun program => [.program program]) (parseProgram options source)
  type : Measured (fun type => [.type type]) (parseType options source)
  expression : Measured (fun expression => [.expression expression])
    (parseExpression options source)
  lineMap : LineMap.ofText? source = some (LineMap.ofText source)
  position : ∀ offset, (LineMap.ofText source).position? source offset =
    some ((LineMap.ofText source).position source offset)

theorem ByteStream.Reachable.sound {keywords : KeywordSet} {source : String} {stream : ByteStream}
    (small : source.utf8ByteSize + 1 < Numeral.bound32)
    (reachable : Reachable keywords source stream) : stream.Sound (lex keywords source) where
  responds _ fits := (reachable.views small).responds fits
  looks token before peeks opens := by
    rcases (reachable.views small).looks (lex_length_le keywords source)
      (Nat.lt_of_succ_lt small) peeks opens with ⟨after, looks, _⟩
    exact ⟨after, looks⟩
  skips := by
    rcases (reachable.views small).skips (lex_length_le keywords source) small with
      ⟨after, skips, _⟩
    exact ⟨after, skips⟩

/-- In a text for whose offsets, lines and columns 32 bits are enough, nothing fails. -/
theorem noFailure_of_small (options : ParseOptions) (source : String)
    (small : source.utf8ByteSize + 1 < Numeral.bound32) : NoFailure options source where
  lexer := by
    rcases ByteLexer.ofSource_stands options.keywords small with
      ⟨lexer, before, opens, goesOn, stands⟩
    exact ⟨lexer, opens, ByteLexer.answers_isSome stands, ByteLexer.answers_next stands goesOn⟩
  stream := by
    rcases ByteStream.ofSource_mirrors options.keywords small with ⟨stream, opens, mirrors⟩
    exact ⟨stream, opens, fun requests serves => mirrors.transcript?_eq serves⟩
  reachable _ reachable := reachable.sound small
  tokens _ member := ⟨token_length32? options.keywords (Nat.lt_of_succ_lt small) member,
    token_cutValue? options.keywords source member⟩
  recorded := lexRecorded_eq options.keywords small
  program := parseProgram_measured options (Nat.lt_of_succ_lt small)
  type := parseType_measured options (Nat.lt_of_succ_lt small)
  expression := parseExpression_measured options (Nat.lt_of_succ_lt small)
  lineMap := LineMap.ofText?_eq (Nat.lt_of_succ_lt small)
  position offset := LineMap.position?_eq small offset

/-- Not even where braces and parentheses do not match and a comment is not closed. -/
theorem noFailure_of_unmatched :
    "let é = (\"\\\u2028\") => ) \x7b\x7b\x7d /* \u2029".utf8ByteSize + 1 < Numeral.bound32 ∧
      NoFailure .default "let é = (\"\\\u2028\") => ) \x7b\x7b\x7d /* \u2029" := by
  have small :
      "let é = (\"\\\u2028\") => ) \x7b\x7b\x7d /* \u2029".utf8ByteSize + 1 <
        Numeral.bound32 := by
    decide
  exact ⟨small, noFailure_of_small .default _ small⟩

/-- Once a token is taken, the index of a token far enough ahead needs more than 64 bits. From a
mark that was set later than where a stream has gone back to, the tokens since then are fewer than
none. And on a line of as many letters as 32 bits can count, the column of the end has no number,
although its offset has one. -/
theorem noFailure_not_all :
    ((ByteStream.ofSource ParseOptions.default.keywords "a b").bind
        (·.transcript? [.advance, .peek (Numeral.bound64 - 1)])) = none ∧
      ((ByteStream.ofSource ParseOptions.default.keywords "a b").bind
        (·.transcript? [.checkpoint, .advance, .checkpoint, .restore ⟨0⟩, .consumedSince ⟨1⟩])) =
          none ∧
      ∃ source : String, source.utf8ByteSize < Numeral.bound32 ∧
        (LineMap.ofText source).position? source source.utf8ByteSize = none := by
  have long : Numeral.bound32 - 1 + 1 = Numeral.bound32 := by decide
  exact ⟨by decide +kernel, by decide +kernel, LineMap.exists_position?_eq_none long⟩

end TypedScript
