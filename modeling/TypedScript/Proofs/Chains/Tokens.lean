import TypedScript.Proofs.Lexing.Basic

/-!
Texts that repeat one link after a name: `a.b.b`, `a()()`, `a + a + a` and `A[][]`. Main statement:
such a text has a token for the name and two tokens for each link.
-/

namespace TypedScript

def Token.onFirstLine (kind : TokenKind) (text : String) (offset : Nat) : Token :=
  ⟨kind, text, ⟨offset, 1, offset + 1⟩, offset + text.length, false, false⟩

inductive Link where
  | property
  | call
  | sum
  | array
deriving DecidableEq, Repr

namespace Link

def text : Link → String
  | .property => ".b"
  | .call => "()"
  | .sum => " + a"
  | .array => "[]"

def base : Link → String
  | .array => "A"
  | _ => "a"

def chain (link : Link) (count : Nat) : String :=
  link.base ++ String.join (List.replicate count link.text)

/-- Where the link with an index begins. The first link has the index zero and stands after a name
of one character. -/
def start (link : Link) (index : Nat) : Nat :=
  1 + link.text.length * index

def nameToken (link : Link) : Token :=
  .onFirstLine .identifier link.base 0

def first (link : Link) (index : Nat) : Token :=
  match link with
  | .property => .onFirstLine (.punctuator .dot) "." (link.start index)
  | .call => .onFirstLine (.punctuator .openParen) "(" (link.start index)
  | .sum => .onFirstLine (.punctuator .plus) "+" (link.start index + 1)
  | .array => .onFirstLine (.punctuator .openBracket) "[" (link.start index)

def second (link : Link) (index : Nat) : Token :=
  match link with
  | .property => .onFirstLine .identifier "b" (link.start index + 1)
  | .call => .onFirstLine (.punctuator .closeParen) ")" (link.start index + 1)
  | .sum => .onFirstLine .identifier "a" (link.start index + 3)
  | .array => .onFirstLine (.punctuator .closeBracket) "]" (link.start index + 1)

def tokens (link : Link) (index : Nat) : Nat → List Token
  | 0 => []
  | count + 1 => link.first index :: link.second index :: link.tokens (index + 1) count

/-- The end of a text where the link with an index would begin. -/
def last (link : Link) (index : Nat) : Token :=
  .onFirstLine .endOfFile "" (link.start index)

theorem drop_tokens (link : Link) (index : Nat) {passed count : Nat} (enough : passed ≤ count) :
    (link.tokens index count).drop (2 * passed) =
      link.tokens (index + passed) (count - passed) := by
  induction passed generalizing index count with
  | zero => rfl
  | succ passed induction =>
      cases count with
      | zero => cases enough
      | succ count =>
          have rest := induction (index + 1) (Nat.le_of_succ_le_succ enough)
          rw [Nat.add_right_comm] at rest
          rw [Nat.add_sub_add_right, ← Nat.add_assoc, ← rest]
          rfl

/-! Reading the tokens. -/

def chars (link : Link) : Nat → List Char
  | 0 => []
  | count + 1 => link.text.toList ++ link.chars count

theorem toList_chain (link : Link) (count : Nat) :
    (link.chain count).toList = link.base.toList ++ link.chars count := by
  have links : (String.join (List.replicate count link.text)).toList = link.chars count := by
    rw [String.toList_join]
    induction count with
    | zero => rfl
    | succ count induction => rw [List.replicate_succ, List.flatMap_cons, induction, chars]
  rw [chain, String.toList_append, links]

def lexer (keywords : KeywordSet) (rest : List Char) (offset : Nat) : Lexer :=
  ⟨keywords, rest, ⟨offset, 1, offset + 1⟩⟩

theorem next_base (keywords : KeywordSet) (link : Link) (count : Nat) :
    (lexer keywords (link.base.toList ++ link.chars count) 0).next =
      .ok (link.nameToken, lexer keywords (link.chars count) 1) := by
  cases count <;> cases link <;> rfl

theorem next_link (keywords : KeywordSet) (link : Link) (index count : Nat) :
    ∃ between,
      (lexer keywords (link.chars (count + 1)) (link.start index)).next =
        .ok (link.first index, between) ∧
      between.next = .ok (link.second index,
        lexer keywords (link.chars count) (link.start (index + 1))) := by
  cases link with
  | property =>
      refine ⟨lexer keywords ('b' :: property.chars count) (property.start index + 1), rfl, ?_⟩
      cases count <;> rfl
  | call => exact ⟨lexer keywords (')' :: call.chars count) (call.start index + 1), rfl, rfl⟩
  | sum =>
      refine ⟨lexer keywords (' ' :: 'a' :: sum.chars count) (sum.start index + 2), rfl, ?_⟩
      cases count <;> rfl
  | array => exact ⟨lexer keywords (']' :: array.chars count) (array.start index + 1), rfl, rfl⟩

theorem first_more (link : Link) (index : Nat) : (link.first index).kind ≠ .endOfFile := by
  cases link <;> simp [first, Token.onFirstLine]

theorem second_more (link : Link) (index : Nat) : (link.second index).kind ≠ .endOfFile := by
  cases link <;> simp [second, Token.onFirstLine]

theorem run_links (keywords : KeywordSet) (link : Link) (index count : Nat) :
    (lexer keywords (link.chars count) (link.start index)).run.tokens = link.tokens index count ∧
      (lexer keywords (link.chars count) (link.start index)).run.ending =
        .endOfFile (link.last (index + count)) := by
  induction count generalizing index with
  | zero => exact Lexer.run_of_end rfl rfl
  | succ count induction =>
      rcases next_link keywords link index count with ⟨between, first, second⟩
      rcases Lexer.run_of_token first (link.first_more index) with ⟨tokens, ending⟩
      rcases Lexer.run_of_token second (link.second_more index) with ⟨later, laterEnding⟩
      rcases induction (index + 1) with ⟨rest, restEnding⟩
      rw [Nat.add_assoc, Nat.add_comm 1] at restEnding
      rw [tokens, ending, later, laterEnding, rest, restEnding]
      exact ⟨rfl, rfl⟩

theorem lex_chain (keywords : KeywordSet) (link : Link) (count : Nat) :
    (lex keywords (link.chain count)).tokens = link.nameToken :: link.tokens 0 count ∧
      (lex keywords (link.chain count)).ending = .endOfFile (link.last count) := by
  have begins : Lexer.ofSource keywords (link.chain count) =
      lexer keywords (link.base.toList ++ link.chars count) 0 := by
    rw [Lexer.ofSource, toList_chain]
    cases link <;> rfl
  have named : link.nameToken.kind ≠ .endOfFile := by simp [nameToken, Token.onFirstLine]
  rcases Lexer.run_of_token (next_base keywords link count) named with ⟨tokens, ending⟩
  rcases run_links keywords link 0 count with ⟨rest, restEnding⟩
  rw [Nat.zero_add] at restEnding
  rw [lex, begins, tokens, ending]
  exact ⟨congrArg (link.nameToken :: ·) rest, restEnding⟩

end Link

end TypedScript
