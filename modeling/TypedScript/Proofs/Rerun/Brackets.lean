import TypedScript.Parser.Expressions
import TypedScript.Proofs.Reading.Tokens

/-!
Brackets that match. A run of tokens closes the brackets that are open before it, from the innermost
one outwards, and all that it opens itself. Where a rule of the grammar counts brackets of one kind
only, it finds in such a run what it looks for, whatever comes after the run.
-/

namespace TypedScript

namespace TokenKind

def closing? : TokenKind → Option Punctuator
  | .punctuator .openParen => some .closeParen
  | .punctuator .openBracket => some .closeBracket
  | .punctuator .openBrace => some .closeBrace
  | _ => none

def isClosing : TokenKind → Bool
  | .punctuator .closeParen | .punctuator .closeBracket | .punctuator .closeBrace => true
  | _ => false

def isBracket (kind : TokenKind) : Bool :=
  kind.closing?.isSome || kind.isClosing

variable {kind : TokenKind} {closing : Punctuator}

theorem closing?_cases (opens : kind.closing? = some closing) :
    kind = .punctuator .openParen ∧ closing = .closeParen ∨
      kind = .punctuator .openBracket ∧ closing = .closeBracket ∨
      kind = .punctuator .openBrace ∧ closing = .closeBrace := by
  unfold closing? at opens
  split at opens <;> simp_all

theorem isClosing_cases (closes : kind.isClosing = true) :
    kind = .punctuator .closeParen ∨ kind = .punctuator .closeBracket ∨
      kind = .punctuator .closeBrace := by
  unfold isClosing at closes
  split at closes <;> simp_all

theorem bracket_cases (kind : TokenKind) :
    (∃ closing, kind.closing? = some closing) ∨ kind.isClosing = true ∨
      kind.isBracket = false := by
  cases opens : kind.closing? with
  | some closing => exact .inl ⟨closing, rfl⟩
  | none =>
      cases closes : kind.isClosing with
      | true => exact .inr (.inl rfl)
      | false => simp [isBracket, opens, closes]

end TokenKind

/-- Whether the tokens close all brackets that are open before them, and all that they open. The
brackets that are expected stand from the innermost one outwards. -/
def balances (expected : List Punctuator) : List Token → Bool
  | [] => expected.isEmpty
  | token :: rest =>
      match token.kind.closing? with
      | some closing => balances (closing :: expected) rest
      | none =>
          if token.kind.isClosing then
            expected.head?.any token.isMark && balances expected.tail rest
          else
            balances expected rest

section Balance

variable {expected outer : List Punctuator} {closing : Punctuator} {token : Token}
  {rest tokens later : List Token}

theorem balances_nil : balances expected [] = true ↔ expected = [] := by
  rw [balances, List.isEmpty_iff]

theorem balances_open (opens : token.kind.closing? = some closing) :
    balances expected (token :: rest) = balances (closing :: expected) rest := by
  rw [balances, opens]

theorem balances_plain (plain : token.kind.isBracket = false) :
    balances expected (token :: rest) = balances expected rest := by
  simp only [TokenKind.isBracket, Bool.or_eq_false_iff, Option.isSome_eq_false_iff,
    Option.isNone_iff_eq_none] at plain
  rw [balances, plain.1]
  simp only [plain.2, Bool.false_eq_true, if_false]

theorem balances_close (closes : token.kind.isClosing = true) :
    balances expected (token :: rest) = true ↔
      ∃ closing outer, expected = closing :: outer ∧ token.kind = .punctuator closing ∧
        balances outer rest = true := by
  have noOpening : token.kind.closing? = none := by
    rcases TokenKind.isClosing_cases closes with kind | kind | kind <;> rw [kind] <;> rfl
  rw [balances, noOpening]
  simp only [closes, if_true, Bool.and_eq_true]
  cases expected with
  | nil => simp
  | cons closing outer =>
      simp only [List.head?_cons, Option.any_some, Token.isMark_iff, List.tail_cons]
      constructor
      · rintro ⟨kind, inner⟩
        exact ⟨closing, outer, rfl, kind, inner⟩
      · rintro ⟨_, _, ⟨⟩, kind, inner⟩
        exact ⟨kind, inner⟩

theorem balances_unique {other : List Punctuator} (balance : balances expected tokens = true)
    (otherBalance : balances other tokens = true) : expected = other := by
  induction tokens generalizing expected other with
  | nil => rw [balances_nil.mp balance, balances_nil.mp otherBalance]
  | cons token rest induction =>
      rcases token.kind.bracket_cases with ⟨closing, opens⟩ | closes | plain
      · rw [balances_open opens] at balance otherBalance
        exact (List.cons.inj (induction balance otherBalance)).2
      · rcases (balances_close closes).mp balance with ⟨closing, outer, rfl, kind, inner⟩
        rcases (balances_close closes).mp otherBalance with
          ⟨otherClosing, otherOuter, rfl, otherKind, otherInner⟩
        rw [TokenKind.punctuator.inj (kind.symm.trans otherKind), induction inner otherInner]
      · rw [balances_plain plain] at balance otherBalance
        exact induction balance otherBalance

theorem balances_append (balance : balances expected tokens = true)
    (laterBalance : balances outer later = true) :
    balances (expected ++ outer) (tokens ++ later) = true := by
  induction tokens generalizing expected with
  | nil =>
      rw [balances_nil.mp balance]
      exact laterBalance
  | cons token rest induction =>
      rw [List.cons_append]
      rcases token.kind.bracket_cases with ⟨closing, opens⟩ | closes | plain
      · rw [balances_open opens] at balance ⊢
        exact induction balance
      · rcases (balances_close closes).mp balance with ⟨closing, inner, rfl, kind, remains⟩
        exact (balances_close closes).mpr ⟨closing, inner ++ outer, rfl, kind, induction remains⟩
      · rw [balances_plain plain] at balance ⊢
        exact induction balance

theorem exists_balances_of_suffix {part : List Token} (isSuffix : part <:+ tokens)
    (balance : balances expected tokens = true) : ∃ inner, balances inner part = true := by
  induction tokens generalizing expected with
  | nil =>
      rw [List.suffix_nil.mp isSuffix]
      exact ⟨expected, balance⟩
  | cons token rest induction =>
      rcases List.suffix_cons_iff.mp isSuffix with rfl | inside
      · exact ⟨expected, balance⟩
      · rcases token.kind.bracket_cases with ⟨closing, opens⟩ | closes | plain
        · rw [balances_open opens] at balance
          exact induction inside balance
        · rcases (balances_close closes).mp balance with ⟨_, _, _, _, remains⟩
          exact induction inside remains
        · rw [balances_plain plain] at balance
          exact induction inside balance

/-- Where a bracket is closed only after tokens that match, nothing that matches ends with it. -/
theorem eq_nil_of_balances {part : List Token} (balance : balances [] tokens = true)
    (closes : balances [closing] [token] = true) (isSuffix : part <:+ tokens ++ [token])
    (remains : balances [] part = true) : part = [] := by
  rcases List.suffix_concat_iff.mp isSuffix with empty | ⟨before, rfl, inside⟩
  · exact empty
  · rcases exists_balances_of_suffix inside balance with ⟨inner, innerBalance⟩
    have same := balances_unique remains (balances_append innerBalance closes)
    simp at same

end Balance

/-! What a rule that counts finds. -/

namespace Parse

variable {expected : List Punctuator}

theorem isMark_of_plain {token : Token} {mark : Punctuator} (plain : token.kind.isBracket = false)
    (bracket : (TokenKind.punctuator mark).isBracket = true) : token.isMark mark = false := by
  rw [Token.isMark, beq_eq_false_iff_ne]
  rintro kind
  rw [kind, bracket] at plain
  cases plain

theorem bodyLength?_cons (depth : Nat) (token : Token) (rest : List Token) :
    bodyLength? depth (token :: rest) =
      if token.isMark .openBrace then (bodyLength? (depth + 1) rest).map (· + 1)
      else if token.isMark .closeBrace then
        match depth with
        | 0 => some 0
        | outer + 1 => (bodyLength? outer rest).map (· + 1)
      else (bodyLength? depth rest).map (· + 1) := by
  cases depth <;> rfl

theorem afterParens?_cons (depth : Nat) (token : Token) (rest : List Token) :
    afterParens? depth (token :: rest) =
      if token.isMark .openParen then afterParens? (depth + 1) rest
      else if token.isMark .closeParen then
        if depth ≤ 1 then some rest else afterParens? (depth - 1) rest
      else afterParens? depth rest :=
  rfl

theorem exists_body (inner : List Punctuator) {tokens : List Token}
    (balance : balances (inner ++ .closeBrace :: expected) tokens = true) :
    ∃ body closing after, tokens = body ++ closing :: after ∧
      closing.kind = .punctuator .closeBrace ∧ balances expected after = true ∧
      ∀ rest, bodyLength? (inner.count .closeBrace) (tokens ++ rest) = some body.length := by
  induction tokens generalizing inner with
  | nil => exact absurd (balances_nil.mp balance) (by simp)
  | cons token tokens induction =>
      -- What is found after the token is found, one place further, with it.
      have more (deeper : List Punctuator)
          (balance : balances (deeper ++ .closeBrace :: expected) tokens = true)
          (turn : ∀ rest, bodyLength? (inner.count .closeBrace) (token :: rest) =
            (bodyLength? (deeper.count .closeBrace) rest).map (· + 1)) :
          ∃ body closing after, token :: tokens = body ++ closing :: after ∧
            closing.kind = .punctuator .closeBrace ∧ balances expected after = true ∧
            ∀ rest, bodyLength? (inner.count .closeBrace) (token :: tokens ++ rest) =
              some body.length := by
        rcases induction deeper balance with ⟨body, closing, after, rfl, kind, remains, found⟩
        refine ⟨token :: body, closing, after, rfl, kind, remains, fun rest => ?_⟩
        rw [List.cons_append, turn, found rest]
        rfl
      rcases token.kind.bracket_cases with ⟨closing, opens⟩ | closes | plain
      · rw [balances_open opens] at balance
        refine more (closing :: inner) balance fun rest => ?_
        rw [bodyLength?_cons]
        rcases TokenKind.closing?_cases opens with ⟨kind, rfl⟩ | ⟨kind, rfl⟩ | ⟨kind, rfl⟩ <;>
          simp [Token.isMark, kind]
      · rcases (balances_close closes).mp balance with ⟨closing, outer, same, kind, remains⟩
        cases inner with
        | nil =>
            rcases List.cons.inj same with ⟨rfl, rfl⟩
            refine ⟨[], token, tokens, rfl, kind, remains, fun rest => ?_⟩
            rw [List.cons_append]
            rw [bodyLength?_cons]
            simp [Token.isMark, kind]
        | cons first inner =>
            rcases List.cons.inj same with ⟨rfl, rfl⟩
            refine more inner remains fun rest => ?_
            rw [bodyLength?_cons]
            rcases TokenKind.isClosing_cases closes with isMark | isMark | isMark <;>
              cases kind.symm.trans isMark <;> simp [Token.isMark, kind]
      · rw [balances_plain plain] at balance
        refine more inner balance fun rest => ?_
        rw [bodyLength?_cons, isMark_of_plain plain rfl, isMark_of_plain plain rfl]
        rfl

theorem exists_afterParens (inner : List Punctuator) {tokens : List Token}
    (balance : balances (inner ++ .closeParen :: expected) tokens = true) :
    ∃ after, after <:+ tokens ∧ balances expected after = true ∧ ∀ rest,
      afterParens? (inner.count .closeParen + 1) (tokens ++ rest) = some (after ++ rest) := by
  induction tokens generalizing inner with
  | nil => exact absurd (balances_nil.mp balance) (by simp)
  | cons token tokens induction =>
      have more (deeper : List Punctuator)
          (balance : balances (deeper ++ .closeParen :: expected) tokens = true)
          (turn : ∀ rest, afterParens? (inner.count .closeParen + 1) (token :: rest) =
            afterParens? (deeper.count .closeParen + 1) rest) :
          ∃ after, after <:+ token :: tokens ∧ balances expected after = true ∧ ∀ rest,
            afterParens? (inner.count .closeParen + 1) (token :: tokens ++ rest) =
              some (after ++ rest) := by
        rcases induction deeper balance with ⟨after, isSuffix, remains, found⟩
        exact ⟨after, isSuffix.trans (List.suffix_cons _ _), remains,
          fun rest => by rw [List.cons_append, turn, found rest]⟩
      rcases token.kind.bracket_cases with ⟨closing, opens⟩ | closes | plain
      · rw [balances_open opens] at balance
        refine more (closing :: inner) balance fun rest => ?_
        rw [afterParens?_cons]
        rcases TokenKind.closing?_cases opens with ⟨kind, rfl⟩ | ⟨kind, rfl⟩ | ⟨kind, rfl⟩ <;>
          simp [Token.isMark, kind]
      · rcases (balances_close closes).mp balance with ⟨closing, outer, same, kind, remains⟩
        cases inner with
        | nil =>
            rcases List.cons.inj same with ⟨rfl, rfl⟩
            refine ⟨tokens, List.suffix_cons _ _, remains, fun rest => ?_⟩
            rw [List.cons_append]
            rw [afterParens?_cons]
            simp [Token.isMark, kind]
        | cons first inner =>
            rcases List.cons.inj same with ⟨rfl, rfl⟩
            refine more inner remains fun rest => ?_
            rw [afterParens?_cons]
            rcases TokenKind.isClosing_cases closes with isMark | isMark | isMark <;>
              cases kind.symm.trans isMark <;> simp [Token.isMark, kind]
      · rw [balances_plain plain] at balance
        refine more inner balance fun rest => ?_
        rw [afterParens?_cons, isMark_of_plain plain rfl, isMark_of_plain plain rfl]
        rfl

end Parse

end TypedScript
