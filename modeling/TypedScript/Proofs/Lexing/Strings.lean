import TypedScript.Proofs.Lexing.Basic

/-!
How a text is written as a string: a backslash stands before the quote and before a backslash, and
the two characters that end a line in a string are written as letters. Main statement: in either
kind of quotes, every text can be written so that the only token of what is written denotes it.
-/

namespace TypedScript

namespace Escape

def write (quote char : Char) : List Char :=
  if char = '\\' then ['\\', '\\']
  else if char = quote then ['\\', quote]
  else if char = '\n' then ['\\', 'n']
  else if char = '\r' then ['\\', 'r']
  else [char]

def isWritten (quote char : Char) : Bool :=
  char == '\\' || char == quote || char == '\n' || char == '\r'

def literal (quote : Char) (value : String) : String :=
  String.ofList (quote :: (value.toList.flatMap (write quote) ++ [quote]))

variable {quote : Char}

theorem write_cases (either : quote = '"' ∨ quote = '\'') (char : Char) :
    (isWritten quote char = true ∧ ∃ letter, letter ∉ ['x', 'u', '\r'] ∧
      write quote char = ['\\', letter] ∧ simple letter = [char]) ∨
    isWritten quote char = false ∧ write quote char = [char] := by
  by_cases backslash : char = '\\'
  · subst backslash
    exact .inl ⟨by simp [isWritten], '\\', by decide, by simp [write], rfl⟩
  by_cases isQuote : char = quote
  · subst isQuote
    refine .inl ⟨by simp [isWritten], char, ?_⟩
    rcases either with rfl | rfl
    · exact ⟨by decide, rfl, rfl⟩
    · exact ⟨by decide, rfl, rfl⟩
  by_cases line : char = '\n'
  · subst line
    exact .inl ⟨by simp [isWritten], 'n', by decide, by simp [write, isQuote], rfl⟩
  by_cases carriage : char = '\r'
  · subst carriage
    exact .inl ⟨by simp [isWritten], 'r', by decide, by simp [write, isQuote], rfl⟩
  · exact .inr ⟨by simp [isWritten, backslash, isQuote, line, carriage],
      by simp [write, backslash, isQuote, line, carriage]⟩

theorem resolve_write (either : quote = '"' ∨ quote = '\'') (chars : List Char) :
    resolve (chars.flatMap (write quote)) = chars := by
  induction chars with
  | nil => simp [resolve]
  | cons char chars induction =>
      rw [List.flatMap_cons]
      rcases write_cases either char with ⟨_, letter, others, written, stands⟩ | ⟨plain, written⟩
      · simp only [List.mem_cons, List.not_mem_nil, or_false, not_or] at others
        rw [written, List.cons_append, List.singleton_append, resolve.eq_7]
        · rw [stands, induction, List.singleton_append]
        · exact others.1
        · exact fun _ isLetter _ => others.2.1 isLetter
        · exact others.2.1
        · exact fun _ isLetter _ => others.2.2 isLetter
      · have noBackslash : char ≠ '\\' := by
          rintro rfl
          simp [isWritten] at plain
        rw [written, List.singleton_append, resolve]
        · rw [induction]
        all_goals simp_all

theorem flatMap_write (either : quote = '"' ∨ quote = '\'') {chars : List Char}
    (plain : chars.any (isWritten quote) = false) : chars.flatMap (write quote) = chars := by
  induction chars with
  | nil => rfl
  | cons char chars induction =>
      rw [List.any_cons, Bool.or_eq_false_iff] at plain
      rcases write_cases either char with ⟨written, _⟩ | ⟨_, written⟩
      · rw [plain.1] at written
        cases written
      · rw [List.flatMap_cons, written, induction plain.2, List.singleton_append]

theorem stringTail?_write (either : quote = '"' ∨ quote = '\'') (chars rest : List Char)
    (here : Position) :
    ∃ after, Scan.stringTail? quote (chars.flatMap (write quote) ++ quote :: rest) here =
      some ⟨chars.flatMap (write quote) ++ [quote], rest, after,
        chars.any (isWritten quote)⟩ := by
  induction chars generalizing here with
  | nil => rcases either with rfl | rfl <;> exact ⟨_, rfl⟩
  | cons char chars induction =>
      rw [List.flatMap_cons, List.any_cons, List.append_assoc, List.append_assoc]
      rcases write_cases either char with ⟨escaped, letter, others, written, _⟩ | ⟨plain, written⟩
      · rcases induction (Scan.afterEscape here letter) with ⟨after, found⟩
        refine ⟨after, ?_⟩
        rw [written, escaped, List.cons_append, List.singleton_append, Scan.stringTail?.eq_3, found]
        · rfl
        · rintro _ rfl _
          simp at others
      · rcases induction (here.step char) with ⟨after, found⟩
        refine ⟨after, ?_⟩
        rw [plain]
        simp only [isWritten, Bool.or_eq_false_iff, beq_eq_false_iff_ne] at plain
        rcases plain with ⟨⟨⟨noBackslash, noQuote⟩, noLine⟩, noReturn⟩
        rw [written, List.singleton_append, Scan.stringTail?.eq_4, if_neg (by simpa using noQuote),
          if_neg (by simp [noLine, noReturn]), found]
        · simp [Scan.StringTail.addPlain]
        · exact fun _ backslash _ => noBackslash backslash
        · exact fun _ _ backslash _ => noBackslash backslash

theorem scan_literal (keywords : KeywordSet) (either : quote = '"' ∨ quote = '\'')
    (chars rest : List Char) (here : Position) :
    ∃ after, Scan.scan keywords quote (chars.flatMap (write quote) ++ quote :: rest) here =
      .ok ⟨.stringLiteral, quote :: (chars.flatMap (write quote) ++ [quote]), rest, after,
        chars.any (isWritten quote)⟩ := by
  have isQuote : Scan.isQuote quote = true := by
    rcases either with rfl | rfl <;> rfl
  rcases stringTail?_write either chars rest (here.step quote) with ⟨after, found⟩
  refine ⟨after, ?_⟩
  rw [Scan.scan_eq, if_pos isQuote, found]

theorem stringValue?_literal (either : quote = '"' ∨ quote = '\'') (value : String)
    (position : Position) (stop : Nat) (afterLineBreak : Bool) :
    (Token.mk .stringLiteral (literal quote value) position stop afterLineBreak
      (value.toList.any (isWritten quote))).stringValue? = some value := by
  have size : ¬(literal quote value).utf8ByteSize < 2 := by
    have positive := quote.utf8Size_pos
    simp only [literal, utf8ByteSize_ofList, byteLength_cons, byteLength_append, byteLength_nil]
    omega
  have body : ∀ hasEscape, (Token.mk .stringLiteral (literal quote value) position stop
      afterLineBreak hasEscape).body = value.toList.flatMap (write quote) := by
    intro hasEscape
    simp [Token.body, literal]
  simp only [Token.stringValue?, bne_self_eq_false, Bool.false_or, decide_eq_true_eq, size,
    if_false, body]
  cases written : value.toList.any (isWritten quote) with
  | true => rw [if_pos rfl, resolve_write either, String.ofList_toList]
  | false => rw [if_neg Bool.false_ne_true, flatMap_write either written, String.ofList_toList]

end Escape

end TypedScript
