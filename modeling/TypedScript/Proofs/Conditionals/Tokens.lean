import TypedScript.Proofs.Lexing.Parentheses

/-!
The tokens of a conditional whose true branch stands in parentheses. Main statement: the tokens of
both branches are those that they have by themselves, moved.
-/

namespace TypedScript

def conditionalText (name source other : String) : String :=
  name ++ " ? (" ++ source ++ ") : " ++ other

/-- The tokens `passed` and then those of another text up to its end, `amount` later. -/
structure Lexed.Continues (lexed : Lexed) (passed rest : List Token) (amount : Nat)
    (other : Lexed) : Prop where
  tokens : lexed.tokens = passed ++ rest
  goOn : GoOnAlike (Later amount) False other.tokens other.ending rest lexed.ending
  ended : ∃ last, other.ending = .endOfFile last

structure ConditionalTokens (keywords : KeywordSet) (name source other : String)
    (condition question opening : Token) (inner : List Token) (closing colon : Token)
    (later : List Token) : Prop where
  tokens : (lex keywords (conditionalText name source other)).tokens =
    condition :: question :: opening :: (inner ++ closing :: colon :: later)
  isName : condition.kind = .identifier
  named : condition.text = name
  place : condition.span = ⟨0, name.utf8ByteSize⟩
  isQuestion : question.kind = .punctuator .question
  opens : opening.kind = .punctuator .openParen
  openingSpan : opening.span = ⟨name.utf8ByteSize + 3, name.utf8ByteSize + 4⟩
  closes : closing.kind = .punctuator .closeParen
  closingStop : closing.stop = name.utf8ByteSize + source.utf8ByteSize + 5
  isColon : colon.kind = .punctuator .colon
  colonStop : colon.stop ≤ name.utf8ByteSize + source.utf8ByteSize + 8
  branch : ∃ opened : Lexed,
    opened.Continues [opening] inner (name.utf8ByteSize + 4) (lex keywords source)
  parenthesized : ∃ closed : Lexed,
    closed.Continues [] (opening :: (inner ++ [closing])) (name.utf8ByteSize + 3)
      (lex keywords ("(" ++ source ++ ")"))
  goOn : GoOnAlike (Later (name.utf8ByteSize + source.utf8ByteSize + 8)) False
    (lex keywords other).tokens (lex keywords other).ending later
    (lex keywords (conditionalText name source other)).ending

namespace Lexer

theorem run_of_mark (keywords : KeywordSet) {mark : Punctuator}
    (plain : mark ∉ [Punctuator.greaterThanEquals, .slash, .slashEquals]) (rest : List Char)
    (here : Position) :
    ∃ token there, token.kind = .punctuator mark ∧ token.stop ≤ there.offset ∧
      there.offset = here.offset + byteLength mark.spelling.toList + 2 ∧
      (mk keywords (' ' :: (mark.spelling.toList ++ ' ' :: rest)) here).run.tokens =
        token :: (mk keywords rest there).run.tokens ∧
      (mk keywords (' ' :: (mark.spelling.toList ++ ' ' :: rest)) here).run.ending =
        (mk keywords rest there).run.ending := by
  rcases run_of_blank keywords (mark.spelling.toList ++ ' ' :: rest) here with ⟨blank, blankEnding⟩
  have written : Lexeme.write [.mark mark] = mark.spelling.toList ++ [' '] :=
    Lexeme.write_cons (.mark mark) []
  rcases @passes_of_lexemes [.mark mark] ⟨keywords, mark.spelling.toList ++ ' ' :: rest,
    here.step ' '⟩ rest (by simpa using Lexeme.mark_readable plain)
    (by rw [written, List.append_assoc]; rfl) with ⟨tokens, there, passes, lexemes, _, offset⟩
  rcases List.map_eq_singleton_iff.mp lexemes with ⟨token, rfl, lexeme⟩
  refine ⟨token, there, congrArg Lexeme.kind lexeme, passes.stops token (by simp), ?_, ?_, ?_⟩
  · have width : ' '.utf8Size = 1 := rfl
    rw [offset, written, byteLength_append, byteLength_cons, byteLength_nil]
    simp only [Position.step]
    omega
  · rw [blank, passes.tokens]
    rfl
  · rw [blankEnding, passes.ending]

end Lexer

theorem toList_conditionalText (name source other : String) :
    (conditionalText name source other).toList =
      name.toList ++ ' ' :: (Punctuator.question.spelling.toList ++ ' ' :: '(' ::
        (source.toList ++ ')' :: ' ' :: (Punctuator.colon.spelling.toList ++
          ' ' :: other.toList))) := by
  simp [conditionalText, Punctuator.spelling]

theorem conditionalText_noLine {name : String} (isName : Lexeme.isNameText name = true)
    (source other : String) : ¬['#', '!'] <+: (conditionalText name source other).toList := by
  rcases @Lexeme.name_readable .empty _ isName with ⟨first, chars, text, _, scans⟩
  have text : name.toList = first :: chars := text
  rw [toList_conditionalText, text, List.cons_append, List.cons_prefix_cons]
  rintro ⟨rfl, _⟩
  rcases scans [] .origin with ⟨_, _, found, _⟩
  cases found

theorem toList_parenthesized (source : String) :
    ("(" ++ source ++ ")").toList = '(' :: (source.toList ++ [')']) := by
  simp

theorem parenthesized_noLine (source : String) :
    ¬['#', '!'] <+: ("(" ++ source ++ ")").toList := by
  simp

theorem parenthesized_ended {keywords : KeywordSet} {source : String} {last : Token}
    (noLine : ¬['#', '!'] <+: source.toList)
    (ended : (lex keywords source).ending = .endOfFile last)
    (clear : EndsWithoutComment keywords source) :
    ∃ parenthesizedLast,
      (lex keywords ("(" ++ source ++ ")")).ending = .endOfFile parenthesizedLast := by
  rcases Lexer.run_opened keywords .origin with ⟨_, _, _, _, opened⟩
  rcases Lexer.run_closed noLine ended clear (Position.origin.step '(') with
    ⟨_, place, _, _, _, closed⟩
  have finished := (Lexer.run_of_end (@Lexer.next_of_end ⟨keywords, [], place⟩ rfl) rfl).2
  rw [lex, Lexer.ofSource_plain keywords (parenthesized_noLine source), toList_parenthesized,
    (opened _).2, (closed _).2, finished]
  exact ⟨_, rfl⟩

theorem conditionalTokens {keywords : KeywordSet} {name source other : String} {last : Token}
    (isName : Lexeme.isNameText name = true) (plain : keywords.lookup name = none)
    (noLine : ¬['#', '!'] <+: source.toList) (otherNoLine : ¬['#', '!'] <+: other.toList)
    (ended : (lex keywords source).ending = .endOfFile last)
    (clear : EndsWithoutComment keywords source) :
    ∃ condition question opening inner closing colon later,
      ConditionalTokens keywords name source other condition question opening inner closing colon
        later := by
  have read := Lexer.ofSource_plain keywords (conditionalText_noLine isName source other)
  rcases @Lexer.next_of_lexeme ⟨keywords, (conditionalText name source other).toList, .origin⟩ _ _
    (Lexeme.word_readable isName plain) (toList_conditionalText name source other) with
    ⟨condition, after, found, more, lexeme, _, start, stop, offset⟩
  rcases Lexer.run_of_token found more with ⟨tokens, ending⟩
  rcases @Lexer.run_of_mark keywords .question (by decide) _ after with
    ⟨question, here, isQuestion, _, hereOffset, questionTokens, questionEnding⟩
  rcases Lexer.run_opened keywords here with ⟨opening, opens, openingStart, openingStop, opened⟩
  rcases Lexer.run_closed noLine ended clear (here.step '(') with
    ⟨closing, there, closes, closingStop, thereOffset, closed⟩
  rcases @Lexer.run_of_mark keywords .colon (by decide) other.toList there with
    ⟨colon, behind, isColon, colonStop, behindOffset, colonTokens, colonEnding⟩
  have questionLength : byteLength Punctuator.question.spelling.toList = 1 := rfl
  have colonLength : byteLength Punctuator.colon.spelling.toList = 1 := rfl
  have afterOffset : after.offset = name.utf8ByteSize :=
    offset.trans ((Nat.zero_add _).trans (byteLength_toList name))
  have atOpening : here.offset = name.utf8ByteSize + 3 := by omega
  have atBranch : (here.step '(').offset = name.utf8ByteSize + 4 := congrArg (· + 1) atOpening
  have atOther : behind.offset = name.utf8ByteSize + source.utf8ByteSize + 8 := by omega
  refine ⟨condition, question, opening,
    (Lexer.mk keywords source.toList (here.step '(')).run.tokens, closing, colon,
    (Lexer.mk keywords other.toList behind).run.tokens, ?_⟩
  have wholeTokens : (lex keywords (conditionalText name source other)).tokens =
      condition :: question :: opening ::
        ((Lexer.mk keywords source.toList (here.step '(')).run.tokens ++
          closing :: colon :: (Lexer.mk keywords other.toList behind).run.tokens) := by
    rw [lex, read, tokens, questionTokens, (opened _).1, (closed _).1, colonTokens]
  have wholeEnding : (lex keywords (conditionalText name source other)).ending =
      (Lexer.mk keywords other.toList behind).run.ending := by
    rw [lex, read, ending, questionEnding, (opened _).2, (closed _).2, colonEnding]
  refine ⟨wholeTokens, congrArg Lexeme.kind lexeme, congrArg Lexeme.text lexeme, ?_, isQuestion,
    opens, ?_, closes, by omega, isColon, by omega, ?_, ?_, ?_⟩
  · rw [Token.span, start, stop, afterOffset]
    rfl
  · rw [Token.span, openingStart, openingStop, atOpening]
  · have moved := Lexer.run_moved keywords noLine (here.step '(')
    rw [atBranch, ← (opened _).2] at moved
    exact ⟨(Lexer.mk keywords ('(' :: source.toList) here).run, (opened _).1, moved, last, ended⟩
  · have moved := Lexer.run_moved keywords (parenthesized_noLine source) here
    have nothing := (Lexer.run_of_end (@Lexer.next_of_end ⟨keywords, [], there⟩ rfl) rfl).1
    have tokens : (Lexer.mk keywords ("(" ++ source ++ ")").toList here).run.tokens =
        opening :: ((Lexer.mk keywords source.toList (here.step '(')).run.tokens ++ [closing]) := by
      rw [toList_parenthesized, (opened _).1, (closed _).1, nothing]
    rw [atOpening, tokens] at moved
    exact ⟨_, tokens, moved, parenthesized_ended noLine ended clear⟩
  · have moved := Lexer.run_moved keywords otherNoLine behind
    rwa [atOther, ← wholeEnding] at moved

end TypedScript
