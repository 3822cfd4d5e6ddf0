import TypedScript.Proofs.Lexing.Separators
import TypedScript.Proofs.Lexing.Shift
import TypedScript.Proofs.Lexing.Writing
import TypedScript.Proofs.Reading.Programs

/-!
Tokens with blanks between them. Each kind of token ends where it did in the text that it was read
from, now that a blank or nothing stands after it. Main statement: the characters of the tokens of
a text, with a blank between every two tokens, have the same tokens.
-/

namespace TypedScript

/-- What stands after a token: nothing, or a blank and any other characters. -/
inductive Spaced : List Char → Prop
  | nothing : Spaced []
  | blank (rest : List Char) : Spaced (' ' :: rest)

def Token.content (token : Token) : TokenKind × String × Bool × Option String :=
  (token.kind, token.text, token.hasEscape, token.stringValue?)

structure Token.Lasting (keywords : KeywordSet) (token : Token) : Prop where
  stands : ∀ {more}, Spaced more → ∀ here broke,
    Trivia.skip .plain (token.text.toList ++ more) here broke =
      ⟨token.text.toList ++ more, here, broke⟩
  scans : ∀ {more}, Spaced more → ∀ here, ∃ first chars after,
    token.text.toList = first :: chars ∧
      Scan.scan keywords first (chars ++ more) here =
        .ok ⟨token.kind, token.text.toList, more, after, token.hasEscape⟩

namespace Scan

variable {keywords : KeywordSet} {first : Char} {rest : List Char} {here : Position}
  {scanned : Scanned}

theorem scan_spaced (found : scan keywords first rest here = .ok scanned) {more : List Char}
    (spaced : Spaced more) (there : Position) :
    ∃ chars after, scanned.text = first :: chars ∧
      scan keywords first (chars ++ more) there =
        .ok ⟨scanned.kind, scanned.text, more, after, scanned.hasEscape⟩ := by
  rcases scan_alone found with ⟨chars, text, alone⟩
  have before : scan keywords first (chars ++ more) here =
      .ok { scanned with rest := more } := by
    cases spaced with
    | nothing => rwa [List.append_nil]
    | blank later => exact scan_before .blank alone later
  rcases scan_anywhere keywords first (chars ++ more) here there with
    ⟨_, failed, _⟩ | ⟨other, after, same, moved⟩
  · cases before.symm.trans failed
  · cases before.symm.trans same
    exact ⟨chars, after, text, moved⟩

theorem solid_of_mark (mark : Punctuator) :
    (mark.spelling.toList.head?.all fun first => decide (Trivia.Solid first)) = true ∨
      mark.spelling.toList = ['/'] ∨ mark.spelling.toList = ['/', '='] := by
  have all : ∀ mark ∈ Punctuator.all,
      (mark.spelling.toList.head?.all fun first => decide (Trivia.Solid first)) = true ∨
        mark.spelling.toList = ['/'] ∨ mark.spelling.toList = ['/', '='] := by
    decide +kernel
  exact all mark mark.mem_all

theorem solid_of_scan (found : scan keywords first rest here = .ok scanned) :
    Trivia.Solid first ∨ scanned.text = ['/'] ∨ scanned.text = ['/', '='] := by
  rcases scan_alone found with ⟨chars, text, _⟩
  cases quoted : isQuote first with
  | true =>
      simp only [isQuote, Bool.or_eq_true, beq_iff_eq] at quoted
      rcases quoted with rfl | rfl
      · exact .inl (by decide)
      · exact .inl (by decide)
  | false =>
      cases starts : isIdentifierStart first with
      | true => exact .inl (Trivia.solid_of_start starts)
      | false =>
          rcases scan_mark_or_number found quoted starts with
            ⟨mark, after, _, _, isMark⟩ | ⟨after, _, isNumber⟩
          · have spelled : scanned.text = mark.spelling.toList := congrArg Scanned.text isMark
            rcases solid_of_mark mark with solid | slash
            · rw [← spelled, text] at solid
              exact .inl (of_decide_eq_true solid)
            · rw [spelled]
              exact .inr slash
          · have number := number_of_scan found (by rw [isNumber]; rfl)
            rw [text] at number
            rcases number.head with ⟨digit, digits, shape, starts⟩
            cases shape
            exact .inl (solid_of_number starts).1

theorem skip_spaced (found : scan keywords first rest here = .ok scanned) {more : List Char}
    (spaced : Spaced more) (there : Position) (broke : Bool) :
    Trivia.skip .plain (scanned.text ++ more) there broke =
      ⟨scanned.text ++ more, there, broke⟩ := by
  rcases solid_of_scan found with solid | slash | slashEquals
  · rcases scan_alone found with ⟨chars, text, _⟩
    rw [text, List.cons_append]
    exact Trivia.skip_solid solid _ _ _
  · rw [slash]
    cases spaced <;> rfl
  · rw [slashEquals]
    cases spaced <;> rfl

end Scan

/-! Whole texts. -/

def spaced (tokens : List Token) : String :=
  String.intercalate " " (tokens.map Token.text)

def following : List Token → List Char
  | [] => []
  | token :: tokens => ' ' :: (spaced (token :: tokens)).toList

theorem toList_spaced (token : Token) (tokens : List Token) :
    (spaced (token :: tokens)).toList = token.text.toList ++ following tokens := by
  cases tokens with
  | nil => simp [spaced, following]
  | cons => simp [spaced, following]

theorem spaced_following (tokens : List Token) : Spaced (following tokens) := by
  cases tokens with
  | nil => exact .nothing
  | cons => exact .blank _

theorem skip_spaced {keywords : KeywordSet} {tokens : List Token}
    (lasting : ∀ token ∈ tokens, token.Lasting keywords) (here : Position) :
    (Trivia.skip .plain (spaced tokens).toList here false).rest = (spaced tokens).toList := by
  cases tokens with
  | nil => rfl
  | cons token tokens =>
      have first := lasting token (List.mem_cons_self ..)
      rw [toList_spaced, first.stands (spaced_following tokens)]

theorem skip_following {keywords : KeywordSet} {tokens : List Token}
    (lasting : ∀ token ∈ tokens, token.Lasting keywords) (here : Position) :
    (Trivia.skip .plain (following tokens) here false).rest = (spaced tokens).toList := by
  cases tokens with
  | nil => rfl
  | cons token tokens => exact skip_spaced lasting (here.step ' ')

/-- No token begins with `#`, so that no first line is skipped. -/
theorem ofSource_spaced {keywords : KeywordSet} {tokens : List Token}
    (lasting : ∀ token ∈ tokens, token.Lasting keywords) :
    Lexer.ofSource keywords (spaced tokens) = ⟨keywords, (spaced tokens).toList, .origin⟩ := by
  refine Lexer.ofSource_plain keywords ?_
  cases tokens with
  | nil => simp [spaced]
  | cons token tokens =>
      have first := lasting token (List.mem_cons_self ..)
      rcases first.scans (spaced_following tokens) .origin with ⟨head, chars, _, text, scans⟩
      rw [toList_spaced, text, List.cons_append, List.cons_prefix_cons]
      rintro ⟨rfl, _⟩
      cases scans

namespace Lexer

theorem next_lasting {lexer after : Lexer} {token : Token}
    (found : lexer.next = .ok (token, after)) (more : token.kind ≠ .endOfFile) :
    token.Lasting lexer.keywords := by
  rcases next_eq_ok found more with ⟨first, rest, scanned, _, scans, rfl, _⟩
  constructor
  · intro more spaced here broke
    rw [String.toList_ofList]
    exact Scan.skip_spaced scans spaced here broke
  · intro more spaced here
    rcases Scan.scan_spaced scans spaced here with ⟨chars, after, text, again⟩
    refine ⟨first, chars, after, ?_⟩
    rw [String.toList_ofList]
    exact ⟨text, again⟩

theorem run_lasting {lexer : Lexer} {token : Token} (member : token ∈ lexer.run.tokens) :
    token.Lasting lexer.keywords := by
  induction lexer using run.induct with
  | case1 lexer error failed => simp [(run_of_fault failed).1] at member
  | case2 lexer last after found isEnd => simp [(run_of_end found isEnd).1] at member
  | case3 lexer first after found more induction =>
      rw [(run_of_token found more).1] at member
      rcases List.mem_cons.mp member with rfl | later
      · exact next_lasting found more
      · have lasting := induction later
        rcases next_eq_ok found more with ⟨_, _, _, _, _, _, rfl⟩
        exact lasting

theorem run_spaced {tokens : List Token} {lexer : Lexer}
    (lasting : ∀ token ∈ tokens, token.Lasting lexer.keywords)
    (gap : lexer.gap.rest = (spaced tokens).toList) :
    lexer.run.tokens.map Token.content = tokens.map Token.content ∧
      ∃ last, lexer.run.ending = .endOfFile last := by
  induction tokens generalizing lexer with
  | nil =>
      rcases run_of_end (next_of_end gap) rfl with ⟨none, ending⟩
      rw [none]
      exact ⟨rfl, _, ending⟩
  | cons token tokens induction =>
      rcases List.forall_mem_cons.mp lasting with ⟨first, others⟩
      rcases first.scans (spaced_following tokens) lexer.gap.position with
        ⟨head, chars, after, text, scans⟩
      rw [toList_spaced, text, List.cons_append] at gap
      rcases run_of_token (next_of_scan gap scans) (Scan.scan_kind scans) with ⟨runs, ends⟩
      rcases @induction { lexer with rest := following tokens, position := after } others
        (skip_following others after) with ⟨same, last, ending⟩
      rw [runs, List.map_cons, same, List.map_cons, ends]
      refine ⟨?_, last, ending⟩
      rw [String.ofList_toList]
      rfl

end Lexer

/-- The tokens of a text, written with a blank between every two of them, are read back: they have
the same kinds, characters and escapes and denote the same, and nothing comes after them. -/
theorem lex_spaced (keywords : KeywordSet) (source : String) :
    (lex keywords (spaced (lex keywords source).tokens)).tokens.map Token.content =
        (lex keywords source).tokens.map Token.content ∧
      ∃ last, (lex keywords (spaced (lex keywords source).tokens)).ending = .endOfFile last := by
  have lasting : ∀ token ∈ (lex keywords source).tokens, token.Lasting keywords := by
    intro token member
    rw [← ofSource_keywords keywords source]
    exact Lexer.run_lasting member
  rw [lex, ofSource_spaced lasting]
  exact Lexer.run_spaced lasting (skip_spaced lasting .origin)

end TypedScript
