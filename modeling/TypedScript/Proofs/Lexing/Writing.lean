import TypedScript.Proofs.Lexing.Strings
import TypedScript.Proofs.Spelling
import TypedScript.Proofs.Tiling

/-!
Texts that are made of lexemes. Main statement: lexemes that are written one after another, each
with a blank after it, are read back as they are.
-/

namespace TypedScript

/-! Characters. -/

theorem forall_between {low count : Nat} {motive : Char → Prop}
    (all : ∀ code ∈ List.range' low count, motive (Char.ofNat code)) {char : Char}
    (atLeast : low ≤ char.toNat) (below : char.toNat < low + count) : motive char := by
  have found := all char.toNat (List.mem_range'_1.mpr ⟨atLeast, below⟩)
  rwa [Char.ofNat_toNat] at found

theorem isIdentifierStart_of_isBlank {char : Char} (blank : isBlank char = true) :
    isIdentifierStart char = false := by
  have spaces : ∀ code ∈ List.range' 0x2000 12, isIdentifierStart (Char.ofNat code) = false := by
    decide +kernel
  simp only [isBlank, Bool.or_eq_true, Bool.and_eq_true, beq_iff_eq, decide_eq_true_eq] at blank
  rcases blank with
    (((((((((rfl | rfl) | rfl) | rfl) | rfl) | rfl) | ⟨low, high⟩) | rfl) | rfl) | rfl) | rfl
  case inl.inl.inl.inl.inr =>
    have atLeast : 0x2000 ≤ char.toNat := low
    have below : char.toNat < 0x2000 + 12 := Nat.lt_succ_of_le high
    exact forall_between (motive := (isIdentifierStart · = false)) spaces atLeast below
  all_goals decide +kernel

theorem isIdentifierStart_of_isLineTerminator {char : Char}
    (terminates : isLineTerminator char = true) : isIdentifierStart char = false := by
  simp only [isLineTerminator, Bool.or_eq_true, beq_iff_eq] at terminates
  rcases terminates with ((rfl | rfl) | rfl) | rfl
  all_goals decide +kernel

namespace Trivia

structure Solid (char : Char) : Prop where
  noBlank : isBlank char = false
  sameLine : isLineTerminator char = false
  noComment : char ≠ '/'

theorem skip_solid {first : Char} (solid : Solid first) (rest : List Char) (here : Position)
    (broke : Bool) : skip .plain (first :: rest) here broke = ⟨first :: rest, here, broke⟩ := by
  have noBreak : ∀ later, first = '\r' → rest = '\n' :: later → False := by
    rintro _ rfl _
    exact absurd solid.sameLine (by decide)
  rw [skip.eq_6 _ _ _ _ _ noBreak (fun _ _ slash _ => solid.noComment slash)
    (fun _ _ slash _ => solid.noComment slash) (fun _ impossible => by cases impossible),
    if_neg (by simp [solid.sameLine]), if_neg (by simp [solid.noBlank])]

instance (char : Char) : Decidable (Solid char) :=
  decidable_of_iff (isBlank char = false ∧ isLineTerminator char = false ∧ char ≠ '/')
    ⟨fun solid => ⟨solid.1, solid.2.1, solid.2.2⟩, fun solid =>
      ⟨solid.noBlank, solid.sameLine, solid.noComment⟩⟩

theorem solid_of_start {char : Char} (start : isIdentifierStart char = true) : Solid char := by
  refine ⟨?_, ?_, ?_⟩
  · cases blank : isBlank char with
    | false => rfl
    | true =>
        rw [isIdentifierStart_of_isBlank blank] at start
        cases start
  · cases terminates : isLineTerminator char with
    | false => rfl
    | true =>
        rw [isIdentifierStart_of_isLineTerminator terminates] at start
        cases start
  · rintro rfl
    exact absurd start (by decide)

end Trivia

namespace Lexeme

def denotes (kind : TokenKind) (text : List Char) (hasEscape : Bool) : Option String :=
  (Token.mk kind (String.ofList text) .origin 0 false hasEscape).stringValue?

theorem denotes_eq_none {kind : TokenKind} (noString : kind ≠ .stringLiteral) (text : List Char)
    (hasEscape : Bool) : denotes kind text hasEscape = none := by
  simp [denotes, Token.stringValue?, noString]

/-- The lexeme is read back where a blank stands after it. -/
def Readable (keywords : KeywordSet) (lexeme : Lexeme) : Prop :=
  ∃ first chars, lexeme.text.toList = first :: chars ∧ Trivia.Solid first ∧
    ∀ rest here, ∃ after hasEscape,
      Scan.scan keywords first (chars ++ ' ' :: rest) here =
        .ok ⟨lexeme.kind, first :: chars, ' ' :: rest, after, hasEscape⟩ ∧
      denotes lexeme.kind (first :: chars) hasEscape = lexeme.value?

def write (lexemes : List Lexeme) : List Char :=
  lexemes.flatMap fun lexeme => lexeme.text.toList ++ [' ']

theorem write_cons (lexeme : Lexeme) (lexemes : List Lexeme) :
    write (lexeme :: lexemes) = lexeme.text.toList ++ ' ' :: write lexemes := by
  simp [write]

/-! Marks and names. -/

theorem mark_readable {keywords : KeywordSet} {mark : Punctuator}
    (plain : mark ∉ [Punctuator.greaterThanEquals, .slash, .slashEquals]) :
    (Lexeme.mark mark).Readable keywords := by
  cases mark with
  | greaterThanEquals => exact absurd (by decide) plain
  | slash => exact absurd (by decide) plain
  | slashEquals => exact absurd (by decide) plain
  | _ =>
      exact ⟨_, _, rfl, ⟨by decide, by decide, by decide⟩, fun rest here => ⟨_, _, rfl, rfl⟩⟩

def isNameText (text : String) : Bool :=
  match text.toList with
  | [] => false
  | first :: rest => isIdentifierStart first && rest.all isIdentifierPart

theorem name_readable {keywords : KeywordSet} {text : String} (isName : isNameText text = true) :
    Readable keywords ⟨Scan.nameKind keywords text.toList, text, none⟩ := by
  unfold isNameText at isName
  split at isName
  · cases isName
  · next first chars shape =>
      simp only [Bool.and_eq_true, List.all_eq_true] at isName
      rcases isName with ⟨start, parts⟩
      have noQuote : Scan.isQuote first ≠ true := by
        intro isQuote
        simp only [Scan.isQuote, Bool.or_eq_true, beq_iff_eq] at isQuote
        rcases isQuote with rfl | rfl
        · exact absurd start (by decide)
        · exact absurd start (by decide)
      have allParts : ∀ char ∈ first :: chars, isIdentifierPart char = true :=
        List.forall_mem_cons.mpr ⟨isIdentifierPart_of_start start, parts⟩
      refine ⟨first, chars, shape, Trivia.solid_of_start start, fun rest here => ?_⟩
      have split : Scan.splitName (first :: (chars ++ ' ' :: rest)) =
          (first :: chars, ' ' :: rest) := by
        rw [Scan.splitName, ← List.cons_append, List.takeWhile_append_of_pos allParts,
          List.dropWhile_append_of_pos allParts]
        simp [show isIdentifierPart ' ' = false by decide]
      refine ⟨here.steps (first :: chars), false, ?_, ?_⟩
      · rw [Scan.scan_eq, if_neg noQuote, if_pos start, split, shape]
        rfl
      · apply denotes_eq_none
        simp only [Scan.nameKind]
        cases keywords.lookup (String.ofList text.toList) with
        | none => simp
        | some word => simp

theorem word_readable {keywords : KeywordSet} {text : String} (isName : isNameText text = true)
    (plain : keywords.lookup text = none) : (Lexeme.word text).Readable keywords := by
  have readable := @name_readable keywords _ isName
  rw [Scan.nameKind, String.ofList_toList, plain] at readable
  exact readable

theorem keyword_readable {keywords : KeywordSet} {word : Keyword}
    (reserved : keywords.reserves word = true) : (Lexeme.keyword word).Readable keywords := by
  have isName : isNameText word.spelling = true := by
    cases word <;> decide
  have readable := @name_readable keywords _ isName
  rw [Scan.nameKind, String.ofList_toList, KeywordSet.lookup_spelling reserved] at readable
  exact readable

/-! Numbers. -/

end Lexeme

inductive Scan.Number : List Char → Prop
  | whole {digits} : digits ≠ [] → (∀ char ∈ digits, isDigit char = true) → Number digits
  | fraction {digits decimals} : (∀ char ∈ digits, isDigit char = true) → decimals ≠ [] →
      (∀ char ∈ decimals, isDigit char = true) → Number (digits ++ '.' :: decimals)

namespace Scan

theorem splitNumber_number {chars : List Char} (found : (splitNumber chars).1 ≠ []) :
    Number (splitNumber chars).1 := by
  have digits : ∀ {chars : List Char}, ∀ char ∈ chars.takeWhile isDigit, isDigit char = true :=
    List.all_eq_true.mp List.all_takeWhile
  revert found
  unfold splitNumber
  dsimp only
  split
  · next digit more shape =>
      split
      · next isDigit =>
          intro _
          exact .fraction digits (by simp [isDigit]) digits
      · exact fun found => .whole found digits
  · exact fun found => .whole found digits

theorem splitNumber_of_number {digits : List Char} (number : Number digits) (rest : List Char) :
    splitNumber (digits ++ ' ' :: rest) = (digits, ' ' :: rest) := by
  have blank : isDigit ' ' = false := by decide
  have point : isDigit '.' = false := by decide
  cases number with
  | whole _ all =>
      simp [splitNumber, List.takeWhile_append_of_pos all, List.dropWhile_append_of_pos all, blank]
  | @fraction digits decimals all notEmpty allDecimals =>
      cases decimals with
      | nil => exact absurd rfl notEmpty
      | cons first decimals =>
          have isFirst := allDecimals first (List.mem_cons_self ..)
          have decimalsTaken : (first :: (decimals ++ ' ' :: rest)).takeWhile isDigit =
              first :: decimals := by
            rw [← List.cons_append, List.takeWhile_append_of_pos allDecimals]
            simp [blank]
          have decimalsLeft : (first :: (decimals ++ ' ' :: rest)).dropWhile isDigit =
              ' ' :: rest := by
            rw [← List.cons_append, List.dropWhile_append_of_pos allDecimals]
            simp [blank]
          rw [List.append_assoc, List.cons_append, List.cons_append, splitNumber,
            List.takeWhile_append_of_pos all, List.dropWhile_append_of_pos all,
            List.takeWhile_cons_of_neg (by simp [point]),
            List.dropWhile_cons_of_neg (by simp [point]), List.append_nil]
          simp only [isFirst, if_true, decimalsTaken, decimalsLeft]

theorem number_of_scan {keywords : KeywordSet} {first : Char} {rest : List Char} {here : Position}
    {scanned : Scanned} (found : scan keywords first rest here = .ok scanned)
    (kind : scanned.kind = .numericLiteral) : Number scanned.text := by
  rw [scan_eq] at found
  split at found
  · split at found
    · cases found
    · cases found
      cases kind
  · split at found
    · cases found
      simp only [plain, nameKind] at kind
      split at kind <;> cases kind
    · dsimp only at found
      split at found
      · split at found
        · cases found
        · cases found
          cases kind
      · next notEmpty =>
          cases found
          exact splitNumber_number (by simpa using notEmpty)

theorem Number.head {digits : List Char} (number : Number digits) :
    ∃ first rest, digits = first :: rest ∧ (isDigit first = true ∨ first = '.') := by
  cases number with
  | whole notEmpty all =>
      cases digits with
      | nil => exact absurd rfl notEmpty
      | cons first rest => exact ⟨first, rest, rfl, .inl (all first (List.mem_cons_self ..))⟩
  | @fraction digits decimals all =>
      cases digits with
      | nil => exact ⟨'.', decimals, rfl, .inr rfl⟩
      | cons first rest =>
          exact ⟨first, rest ++ '.' :: decimals, rfl, .inl (all first (List.mem_cons_self ..))⟩

theorem solid_of_number {first : Char} (starts : isDigit first = true ∨ first = '.') :
    Trivia.Solid first ∧ isQuote first = false ∧ isIdentifierStart first = false := by
  have digits : ∀ code ∈ List.range' 0x30 10, Trivia.Solid (Char.ofNat code) ∧
      isQuote (Char.ofNat code) = false ∧ isIdentifierStart (Char.ofNat code) = false := by
    decide +kernel
  rcases starts with digit | rfl
  · simp only [isDigit, Bool.and_eq_true, decide_eq_true_eq] at digit
    have atLeast : 0x30 ≤ first.toNat := digit.1
    have below : first.toNat < 0x30 + 10 := Nat.lt_succ_of_le digit.2
    exact forall_between (motive := fun char => Trivia.Solid char ∧ isQuote char = false ∧
      isIdentifierStart char = false) digits atLeast below
  · decide +kernel

end Scan

namespace Lexeme

theorem number_readable {keywords : KeywordSet} {digits : String}
    (number : Scan.Number digits.toList) :
    Readable keywords ⟨.numericLiteral, digits, none⟩ := by
  rcases number.head with ⟨first, chars, shape, starts⟩
  rcases Scan.solid_of_number starts with ⟨solid, noQuote, noStart⟩
  rw [shape] at number
  refine ⟨first, chars, shape, solid, fun rest here => ⟨here.steps (first :: chars), false, ?_,
    denotes_eq_none (by simp) _ _⟩⟩
  have split := Scan.splitNumber_of_number number rest
  rw [List.cons_append] at split
  rw [Scan.scan_eq, if_neg (by simp [noQuote]), if_neg (by simp [noStart]), split]
  rfl

/-! Strings. -/

def escape : Char → List Char
  | '"' => ['\\', '"']
  | '\\' => ['\\', '\\']
  | '\n' => ['\\', 'n']
  | '\r' => ['\\', 'r']
  | char => [char]

def string (value : String) : Lexeme :=
  ⟨.stringLiteral, String.ofList ('"' :: (value.toList.flatMap escape ++ ['"'])), some value⟩

theorem escape_eq_write : escape = Escape.write '"' := by
  funext char
  unfold escape
  split
  case h_5 noQuote noBackslash noLine noReturn =>
    rw [Escape.write, if_neg noBackslash, if_neg noQuote, if_neg noLine, if_neg noReturn]
  all_goals rfl

theorem string_readable {keywords : KeywordSet} (value : String) :
    (Lexeme.string value).Readable keywords := by
  refine ⟨'"', _, String.toList_ofList, by decide, fun rest here => ?_⟩
  rw [escape_eq_write, List.append_assoc, List.singleton_append]
  rcases Escape.scan_literal keywords (.inl rfl) value.toList (' ' :: rest) here with
    ⟨after, scans⟩
  exact ⟨after, _, scans, Escape.stringValue?_literal (.inl rfl) value _ _ _⟩

end Lexeme

/-! Whole texts. -/

namespace Lexer

theorem run_number {lexer : Lexer} {token : Token} (member : token ∈ lexer.run.tokens)
    (kind : token.kind = .numericLiteral) : Scan.Number token.text.toList := by
  induction lexer using run.induct with
  | case1 lexer error failed => simp [(run_of_fault failed).1] at member
  | case2 lexer last after found isEnd => simp [(run_of_end found isEnd).1] at member
  | case3 lexer first after found more induction =>
      rw [(run_of_token found more).1] at member
      rcases List.mem_cons.mp member with rfl | later
      · rcases next_eq_ok found more with ⟨_, _, scanned, _, scans, rfl, _⟩
        rw [String.toList_ofList]
        exact Scan.number_of_scan scans kind
      · exact induction later

theorem run_of_blank (keywords : KeywordSet) (chars : List Char) (here : Position) :
    (mk keywords (' ' :: chars) here).run.tokens = (mk keywords chars (here.step ' ')).run.tokens ∧
      (mk keywords (' ' :: chars) here).run.ending =
        (mk keywords chars (here.step ' ')).run.ending :=
  run_of_next_eq rfl

theorem run_of_blanks (keywords : KeywordSet) (chars : List Char) (here : Position)
    (count : Nat) :
    (mk keywords (List.replicate count ' ' ++ chars) here).run.tokens =
        (mk keywords chars ⟨here.offset + count, here.line, here.column + count⟩).run.tokens ∧
      (mk keywords (List.replicate count ' ' ++ chars) here).run.ending =
        (mk keywords chars ⟨here.offset + count, here.line, here.column + count⟩).run.ending := by
  induction count generalizing here with
  | zero => exact ⟨rfl, rfl⟩
  | succ count induction =>
      have first := run_of_blank keywords (List.replicate count ' ' ++ chars) here
      have others := induction (here.step ' ')
      have place : (here.step ' ').offset + count = here.offset + (count + 1) := by
        change here.offset + 1 + count = _
        omega
      have column : (here.step ' ').column + count = here.column + (count + 1) := by
        change here.column + 1 + count = _
        omega
      rw [place, column] at others
      rw [List.replicate_succ, List.cons_append]
      exact ⟨first.1.trans others.1, first.2.trans others.2⟩

theorem next_of_lexeme {lexer : Lexer} {lexeme : Lexeme} {rest : List Char}
    (readable : lexeme.Readable lexer.keywords)
    (shape : lexer.rest = lexeme.text.toList ++ ' ' :: rest) :
    ∃ token after, lexer.next = .ok (token, ⟨lexer.keywords, ' ' :: rest, after⟩) ∧
      token.kind ≠ .endOfFile ∧ token.lexeme = lexeme ∧ token.afterLineBreak = false ∧
      token.start = lexer.position.offset ∧ token.stop = after.offset ∧
      after.offset = lexer.position.offset + byteLength lexeme.text.toList := by
  rcases readable with ⟨first, chars, text, solid, scans⟩
  have gap : lexer.gap = ⟨first :: (chars ++ ' ' :: rest), lexer.position, false⟩ := by
    rw [Lexer.gap, shape, text, List.cons_append]
    exact Trivia.skip_solid solid _ _ _
  rcases scans rest lexer.gap.position with ⟨after, hasEscape, found, denotes⟩
  have offset := Scan.scan_offset found
  rw [gap] at offset
  refine ⟨_, after, next_of_scan (congrArg Trivia.Gap.rest gap) found, Scan.scan_kind found, ?_,
    congrArg Trivia.Gap.brokeLine gap, congrArg (·.position.offset) gap, rfl, ?_⟩
  · rcases lexeme with ⟨kind, lexemeText, value⟩
    simp only [Token.lexeme, Lexeme.mk.injEq, true_and]
    exact ⟨by rw [← text, String.ofList_toList], denotes⟩
  · rw [text]
    exact offset

structure Passes (lexer : Lexer) (passed : List Token) (after : Lexer) : Prop where
  tokens : lexer.run.tokens = passed ++ after.run.tokens
  ending : lexer.run.ending = after.run.ending
  stops : ∀ token ∈ passed, token.stop ≤ after.position.offset

theorem passes_of_lexemes {lexemes : List Lexeme} {lexer : Lexer} {rest : List Char}
    (readable : ∀ lexeme ∈ lexemes, lexeme.Readable lexer.keywords)
    (shape : lexer.rest = Lexeme.write lexemes ++ rest) :
    ∃ tokens position, lexer.Passes tokens ⟨lexer.keywords, rest, position⟩ ∧
      tokens.map Token.lexeme = lexemes ∧ (∀ token ∈ tokens, token.afterLineBreak = false) ∧
      position.offset = lexer.position.offset + byteLength (Lexeme.write lexemes) := by
  induction lexemes generalizing lexer with
  | nil =>
      rcases lexer with ⟨keywords, chars, position⟩
      cases shape
      exact ⟨[], position, ⟨rfl, rfl, by simp⟩, rfl, by simp, rfl⟩
  | cons lexeme lexemes induction =>
      rw [Lexeme.write_cons, List.append_assoc, List.cons_append] at shape
      rcases List.forall_mem_cons.mp readable with ⟨first, others⟩
      rcases next_of_lexeme first shape with
        ⟨token, after, found, more, same, line, _, stop, offset⟩
      have blank := run_of_blank lexer.keywords (Lexeme.write lexemes ++ rest) after
      rcases @induction ⟨lexer.keywords, _, after.step ' '⟩ others rfl with
        ⟨tokens, position, passes, lexemesRead, lines, distance⟩
      have width : ' '.utf8Size = 1 := rfl
      have further : after.offset ≤ position.offset := by
        rw [distance]
        simp only [Position.step]
        omega
      refine ⟨token :: tokens, position, ⟨?_, ?_, ?_⟩, ?_, ?_, ?_⟩
      · rw [(run_of_token found more).1, blank.1, passes.tokens, List.cons_append]
      · rw [(run_of_token found more).2, blank.2, passes.ending]
      · exact List.forall_mem_cons.mpr ⟨stop ▸ further, passes.stops⟩
      · rw [List.map_cons, same, lexemesRead]
      · exact List.forall_mem_cons.mpr ⟨line, lines⟩
      · rw [distance, Lexeme.write_cons]
        simp only [Position.step, byteLength_append, byteLength_cons]
        omega

end Lexer

theorem lex_write {keywords : KeywordSet} {lexemes : List Lexeme}
    (readable : ∀ lexeme ∈ lexemes, lexeme.Readable keywords) :
    (lex keywords (String.ofList (Lexeme.write lexemes))).tokens.map Token.lexeme = lexemes ∧
      (∃ last, (lex keywords (String.ofList (Lexeme.write lexemes))).ending = .endOfFile last) ∧
      ∀ token ∈ (lex keywords (String.ofList (Lexeme.write lexemes))).tokens,
        token.afterLineBreak = false := by
  have noLine : ¬['#', '!'] <+: (String.ofList (Lexeme.write lexemes)).toList := by
    rw [String.toList_ofList]
    cases lexemes with
    | nil => simp [Lexeme.write]
    | cons lexeme lexemes =>
        rcases readable lexeme (List.mem_cons_self ..) with ⟨first, chars, text, _, scans⟩
        rw [Lexeme.write_cons, text, List.cons_append, List.cons_prefix_cons]
        rintro ⟨rfl, _⟩
        rcases scans [] .origin with ⟨_, _, found, _⟩
        cases found
  have whole := Lexer.ofSource_plain keywords noLine
  rw [String.toList_ofList, ← List.append_nil (Lexeme.write lexemes)] at whole
  rcases @Lexer.passes_of_lexemes lexemes ⟨keywords, Lexeme.write lexemes ++ [], .origin⟩ []
    readable rfl with ⟨tokens, position, passes, same, sameLine, _⟩
  have finished : (Lexer.mk keywords [] position).next = .ok (⟨.endOfFile, "", position,
      position.offset, false, false⟩, ⟨keywords, [], position⟩) := rfl
  rcases Lexer.run_of_end finished rfl with ⟨none, ending⟩
  rw [List.append_nil] at passes whole
  rw [lex, whole, passes.tokens, passes.ending, none, List.append_nil]
  exact ⟨same, ⟨_, ending⟩, sameLine⟩

end TypedScript
