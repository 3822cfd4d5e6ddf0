import TypedScript.Proofs.Checked.Ranges
import TypedScript.Proofs.Escapes

/-!
What strings denote. Main statement: a string of a text is known to have escapes exactly if there is
a backslash between its quotes, and it denotes what is between them with the escapes read, whether
it is known to have any or not.
-/

namespace TypedScript

structure Token.Quotes (token : Token) (quote : Char) (inner : String) : Prop where
  isQuote : Scan.isQuote quote = true
  text : token.text = String.singleton quote ++ inner ++ String.singleton quote
  hasEscape : token.hasEscape = true ↔ '\\' ∈ inner.toList
  value : token.stringValue? = some (Escape.unescape inner)

theorem Escape.unescape_of_plain {raw : String} (plain : '\\' ∉ raw.toList) :
    unescape raw = raw := by
  have resolved := resolve_plain plain []
  rw [List.append_nil, resolve, List.append_nil] at resolved
  rw [unescape, resolved, String.ofList_toList]

namespace Scan

theorem backslash_ne_of_isQuote {quote : Char} (quotes : isQuote quote = true) : '\\' ≠ quote := by
  rintro rfl
  exact absurd quotes (by decide)

/-- The scanner of a string notes a backslash wherever one stands, be it escaped itself or before a
quote or the end of a line. -/
theorem stringTail?_hasEscape {quote : Char} (quotes : isQuote quote = true) {chars : List Char}
    {here : Position} {tail : StringTail} (found : stringTail? quote chars here = some tail) :
    tail.hasEscape = true ↔ '\\' ∈ tail.text := by
  fun_induction stringTail? quote chars here generalizing tail with
  | case1 => cases found
  | case2 rest here _ =>
      rcases Option.map_eq_some_iff.mp found with ⟨inner, _, rfl⟩
      simp [StringTail.addEscape]
  | case3 char rest here _ _ =>
      rcases Option.map_eq_some_iff.mp found with ⟨inner, _, rfl⟩
      simp [StringTail.addEscape]
  | case4 char rest here _ _ closes =>
      cases found
      cases beq_iff_eq.mp closes
      simp [backslash_ne_of_isQuote quotes]
  | case5 => cases found
  | case6 char rest here _ noEscape _ _ induction =>
      rcases Option.map_eq_some_iff.mp found with ⟨inner, innerFound, rfl⟩
      -- A backslash that ends the text is no escape, but then the string does not end either.
      have noBackslash : '\\' ≠ char := by
        intro isBackslash
        cases rest with
        | nil => cases innerFound
        | cons next rest => exact noEscape next rest isBackslash.symm rfl
      simp [StringTail.addPlain, noBackslash, induction innerFound]

theorem scan_hasEscape {keywords : KeywordSet} {first : Char} {rest : List Char}
    {here : Position} {scanned : Scanned} {body : List Char}
    (found : scan keywords first rest here = .ok scanned) (quotes : isQuote first = true)
    (text : scanned.text = first :: (body ++ [first])) :
    scanned.hasEscape = true ↔ '\\' ∈ body := by
  rw [scan_eq, if_pos quotes] at found
  split at found
  · cases found
  · next tail tailFound =>
      cases found
      have tailText : tail.text = body ++ [first] := (List.cons.inj text).2
      have flag := stringTail?_hasEscape quotes tailFound
      rw [tailText] at flag
      simpa [backslash_ne_of_isQuote quotes] using flag

end Scan

theorem Token.stringValue?_of_text {token : Token} {quote : Char} {body : List Char}
    (kind : token.kind = .stringLiteral) (text : token.text.toList = quote :: (body ++ [quote]))
    (hasEscape : token.hasEscape = true ↔ '\\' ∈ body) :
    token.stringValue? = some (Escape.unescape (String.ofList body)) := by
  rcases body_of_text text with ⟨between, long⟩
  rw [stringValue?, between]
  simp only [kind, bne_self_eq_false, Bool.false_or, decide_eq_true_eq, long, if_false]
  cases flag : token.hasEscape with
  | true => rw [if_pos rfl, Escape.unescape, String.toList_ofList]
  | false =>
      have plain : '\\' ∉ (String.ofList body).toList := by
        rw [String.toList_ofList, ← hasEscape, flag]
        exact Bool.false_ne_true
      rw [if_neg Bool.false_ne_true, Escape.unescape_of_plain plain]

namespace Lexer

variable {lexer after : Lexer} {token : Token}

/-- Wherever a lexer stands, the string that it reads next has the value of its text. -/
theorem next_quotes (found : lexer.next = .ok (token, after))
    (kind : token.kind = .stringLiteral) : ∃ quote inner, token.Quotes quote inner := by
  have more : token.kind ≠ .endOfFile := by
    rw [kind]
    decide
  rcases next_eq_ok found more with ⟨first, rest, scanned, _, scans, rfl, rfl⟩
  rcases Scan.quoted_of_scan scans kind with ⟨quotes, body, text⟩
  have flag := Scan.scan_hasEscape scans quotes text
  refine ⟨first, String.ofList body, quotes, ?_, ?_, ?_⟩
  · apply String.toList_injective
    simp [text]
  · rw [String.toList_ofList]
    exact flag
  · exact Token.stringValue?_of_text kind (String.toList_ofList.trans text) flag

theorem run_quotes (lexer : Lexer) {string : Token} (member : string ∈ lexer.run.withEnd)
    (kind : string.kind = .stringLiteral) : ∃ quote inner, string.Quotes quote inner := by
  induction lexer using Lexer.induction with
  | last lexer last =>
      rcases mem_withEnd member with ⟨first, _, found, rfl | ⟨more, _⟩⟩
      · exact next_quotes found kind
      · exact absurd (last first _ found) more
  | step lexer after first found more induction =>
      rcases mem_withEnd member with ⟨_, _, otherFound, rfl | ⟨_, later⟩⟩
      · exact next_quotes otherFound kind
      · cases found.symm.trans otherFound
        exact induction later

end Lexer

/-- Of every string that a text has, the flag and the value are those of the text between the
quotes; and text without a backslash denotes itself. -/
theorem string_values (keywords : KeywordSet) (source : String) :
    (∀ token ∈ (lex keywords source).withEnd, token.kind = .stringLiteral →
      ∃ quote inner, token.Quotes quote inner) ∧
    ∀ raw : String, '\\' ∉ raw.toList → Escape.unescape raw = raw :=
  ⟨fun _ member kind => (Lexer.ofSource keywords source).run_quotes member kind,
    fun _ => Escape.unescape_of_plain⟩

/-- A string that ends with an escaped backslash after an escaped quote and an escaped end of a
line. -/
theorem string_values_escapes :
    (∃ token ∈ (lex .full "x = 'it\\'s\\\r\n\\\\';").withEnd, token.kind = .stringLiteral ∧
      ∃ quote inner, token.Quotes quote inner) ∧
      '\\' ∉ "it's".toList ∧ Escape.unescape "it's" = "it's" := by
  have found : ∃ token ∈ (lex .full "x = 'it\\'s\\\r\n\\\\';").withEnd,
      token.kind = .stringLiteral := by
    decide +kernel
  have plain : '\\' ∉ "it's".toList := by decide
  rcases found with ⟨token, member, kind⟩
  have read := string_values .full "x = 'it\\'s\\\r\n\\\\';"
  exact ⟨⟨token, member, kind, read.1 token member kind⟩, plain, read.2 _ plain⟩

end TypedScript
