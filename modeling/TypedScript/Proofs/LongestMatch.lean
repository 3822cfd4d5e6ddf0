import TypedScript.Proofs.Coordinates

/-!
What the characters of a token are, and how far it reaches. Main statement: every token of a text is
written as its kind demands, and no longer mark, name or number begins where it begins.
-/

namespace TypedScript

/-! Names. -/

structure LongestName (text : String) (rest : List Char) : Prop where
  name : Lexeme.isNameText text = true
  ends : ∀ next ∈ rest.head?, isIdentifierPart next = false

namespace Scan

theorem head?_dropWhile {condition : Char → Bool} {chars : List Char} :
    ∀ next ∈ (chars.dropWhile condition).head?, condition next = false := by
  intro next isNext
  have stops := List.head?_dropWhile_not condition chars
  rw [Option.mem_def.mp isNext] at stops
  exact stops

theorem splitName_longest {first : Char} (starts : isIdentifierStart first = true)
    (rest : List Char) :
    LongestName (String.ofList (splitName (first :: rest)).1) (splitName (first :: rest)).2 := by
  have taken : (first :: rest).takeWhile isIdentifierPart =
      first :: rest.takeWhile isIdentifierPart :=
    List.takeWhile_cons_of_pos (isIdentifierPart_of_start starts)
  refine ⟨?_, head?_dropWhile⟩
  rw [Lexeme.isNameText, splitName, taken, String.toList_ofList]
  simp only [starts, Bool.true_and]
  exact List.all_takeWhile

end Scan

theorem KeywordSet.ne_of_lookup_eq_none {keywords : KeywordSet} {text : String}
    (missing : keywords.lookup text = none) {word : Keyword}
    (reserved : keywords.reserves word = true) : text ≠ word.spelling := by
  rintro rfl
  cases (lookup_spelling reserved).symm.trans missing

/-! Numbers. -/

structure LongestNumber (text : String) (rest : List Char) : Prop where
  number : Scan.Number text.toList
  noDigit : Scan.startsWithDigit rest = false
  noFraction : (∀ char ∈ text.toList, isDigit char = true) →
    ∀ decimals, rest = '.' :: decimals → Scan.startsWithDigit decimals = false

namespace Scan

theorem startsWithDigit_dropWhile (chars : List Char) :
    startsWithDigit (chars.dropWhile isDigit) = false := by
  have stops := @head?_dropWhile isDigit chars
  rw [startsWithDigit]
  cases next : (chars.dropWhile isDigit).head? with
  | none => rfl
  | some char => exact stops char next

theorem splitNumber_cases (chars : List Char) :
    (∃ digit more, isDigit digit = true ∧ splitNumber chars =
      (chars.takeWhile isDigit ++ '.' :: (digit :: more).takeWhile isDigit,
        (digit :: more).dropWhile isDigit)) ∨
    (∀ decimals, chars.dropWhile isDigit = '.' :: decimals → startsWithDigit decimals = false) ∧
      splitNumber chars = (chars.takeWhile isDigit, chars.dropWhile isDigit) := by
  unfold splitNumber
  dsimp only
  split
  · next digit more shape =>
      split
      · next decimal => exact .inl ⟨digit, more, decimal, rfl⟩
      · next noDigit =>
          refine .inr ⟨fun decimals same => ?_, by rw [shape]⟩
          cases shape.symm.trans same
          exact Bool.eq_false_iff.mpr noDigit
  · next noPoint =>
      refine .inr ⟨fun decimals same => ?_, rfl⟩
      cases decimals with
      | nil => rfl
      | cons digit more => exact absurd same (noPoint digit more)

theorem splitNumber_longest {chars : List Char} (found : (splitNumber chars).1 ≠ []) :
    LongestNumber (String.ofList (splitNumber chars).1) (splitNumber chars).2 := by
  refine ⟨by rw [String.toList_ofList]; exact splitNumber_number found, ?_, ?_⟩
  · rcases splitNumber_cases chars with ⟨_, _, _, shape⟩ | ⟨_, shape⟩
    · rw [shape]
      exact startsWithDigit_dropWhile _
    · rw [shape]
      exact startsWithDigit_dropWhile _
  · rw [String.toList_ofList]
    rcases splitNumber_cases chars with ⟨_, _, _, shape⟩ | ⟨noDecimal, shape⟩
    · rw [shape]
      intro digits
      exact absurd (digits '.' (by simp)) (by decide)
    · rw [shape]
      exact fun _ => noDecimal

end Scan

/-! Marks. -/

/-- A mark where no longer one could have been read. A question mark may stand before a decimal
fraction, and greater-or-equal is never read. -/
structure LongestMark (mark : Punctuator) (text : String) (rest : List Char) : Prop where
  spelled : text = mark.spelling
  longest : ∀ longer : Punctuator, longer ≠ .greaterThanEquals →
    mark.spelling.length < longer.spelling.length →
    longer.spelling.toList <+: text.toList ++ rest →
    mark = .question ∧ longer = .questionDot ∧ Scan.startsWithDigit (rest.drop 1) = true
  noFraction : mark = .dot → Scan.startsWithDigit rest = false

namespace Punctuator

theorem mem_lexed {mark : Punctuator} (looked : mark ≠ .greaterThanEquals) : mark ∈ lexed := by
  cases mark with
  | greaterThanEquals => exact absurd rfl looked
  | _ => decide

theorem eq_question {mark : Punctuator}
    (shorter : mark.spelling.length < Punctuator.questionDot.spelling.length)
    (begins : mark.spelling.toList <+: Punctuator.questionDot.spelling.toList) :
    mark = .question := by
  have all : ∀ mark ∈ Punctuator.all,
      mark.spelling.length < Punctuator.questionDot.spelling.length →
      mark.spelling.toList.isPrefixOf Punctuator.questionDot.spelling.toList = true →
      mark = .question := by
    decide +kernel
  exact all mark mark.mem_all shorter (List.isPrefixOf_iff_prefix.mpr begins)

end Punctuator

namespace Scan

theorem not_fits_of_longer {chars : List Char} {mark longer : Punctuator}
    (found : punctuator? chars = some mark) (looked : longer ≠ .greaterThanEquals)
    (length : mark.spelling.length < longer.spelling.length) : fits chars longer = false := by
  rcases (List.find?_eq_some_iff_append.mp found).2 with ⟨earlier, later, split, unfit⟩
  have member := Punctuator.mem_lexed looked
  have order := Punctuator.lexed_longest_first
  rw [split, List.mem_append, List.mem_cons] at member
  rw [split, List.pairwise_append, List.pairwise_cons] at order
  rcases member with isEarlier | rfl | isLater
  · simpa using unfit longer isEarlier
  · exact absurd length (Nat.lt_irrefl _)
  · exact absurd length (Nat.not_lt.mpr (order.2.1.1 longer isLater))

theorem punctuator?_longest {first : Char} {chars : List Char} {mark : Punctuator}
    (noNumber : (splitNumber (first :: chars)).1 = [])
    (found : punctuator? (first :: chars) = some mark) {rest : List Char}
    (split : mark.spelling.toList ++ rest = first :: chars) :
    LongestMark mark mark.spelling rest := by
  refine ⟨rfl, ?_, ?_⟩
  · intro longer looked length begins
    have begun : mark.spelling.toList <+: mark.spelling.toList ++ rest := List.prefix_append _ _
    have within : mark.spelling.toList <+: longer.spelling.toList := by
      refine List.prefix_of_prefix_length_le begun begins ?_
      rw [String.length_toList, String.length_toList]
      exact Nat.le_of_lt length
    have unfit := not_fits_of_longer found looked length
    rw [fits, ← split, List.isPrefixOf_iff_prefix.mpr begins, Bool.true_and] at unfit
    simp only [Bool.not_eq_false', Bool.and_eq_true, beq_iff_eq] at unfit
    rcases unfit with ⟨rfl, digit⟩
    cases Punctuator.eq_question length within
    exact ⟨rfl, rfl, digit⟩
  · rintro rfl
    cases digit : startsWithDigit rest with
    | false => rfl
    | true =>
        have point : '.' :: rest = first :: chars := split
        rw [← point] at noNumber
        cases rest with
        | nil => cases digit
        | cons next rest =>
            rw [splitNumber_of_point rfl digit] at noNumber
            cases noNumber

end Scan

/-! Strings. -/

/-- What may stand between two quotes of a kind: characters that neither are such a quote nor end a
line, and escapes. A carriage return and the line feed after it are escaped together. -/
inductive StringBody (quote : Char) : List Char → Prop
  | nil : StringBody quote []
  | plain {char body} : char ∉ [quote, '\\', '\n', '\r'] → StringBody quote body →
      StringBody quote (char :: body)
  | lineBreak {body} : StringBody quote body → StringBody quote ('\\' :: '\r' :: '\n' :: body)
  | escape {char body} : StringBody quote body → StringBody quote ('\\' :: char :: body)

def IsStringText (text : String) : Prop :=
  ∃ quote body, Scan.isQuote quote = true ∧ text.toList = quote :: (body ++ [quote]) ∧
    StringBody quote body

namespace Scan

theorem stringTail?_body {quote : Char} {chars : List Char} {here : Position} {tail : StringTail}
    (found : stringTail? quote chars here = some tail) :
    ∃ body, tail.text = body ++ [quote] ∧ StringBody quote body := by
  fun_induction stringTail? quote chars here generalizing tail with
  | case1 => cases found
  | case2 rest here induction =>
      rcases Option.map_eq_some_iff.mp found with ⟨inner, innerFound, rfl⟩
      rcases induction innerFound with ⟨body, text, isBody⟩
      exact ⟨'\\' :: '\r' :: '\n' :: body, by simp [StringTail.addEscape, text], .lineBreak isBody⟩
  | case3 char rest here _ induction =>
      rcases Option.map_eq_some_iff.mp found with ⟨inner, innerFound, rfl⟩
      rcases induction innerFound with ⟨body, text, isBody⟩
      exact ⟨'\\' :: char :: body, by simp [StringTail.addEscape, text], .escape isBody⟩
  | case4 char rest here _ _ isQuote =>
      cases found
      cases beq_iff_eq.mp isQuote
      exact ⟨[], rfl, .nil⟩
  | case5 => cases found
  | case6 char rest here _ noEscape noQuote noBreak induction =>
      rcases Option.map_eq_some_iff.mp found with ⟨inner, innerFound, rfl⟩
      rcases induction innerFound with ⟨body, text, isBody⟩
      -- A backslash that ends the text is no escape, but then the string does not end either.
      have noBackslash : char ≠ '\\' := by
        intro isBackslash
        cases rest with
        | nil => cases innerFound
        | cons next rest => exact noEscape next rest isBackslash rfl
      refine ⟨char :: body, by simp [StringTail.addPlain, text], .plain ?_ isBody⟩
      simp only [beq_iff_eq, Bool.or_eq_true, not_or] at noQuote noBreak
      simp [noQuote, noBackslash, noBreak]

end Scan

/-! Tokens of all kinds. -/

def TokenKind.Takes (keywords : KeywordSet) (kind : TokenKind) (text : String)
    (rest : List Char) : Prop :=
  match kind with
  | .endOfFile => text = "" ∧ rest = []
  | .numericLiteral => LongestNumber text rest
  | .stringLiteral => IsStringText text
  | .punctuator mark => LongestMark mark text rest
  | .identifier =>
      LongestName text rest ∧ ∀ word, keywords.reserves word = true → text ≠ word.spelling
  | .keyword word =>
      LongestName text rest ∧ text = word.spelling ∧ keywords.reserves word = true

namespace Scan

theorem nameKind_takes {keywords : KeywordSet} {text : List Char} {rest : List Char}
    (name : LongestName (String.ofList text) rest) :
    (nameKind keywords text).Takes keywords (String.ofList text) rest := by
  unfold nameKind
  split
  · next word found => exact ⟨name, KeywordSet.of_lookup found⟩
  · next missing => exact ⟨name, fun _ => KeywordSet.ne_of_lookup_eq_none missing⟩

theorem scan_takes {keywords : KeywordSet} {first : Char} {rest : List Char} {here : Position}
    {scanned : Scanned} (found : scan keywords first rest here = .ok scanned) :
    scanned.kind.Takes keywords (String.ofList scanned.text) scanned.rest := by
  have whole := (scan_ok found).1
  rw [scan_eq] at found
  split at found
  · next quoted =>
      split at found
      · cases found
      · next tail tailFound =>
          cases found
          rcases stringTail?_body tailFound with ⟨body, text, isBody⟩
          exact ⟨first, body, quoted, by rw [String.toList_ofList, text], isBody⟩
  · split at found
    · next starts =>
        cases found
        exact nameKind_takes (splitName_longest starts rest)
    · dsimp only at found
      split at found
      · next isEmpty =>
          split at found
          · cases found
          · next mark markFound =>
              cases found
              have spelled := take_of_punctuator? markFound
              simp only [plain] at whole ⊢
              rw [spelled]
              refine punctuator?_longest (List.isEmpty_iff.mp isEmpty) markFound ?_
              rw [← spelled, String.toList_ofList, spelled]
              exact whole
      · next notEmpty =>
          cases found
          exact splitNumber_longest (by simpa using notEmpty)

end Scan

namespace Lexer

theorem Stands.next_takes {lexer after : Lexer} {source : String} {before opening : List Char}
    {token : Token} (stands : lexer.Stands source before opening)
    (found : lexer.next = .ok (token, after)) :
    ∃ passed rest, source.toList = passed ++ (token.text.toList ++ rest) ∧
      byteLength passed = token.start ∧
      token.kind.Takes lexer.keywords token.text rest := by
  rcases stands.gap with ⟨gap, whole, offset, _⟩
  rw [← List.append_assoc] at whole
  rw [← byteLength_append] at offset
  refine ⟨before ++ gap, ?_⟩
  rcases lexer.next_cases with finished | ⟨_, _, _, shape, failed⟩ |
    ⟨first, rest, scanned, shape, scans⟩
  · cases found.symm.trans (next_of_end finished)
    exact ⟨[], by rw [whole, finished]; rfl, offset.symm, rfl, rfl⟩
  · cases found.symm.trans (next_of_fault shape failed)
  · cases found.symm.trans (next_of_scan shape scans)
    refine ⟨scanned.rest, ?_, offset.symm, Scan.scan_takes scans⟩
    rw [whole, shape, String.toList_ofList, (Scan.scan_ok scans).1]

theorem run_takes {lexer : Lexer} {source : String} {before opening : List Char}
    (stands : lexer.Stands source before opening) {token : Token}
    (member : token ∈ lexer.run.withEnd) :
    ∃ passed rest, source.toList = passed ++ (token.text.toList ++ rest) ∧
      byteLength passed = token.start ∧
      token.kind.Takes lexer.keywords token.text rest := by
  induction lexer using Lexer.induction generalizing before opening with
  | last lexer last =>
      rcases mem_withEnd member with ⟨first, after, found, rfl | ⟨more, _⟩⟩
      · exact stands.next_takes found
      · exact absurd (last first after found) more
  | step lexer after first found more induction =>
      rcases mem_withEnd member with ⟨other, otherAfter, otherFound, isFirst | ⟨_, later⟩⟩
      · cases isFirst
        exact stands.next_takes otherFound
      · cases found.symm.trans otherFound
        rcases stands.next found with ⟨_, read, _, standsAfter⟩
        rcases next_eq_ok found more with ⟨_, _, _, _, _, _, rfl⟩
        exact induction standsAfter later

end Lexer

/-- Each token of a text, its end included, stands in the text where it says, with the characters
that its kind demands; and a mark, a name or a number is the longest that begins there. -/
theorem lex_longest (keywords : KeywordSet) (source : String) (token : Token)
    (member : token ∈ (lex keywords source).withEnd) :
    ∃ before rest, source.toList = before ++ (token.text.toList ++ rest) ∧
      byteLength before = token.start ∧ token.kind.Takes keywords token.text rest := by
  rcases Lexer.ofSource_stands keywords source with ⟨opening, stands⟩
  have same : (Lexer.ofSource keywords source).keywords = keywords := by
    rcases Lexer.ofChars_cases keywords source.toList with ⟨_, _, skipped⟩ | ⟨_, plain⟩
    · rw [Lexer.ofSource, skipped]
    · rw [Lexer.ofSource, plain]
  have takes := Lexer.run_takes stands member
  rwa [same] at takes

/-- A question mark before a decimal fraction stands alone. -/
theorem lex_longest_fraction :
    ∃ token ∈ (lex .full "a?.5:b").withEnd, token.kind = .punctuator .question ∧
      ∃ before rest, "a?.5:b".toList = before ++ (token.text.toList ++ rest) ∧
        byteLength before = token.start ∧ token.kind.Takes .full token.text rest := by
  have found : ∃ token ∈ (lex .full "a?.5:b").withEnd, token.kind = .punctuator .question := by
    decide +kernel
  rcases found with ⟨token, member, isQuestion⟩
  exact ⟨token, member, isQuestion, lex_longest .full _ token member⟩

end TypedScript
