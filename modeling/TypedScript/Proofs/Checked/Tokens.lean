import TypedScript.Proofs.Checked.Space
import TypedScript.Proofs.StreamRefinement

/-!
Tokens, byte by byte. Main statement: a byte lexer fails in no run, whatever is asked of it and in
whatever order, and gives the tokens of the text.
-/

namespace TypedScript.ByteLexer

namespace Stands

open Scan

variable {lexer : ByteLexer} {source : String} {before rest : List Char} {keywords : KeywordSet}
  {here : Position}

/-! Strings. -/

def ScansString (lexer : ByteLexer) (source : String) (before : List Char) (keywords : KeywordSet)
    (quote : Char) (escaped : Bool) (tail? : Option StringTail) : Prop :=
  ∃ after passed model,
    lexer.scanString quote escaped = some (tail?.map (escaped || ·.hasEscape), after) ∧
    after.Stands source passed model ∧
    ∀ tail, tail? = some tail → passed = before ++ tail.text ∧
      model = ⟨keywords, tail.rest, tail.after⟩

theorem ScansString.turn {next : ByteLexer} {quote : Char} {escaped after : Bool}
    {part : List Char} {tail? : Option StringTail} {add : StringTail → StringTail}
    (scans : ScansString next source (before ++ part) keywords quote after tail?)
    (turns : lexer.scanString quote escaped = next.scanString quote after)
    (text : ∀ tail, (add tail).text = part ++ tail.text)
    (same : ∀ tail, (add tail).rest = tail.rest ∧ (add tail).after = tail.after)
    (escape : ∀ tail, (escaped || (add tail).hasEscape) = (after || tail.hasEscape)) :
    ScansString lexer source before keywords quote escaped (tail?.map add) := by
  rcases scans with ⟨last, passed, model, found, stands, ended⟩
  refine ⟨last, passed, model, ?_, stands, ?_⟩
  · rw [turns, found, Option.map_map]
    simp only [Function.comp_def, escape]
  · rintro tail isTail
    rcases Option.map_eq_some_iff.mp isTail with ⟨inner, isInner, rfl⟩
    rcases ended inner isInner with ⟨rfl, rfl⟩
    rw [text, (same inner).1, (same inner).2, List.append_assoc]
    exact ⟨rfl, rfl⟩

theorem ScansString.addEscape {next : ByteLexer} {quote : Char} {escaped : Bool}
    {part : List Char} {tail? : Option StringTail}
    (scans : ScansString next source (before ++ '\\' :: part) keywords quote true tail?)
    (turns : lexer.scanString quote escaped = next.scanString quote true) :
    ScansString lexer source before keywords quote escaped (tail?.map (·.addEscape part)) :=
  scans.turn turns (fun _ => rfl) (fun _ => ⟨rfl, rfl⟩) (fun _ => by simp [StringTail.addEscape])

theorem ScansString.unfinished {after : ByteLexer} {quote : Char} {escaped : Bool}
    {passed : List Char} {model : Lexer}
    (found : lexer.scanString quote escaped = some (none, after))
    (stands : after.Stands source passed model) :
    ScansString lexer source before keywords quote escaped none :=
  ⟨after, passed, model, found, stands, by rintro _ ⟨⟩⟩

theorem stringTurn_of_end (stands : lexer.Stands source before ⟨keywords, [], here⟩)
    (quote : Char) (escaped : Bool) :
    stringTurn quote (escaped, lexer) = some (.inr (none, lexer)) := by
  rw [stringTurn, stands.current_eq]
  rfl

theorem stringTurn_of_plain {char : Char}
    (stands : lexer.Stands source before ⟨keywords, char :: rest, here⟩)
    (noBackslash : char ≠ '\\') (quote : Char) (escaped : Bool) :
    stringTurn quote (escaped, lexer) = some (
      if char = quote then .inr (some escaped, lexer.advance 1)
      else if char = '\n' ∨ char = '\r' then .inr (none, lexer)
      else .inl (escaped, lexer.advance char.utf8Size)) := by
  rw [stringTurn, stands.current_eq]
  simp only [List.head?_cons, Option.bind_eq_bind, Option.bind_some, if_neg noBackslash]
  split_ifs <;> rfl

/-- A backslash at the end of the text escapes nothing. -/
theorem stringTurn_of_backslash {quote : Char}
    (stands : lexer.Stands source before ⟨keywords, ['\\'], here⟩) (noBackslash : '\\' ≠ quote)
    (escaped : Bool) :
    stringTurn quote (escaped, lexer) = some (.inr (none, lexer.advance 1)) := by
  have passed : (lexer.advance 1).current = some none := stands.advance_char.current_eq
  rw [stringTurn, stands.current_eq]
  simp only [List.head?_cons, Option.bind_eq_bind, Option.bind_some, if_neg noBackslash,
    ↓reduceIte, passed]
  rfl

theorem scanString_escape {quote char : Char} (noBackslash : '\\' ≠ quote)
    (stands : lexer.Stands source before ⟨keywords, '\\' :: char :: rest, here⟩) (escaped : Bool) :
    lexer.scanString quote escaped =
      if isLineTerminator char then
        ((lexer.advance 1).passTerminator char).bind (·.scanString quote true)
      else ((lexer.advance 1).advance char.utf8Size).scanString quote true := by
  have passed : (lexer.advance 1).current = some (some char) := stands.advance_char.current_eq
  rw [scanString, loop_turn, stringTurn, stands.current_eq]
  simp only [List.head?_cons, Option.bind_eq_bind, Option.bind_some, if_neg noBackslash,
    ↓reduceIte, passed]
  split
  · next terminates =>
      rcases LineEnd.of_isLineTerminator terminates rest with ⟨more, later, rfl, ends⟩
      rcases stands.advance_char.passTerminator ends with ⟨after, passes, afterStands⟩
      have passes : (lexer.advance 1).passTerminator char = some after := passes
      rw [passes]
      refine if_pos (stands.left_lt afterStands ?_)
      rw [byteLength_cons, byteLength_append]
      omega
  · exact if_pos (stands.left_lt stands.advance_char.advance_char (Nat.le_add_left _ _))

theorem scanString_eq {quote : Char} (quotes : isQuote quote = true)
    (stands : lexer.Stands source before ⟨keywords, rest, here⟩) (escaped : Bool) :
    ScansString lexer source before keywords quote escaped (stringTail? quote rest here) := by
  have noBackslash : '\\' ≠ quote := by
    rintro rfl
    cases quotes
  fun_induction stringTail? quote rest here generalizing lexer before escaped with
  | case1 here => exact .unfinished (loop_of_last (stands.stringTurn_of_end _ _)) stands
  | case2 rest here induction =>
      rcases stands.advance_char.passTerminator (.both rest) with ⟨after, passes, next⟩
      rw [List.append_assoc] at next
      have turns := stands.scanString_escape noBackslash escaped
      rw [if_pos (by rfl)] at turns
      exact (induction next true).addEscape (turns.trans (congrArg (Option.bind · _) passes))
  | case3 char rest here notBoth induction =>
      have turns := stands.scanString_escape noBackslash escaped
      cases terminates : isLineTerminator char with
      | true =>
          have alone : char = '\r' → rest.head? ≠ some '\n' := by
            rintro rfl isFeed
            rcases List.head?_eq_some_iff.mp isFeed with ⟨later, rfl⟩
            exact notBoth later rfl rfl
          rcases stands.advance_char.passTerminator (.single terminates alone) with
            ⟨after, passes, next⟩
          rw [List.append_assoc] at next
          rw [afterEscape, if_pos terminates] at induction ⊢
          rw [if_pos terminates] at turns
          exact (induction next true).addEscape (turns.trans (congrArg (Option.bind · _) passes))
      | false =>
          have next := stands.advance_char.advance_char
          rw [List.append_assoc] at next
          rw [afterEscape, terminates, if_neg Bool.false_ne_true] at induction ⊢
          rw [terminates, if_neg Bool.false_ne_true] at turns
          exact (induction next true).addEscape turns
  | case4 char rest here _ _ closes =>
      rw [beq_iff_eq] at closes
      subst closes
      have turned := stands.stringTurn_of_plain (Ne.symm noBackslash) char escaped
      rw [if_pos rfl] at turned
      refine ⟨_, _, _, ?_, stands.advance_char, ?_⟩
      · rw [utf8Size_of_isQuote quotes]
        exact (loop_of_last turned).trans (by simp)
      · rintro tail isTail
        cases isTail
        exact ⟨rfl, rfl⟩
  | case5 char rest here _ _ goesOn breaks =>
      rw [beq_iff_eq] at goesOn
      simp only [Bool.or_eq_true, beq_iff_eq] at breaks
      have noEscape : char ≠ '\\' := by
        rintro rfl
        simp at breaks
      have turned := stands.stringTurn_of_plain noEscape quote escaped
      rw [if_neg goesOn, if_pos breaks] at turned
      exact .unfinished (loop_of_last turned) stands
  | case6 char rest here noReturn noOther goesOn sameLine induction =>
      rw [beq_iff_eq] at goesOn
      simp only [Bool.or_eq_true, beq_iff_eq] at sameLine
      by_cases isEscape : char = '\\'
      · subst isEscape
        cases rest with
        | cons next rest => exact absurd rfl (noOther next rest rfl)
        | nil =>
            have turned := stands.stringTurn_of_backslash goesOn escaped
            exact .unfinished (loop_of_last turned) stands.advance_char
      · have turned := stands.stringTurn_of_plain isEscape quote escaped
        rw [if_neg goesOn, if_neg sameLine] at turned
        have smaller := stands.left_lt stands.advance_char (Nat.le_refl _)
        exact (induction stands.advance_char escaped).turn (loop_of_more turned smaller)
          (fun _ => rfl) (fun _ => ⟨rfl, rfl⟩) (fun _ => rfl)

/-! Names and numbers. -/

theorem takeWhile_eq {loop : ByteLexer → Option ByteLexer} {condition : Char → Bool}
    (ends : ∀ {lexer before here}, lexer.Stands source before ⟨keywords, [], here⟩ →
      loop lexer = some lexer)
    (turns : ∀ {lexer before char rest here},
      lexer.Stands source before ⟨keywords, char :: rest, here⟩ →
      loop lexer = if condition char then loop (lexer.advance char.utf8Size) else some lexer)
    (stands : lexer.Stands source before ⟨keywords, rest, here⟩) :
    ∃ after, loop lexer = some after ∧
      after.Stands source (before ++ rest.takeWhile condition)
        ⟨keywords, rest.dropWhile condition, here.steps (rest.takeWhile condition)⟩ := by
  induction rest generalizing lexer before here with
  | nil =>
      rw [List.takeWhile_nil, List.append_nil]
      exact ⟨lexer, ends stands, stands⟩
  | cons char rest induction =>
      rw [turns stands]
      cases holds : condition char with
      | true =>
          rw [if_pos rfl, List.takeWhile_cons_of_pos holds, List.dropWhile_cons_of_pos holds,
            List.append_cons]
          exact induction stands.advance_char
      | false =>
          rw [if_neg Bool.false_ne_true, List.takeWhile_cons_of_neg (by simp [holds]),
            List.dropWhile_cons_of_neg (by simp [holds]), List.append_nil]
          exact ⟨lexer, rfl, stands⟩

theorem scanName_eq (stands : lexer.Stands source before ⟨keywords, rest, here⟩) :
    ∃ after, lexer.scanName = some after ∧
      after.Stands source (before ++ rest.takeWhile isIdentifierPart)
        ⟨keywords, rest.dropWhile isIdentifierPart,
          here.steps (rest.takeWhile isIdentifierPart)⟩ := by
  refine takeWhile_eq (fun stands => ?_) (fun {_ _ char _ _} stands => ?_) stands
  · rw [scanName, loop_turn, nameTurn, stands.current_eq]
    rfl
  · rw [scanName, loop_turn, nameTurn, stands.current_eq]
    simp only [List.head?_cons, Option.bind_eq_bind, Option.bind_some]
    cases isIdentifierPart char with
    | true => exact if_pos (stands.left_lt stands.advance_char (Nat.le_refl _))
    | false => rfl

theorem skipDigits_eq (stands : lexer.Stands source before ⟨keywords, rest, here⟩) :
    ∃ after, lexer.skipDigits = some after ∧
      after.Stands source (before ++ rest.takeWhile isDigit)
        ⟨keywords, rest.dropWhile isDigit, here.steps (rest.takeWhile isDigit)⟩ := by
  refine takeWhile_eq (fun stands => ?_) (fun {_ _ char rest _} stands => ?_) stands
  · rw [skipDigits, loop_turn, digitTurn, stands.firstByte_eq]
    rfl
  · have first : startsWithDigit (char :: rest) = isDigit char := rfl
    rw [skipDigits, loop_turn, digitTurn, stands.firstByte_eq, any_isDigitByte, first]
    cases digit : isDigit char with
    | true =>
        have next := stands.advance_char
        rw [utf8Size_of_ascii (toNat_of_isDigit digit)] at next ⊢
        exact if_pos (stands.left_lt next (Nat.le_refl _))
    | false => rfl

/-- The bytes of a point and of a digit after it stand where these characters do. -/
theorem point_iff {whole : ByteLexer} (stands : whole.Stands source before ⟨keywords, rest, here⟩) :
    (whole.byteAt 0 = some 0x2e ∧ (whole.byteAt 1).any isDigitByte = true) ↔
      ∃ digit more, rest = '.' :: digit :: more ∧ isDigit digit = true := by
  have point : whole.byteAt 0 = some 0x2e ↔ rest.head? = some '.' := by
    rw [stands.firstByte_eq]
    exact @getElem?_encoded '.' (by decide) _
  have second {later : List Char} (shape : rest = '.' :: later) :
      (whole.byteAt 1).any isDigitByte = startsWithDigit later := by
    subst shape
    have byte : whole.byteAt 1 = (encoded later)[0]? := byteAt_eq ['.'] stands
    rw [byte, any_isDigitByte]
  constructor
  · rintro ⟨first, decimal⟩
    rcases List.head?_eq_some_iff.mp (point.mp first) with ⟨later, shape⟩
    rw [second shape] at decimal
    cases later with
    | nil => cases decimal
    | cons digit more => exact ⟨digit, more, shape, decimal⟩
  · rintro ⟨digit, more, shape, decimal⟩
    exact ⟨point.mpr (by rw [shape]; rfl), (second shape).trans decimal⟩

theorem scanNumber_eq (stands : lexer.Stands source before ⟨keywords, rest, here⟩) :
    ∃ after, lexer.scanNumber = some after ∧
      after.Stands source (before ++ (splitNumber rest).1)
        ⟨keywords, (splitNumber rest).2, here.steps (splitNumber rest).1⟩ := by
  rcases stands.skipDigits_eq with ⟨whole, found, wholeStands⟩
  rw [scanNumber, found, Option.bind_eq_bind, Option.bind_some]
  by_cases fraction : ∃ digit more, rest.dropWhile isDigit = '.' :: digit :: more ∧
      isDigit digit = true
  · rw [if_pos (wholeStands.point_iff.mpr fraction)]
    rcases fraction with ⟨digit, more, shape, decimal⟩
    have split : splitNumber rest = (rest.takeWhile isDigit ++ '.' ::
        (digit :: more).takeWhile isDigit, (digit :: more).dropWhile isDigit) := by
      rw [splitNumber]
      simp only [shape, decimal, if_true]
    rw [shape] at wholeStands
    rcases (advance_char wholeStands).skipDigits_eq with ⟨after, decimals, afterStands⟩
    refine ⟨after, decimals, ?_⟩
    have place : here.steps (rest.takeWhile isDigit ++ '.' :: (digit :: more).takeWhile isDigit) =
        ((here.steps (rest.takeWhile isDigit)).step '.').steps
          ((digit :: more).takeWhile isDigit) := List.foldl_append
    rw [split, place, List.append_cons, ← List.append_assoc, ← List.append_assoc]
    exact afterStands
  · rw [if_neg (mt wholeStands.point_iff.mp fraction)]
    have noPoint : ∀ digit more, rest.dropWhile isDigit = '.' :: digit :: more →
        isDigit digit = false := fun digit more shape =>
      Bool.eq_false_iff.mpr fun decimal => fraction ⟨digit, more, shape, decimal⟩
    have split : (splitNumber rest).2 = rest.dropWhile isDigit := by
      have parts := splitNumber_append rest
      rw [splitNumber_of_whole noPoint] at parts
      exact List.append_cancel_left (parts.trans List.takeWhile_append_dropWhile.symm)
    refine ⟨whole, rfl, ?_⟩
    rw [split, splitNumber_of_whole noPoint]
    exact wholeStands

/-! Any token. -/

theorem offset_eq {model : Lexer} (stands : lexer.Stands source before model) :
    lexer.offset = model.position.offset := by
  rcases stands.counts with ⟨counted, ahead, _, _, _, _, offset, _⟩
  rw [stands.place, offset]

theorem low32_offset {model : Lexer} (stands : lexer.Stands source before model) :
    low32 lexer.offset = model.position.offset := by
  have fits := stands.byteLength_lt
  rw [stands.place, low32_of_lt (by omega), ← stands.place, stands.offset_eq]

theorem token_eq {text : List Char} {model : Lexer}
    (stands : lexer.Stands source (before ++ text) model) (position : Position) (broke : Bool)
    (kind : TokenKind) (hasEscape : Bool) :
    lexer.token (byteLength before) position broke kind hasEscape =
      some (.ok ⟨kind, String.ofList text, position, model.position.offset, broke,
        hasEscape⟩, lexer) := by
  have split : source.toList = before ++ (text ++ model.rest) := by
    rw [stands.split, List.append_assoc]
  rw [token, stands.text, stands.low32_offset, stands.place, byteLength_append,
    Span.slice?_append before text model.rest split]
  rfl

def Scans (answered : Option (Except LexicalError Token × ByteLexer)) (source : String)
    (keywords : KeywordSet) (here : Position) (broke : Bool)
    (result : Except LexicalFault Scanned) : Prop :=
  ∃ answer after passed model, answered = some (answer, after) ∧
    after.Stands source passed model ∧
    match result with
    | .error fault => answer = .error ⟨fault, here⟩
    | .ok scanned =>
        answer = .ok ⟨scanned.kind, String.ofList scanned.text, here,
          scanned.after.offset, broke, scanned.hasEscape⟩ ∧
        model = ⟨keywords, scanned.rest, scanned.after⟩

section

variable {first : Char} (stands : lexer.Stands source before ⟨keywords, first :: rest, here⟩)
  (broke : Bool)

include stands

theorem string_scans (quotes : isQuote first = true) :
    Scans (lexer.string first here broke) source keywords here broke
      (match stringTail? first rest (here.step first) with
      | none => .error .unterminatedString
      | some tail =>
          .ok ⟨.stringLiteral, first :: tail.text, tail.rest, tail.after, tail.hasEscape⟩) := by
  have opened := stands.advance_char
  rw [utf8Size_of_isQuote quotes] at opened
  rcases opened.scanString_eq quotes false with ⟨after, passed, model, found, afterStands, ended⟩
  have begins : lexer.string first here broke =
      match (stringTail? first rest (here.step first)).map (false || ·.hasEscape) with
      | none => some (.error ⟨.unterminatedString, here⟩, after)
      | some escaped => after.token lexer.offset here broke .stringLiteral escaped := by
    rw [string, found]
    cases stringTail? first rest (here.step first) <;> rfl
  cases tailFound : stringTail? first rest (here.step first) with
  | none =>
      rw [tailFound] at begins
      exact ⟨_, after, passed, model, begins, afterStands, rfl⟩
  | some tail =>
      rcases ended tail tailFound with ⟨rfl, rfl⟩
      rw [List.append_assoc, List.singleton_append] at afterStands
      rw [tailFound, Option.map_some, stands.place] at begins
      refine ⟨_, after, _, _, begins.trans (afterStands.token_eq _ _ _ _), afterStands, ?_, rfl⟩
      rw [Bool.false_or]

theorem name_scans : Scans (lexer.name here broke) source keywords here broke
    (.ok (plain (nameKind keywords (splitName (first :: rest)).1) (splitName (first :: rest)).1
      (splitName (first :: rest)).2 here)) := by
  rcases stands.scanName_eq with ⟨after, found, afterStands⟩
  have text : Span.chars? ⟨lexer.offset, after.offset⟩ after.source.toList =
      some ((first :: rest).takeWhile isIdentifierPart) := by
    rw [afterStands.text, afterStands.split, afterStands.place, stands.place, byteLength_append,
      List.append_assoc, Span.chars?_append]
  refine ⟨_, after, _, _, ?_, afterStands, rfl, rfl⟩
  rw [name, found]
  simp only [Option.bind_eq_bind, Option.bind_some, text]
  rw [afterStands.keywords, stands.place]
  exact afterStands.token_eq _ _ _ _

theorem number_scans : Scans (lexer.number here broke) source keywords here broke
    (.ok (Scan.number (first :: rest) here)) := by
  rcases stands.scanNumber_eq with ⟨after, found, afterStands⟩
  refine ⟨_, after, _, _, ?_, afterStands, rfl, rfl⟩
  rw [ByteLexer.number, found, stands.place]
  exact afterStands.token_eq _ _ _ _

theorem mark_scans {width : Nat} {mark : Punctuator}
    (found : mark? first rest = some (width, mark)) :
    Scans ((lexer.advance width).token lexer.offset here broke (.punctuator mark) false) source
      keywords here broke (.ok (plain (.punctuator mark) ((first :: rest).take width)
        ((first :: rest).drop width) here)) := by
  have bytes : byteLength ((first :: rest).take width) = width := by
    rw [mark?_eq] at found
    rcases Option.map_eq_some_iff.mp found with ⟨other, markFound, same⟩
    cases same
    rw [← utf8ByteSize_ofList, take_of_punctuator? markFound]
    -- Marks are spelled with characters of one byte.
    cases mark <;> decide
  have whole : lexer.Stands source before
      ⟨keywords, (first :: rest).take width ++ (first :: rest).drop width, here⟩ := by
    rwa [List.take_append_drop]
  have afterStands := whole.advance
  rw [bytes] at afterStands
  exact ⟨_, _, _, _, stands.place ▸ afterStands.token_eq _ _ _ _, afterStands, rfl, rfl⟩

theorem scanToken_eq : Scans (lexer.scanToken here broke) source keywords here broke
    (Scan.scan keywords first rest here) := by
  have fraction : (first == '.' && (lexer.byteAt 1).any isDigitByte) =
      (first == '.' && startsWithDigit rest) := by
    by_cases point : first = '.'
    · subst point
      have byte : lexer.byteAt 1 = (encoded rest)[0]? := stands.byteAt_eq ['.']
      rw [byte, any_isDigitByte]
    · rw [beq_false_of_ne point, Bool.false_and, Bool.false_and]
  rw [scanToken, stands.current_eq, Scan.scan]
  simp only [List.head?_cons, Option.bind_eq_bind, Option.bind_some, fraction, stands.rest_eq,
    List.tail_cons]
  split
  · exact stands.number_scans broke
  · cases found : mark? first rest with
    | some pair => exact stands.mark_scans broke found
    | none =>
        dsimp only
        split
        · next quotes => exact stands.string_scans broke quotes
        · split
          · exact stands.number_scans broke
          · split
            · exact stands.name_scans broke
            · exact ⟨_, lexer, _, _, rfl, stands, rfl⟩

end

theorem scanToken_end (stands : lexer.Stands source before ⟨keywords, [], here⟩) (broke : Bool) :
    lexer.scanToken here broke =
      some (.ok ⟨.endOfFile, "", here, here.offset, broke, false⟩, lexer) := by
  rw [scanToken, stands.current_eq, stands.low32_offset]
  rfl

theorem scan_eq_scanToken {model : Lexer} (stands : lexer.Stands source before model) :
    ∃ (after : ByteLexer) (passed : List Char),
      lexer.scan = after.scanToken model.gap.position model.gap.brokeLine ∧
      after.Stands source passed ⟨model.keywords, model.gap.rest, model.gap.position⟩ := by
  rcases stands.skipTrivia_eq false with ⟨spaced, passed, skipped, spacedStands⟩
  have fits := spacedStands.byteLength_lt
  rcases spacedStands.counts.positionAt (spacedStands.text ▸ spacedStands.split) (by omega) with
    ⟨column, placed, counts⟩
  refine ⟨{ spaced with column := column, counted := byteLength passed }, passed, ?_,
    spacedStands.text, spacedStands.keywords, spacedStands.split, spacedStands.place, counts,
    spacedStands.small⟩
  have counted := (congrArg spaced.positionAt spacedStands.place).trans placed
  rw [scan, skipped]
  simp only [Option.bind_eq_bind, Option.bind_some, counted]
  rfl

theorem scan_eq {model : Lexer} (stands : lexer.Stands source before model) :
    ∃ after passed next,
      lexer.scan = some (model.next.map (·.1), after) ∧
      after.Stands source passed next ∧
      ∀ token later, model.next = .ok (token, later) → next = later := by
  rcases stands.scan_eq_scanToken with ⟨spaced, passed, scans, spacedStands⟩
  rw [scans]
  rcases model.next_cases with finished | ⟨first, rest, fault, shape, failed⟩ |
    ⟨first, rest, scanned, shape, found⟩
  · rw [Lexer.next_of_end finished]
    rw [finished] at spacedStands
    refine ⟨spaced, passed, _, spacedStands.scanToken_end _, spacedStands, ?_⟩
    rintro token later ended
    cases ended
    rfl
  · rw [shape] at spacedStands
    rcases spacedStands.scanToken_eq model.gap.brokeLine with
      ⟨answer, after, reached, next, answers, afterStands, result⟩
    rw [failed] at result
    dsimp only at result
    subst result
    rw [Lexer.next_of_fault shape failed]
    refine ⟨after, reached, next, answers, afterStands, ?_⟩
    rintro token later ended
    cases ended
  · rw [shape] at spacedStands
    rcases spacedStands.scanToken_eq model.gap.brokeLine with
      ⟨answer, after, reached, next, answers, afterStands, result⟩
    rw [found] at result
    rcases result with ⟨rfl, rfl⟩
    rw [Lexer.next_of_scan shape found]
    refine ⟨after, reached, _, answers, afterStands, ?_⟩
    rintro token later ended
    cases ended
    rfl

theorem withDone {model : Lexer} (stands : lexer.Stands source before model) (done : Bool) :
    { lexer with done := done : ByteLexer }.Stands source before model :=
  ⟨stands.text, stands.keywords, stands.split, stands.place, stands.counts, stands.small⟩

theorem next_eq {model : Lexer} (stands : lexer.Stands source before model)
    (goesOn : lexer.done = false) :
    ∃ (after : ByteLexer) (passed : List Char) (next : Lexer),
      lexer.next = some (some (model.next.map (·.1)), after) ∧
      after.Stands source passed next ∧
      (∀ error, model.next = .error error → after.done = true) ∧
      ∀ token later, model.next = .ok (token, later) →
        next = later ∧ after.done = decide (token.kind = .endOfFile) := by
  rcases stands.scan_eq with ⟨after, passed, next, scans, afterStands, goesTo⟩
  rw [ByteLexer.next, goesOn, if_neg Bool.false_ne_true, scans]
  refine ⟨_, passed, next, rfl, afterStands.withDone _, ?_, ?_⟩
  · rintro error failed
    rw [failed]
    rfl
  · rintro token later found
    refine ⟨goesTo token later found, ?_⟩
    rw [found]
    rfl

end Stands

/-! All tokens. -/

theorem ofSource_stands (keywords : KeywordSet) {source : String}
    (small : source.utf8ByteSize + 1 < Numeral.bound32) :
    ∃ lexer before, ofSource keywords source = some lexer ∧ lexer.done = false ∧
      lexer.Stands source before (Lexer.ofSource keywords source) := by
  have counts : Counts ⟨source, keywords, 0, 1, 1, 0, false⟩ [] .origin :=
    ⟨[], [], rfl, rfl, rfl, rfl, rfl, Nat.le_refl 1, Nat.le_refl 1⟩
  have start : Stands ⟨source, keywords, 0, 1, 1, 0, false⟩ source []
      ⟨keywords, source.toList, .origin⟩ := ⟨rfl, rfl, rfl, rfl, counts, small⟩
  rcases Lexer.ofChars_cases keywords source.toList with ⟨tail, shape, skips⟩ | ⟨noLine, plain⟩
  · have width : lineWidth (bytes ⟨source, keywords, 0, 1, 1, 0, false⟩) =
        some (byteLength (source.toList.takeWhile (!isLineTerminator ·))) := by
      rw [start.bytes_eq]
      exact lineWidth_encoded source.toList
    rw [← @List.takeWhile_append_dropWhile _ (!isLineTerminator ·) source.toList] at start
    refine ⟨_, _, ?_, rfl, skips ▸ start.advance⟩
    rw [ofSource, if_pos (by rw [shape]; rfl), width]
    rfl
  · refine ⟨_, [], ?_, rfl, plain ▸ start⟩
    rw [ofSource, if_neg]
    · rfl
    · rw [List.isPrefixOf_iff_prefix]
      rintro ⟨tail, shape⟩
      exact noLine tail shape.symm

theorem answers_isSome {lexer : ByteLexer} {source : String} {before : List Char} {model : Lexer}
    (stands : lexer.Stands source before model) (calls : List Call) :
    (lexer.answers calls).isSome := by
  induction calls generalizing lexer before model with
  | nil => rfl
  | cons call calls induction =>
      have stays : ∃ result after passed next, lexer.answer call = some (result, after) ∧
          after.Stands source passed next := by
        cases call with
        | scan =>
            rcases stands.scan_eq with ⟨after, passed, next, scans, afterStands, _⟩
            refine ⟨some (model.next.map (·.1)), after, passed, next, ?_, afterStands⟩
            rw [answer, scans]
            rfl
        | next =>
            cases done : lexer.done with
            | true =>
                refine ⟨none, lexer, before, model, ?_, stands⟩
                rw [answer, ByteLexer.next, done, if_pos rfl]
                rfl
            | false =>
                rcases stands.next_eq done with ⟨after, passed, next, answers, afterStands, _⟩
                exact ⟨_, after, passed, next, answers, afterStands⟩
      rcases stays with ⟨result, after, passed, next, answers, afterStands⟩
      rcases Option.isSome_iff_exists.mp (induction afterStands) with ⟨later, found⟩
      rw [ByteLexer.answers, answers]
      simp only [Option.bind_eq_bind, Option.bind_some, found]
      rfl

theorem answers_of_done {lexer : ByteLexer} (done : lexer.done = true) (count : Nat) :
    lexer.answers (.replicate count .next) = some (.replicate count none) := by
  induction count with
  | zero => rfl
  | succ count induction =>
      have given : lexer.answer .next = some (none, lexer) := by
        rw [answer, ByteLexer.next, done, if_pos rfl]
        rfl
      rw [List.replicate_succ, answers, given]
      simp only [Option.bind_eq_bind, Option.bind_some, induction]
      rfl

end ByteLexer

def Lexed.results (lexed : Lexed) : List (Except LexicalError Token) :=
  lexed.tokens.map .ok ++ [lexed.ending.found]

namespace ByteLexer

/-- Asked for one token after another, a lexer gives those of the text, then the error or the
end-of-file token that comes after them, and then nothing more. -/
theorem answers_next {lexer : ByteLexer} {source : String} {before : List Char} {model : Lexer}
    (stands : lexer.Stands source before model) (goesOn : lexer.done = false) (count : Nat) :
    lexer.answers (.replicate count .next) =
      some ((List.range count).map fun index => model.run.results[index]?) := by
  induction count generalizing lexer before model with
  | zero => rfl
  | succ count induction =>
      rcases stands.next_eq goesOn with
        ⟨after, passed, next, answers, afterStands, failed, found⟩
      -- What comes after the first result is what the lexer after it gives.
      have counted {later : List (Except LexicalError Token)}
          (results : model.run.results = model.next.map (·.1) :: later)
          (rest : after.answers (.replicate count .next) =
            some ((List.range count).map fun index => later[index]?)) :
          lexer.answers (.replicate (count + 1) .next) = some ((List.range (count + 1)).map
            fun index => model.run.results[index]?) := by
        rw [List.replicate_succ, ByteLexer.answers, answer, answers, List.range_succ_eq_map,
          List.map_cons, List.map_map, results]
        simp only [Option.bind_eq_bind, Option.bind_some, rest]
        rfl
      have ended (done : after.done = true) : after.answers (.replicate count .next) =
          some ((List.range count).map fun index =>
            ([] : List (Except LexicalError Token))[index]?) := by
        rw [answers_of_done done]
        simp
      cases step : model.next with
      | error error =>
          rcases Lexer.run_of_fault step with ⟨tokens, ending⟩
          refine counted ?_ (ended (failed error step))
          rw [Lexed.results, tokens, ending, step]
          rfl
      | ok pair =>
          rcases pair with ⟨token, later⟩
          rcases found token later step with ⟨rfl, done⟩
          by_cases isLast : token.kind = .endOfFile
          · rcases Lexer.run_of_end step isLast with ⟨tokens, ending⟩
            refine counted ?_ (ended (by rw [done, decide_eq_true isLast]))
            rw [Lexed.results, tokens, ending, step]
            rfl
          · rcases Lexer.run_of_token step isLast with ⟨tokens, ending⟩
            refine counted ?_ (induction afterStands (by rw [done, decide_eq_false isLast]))
            rw [Lexed.results, tokens, ending, step]
            rfl

end TypedScript.ByteLexer
