import TypedScript.Proofs.Lexing.SharedBeginning

/-!
Characters that end a token, such as a blank, a line feed and a closing parenthesis. Main
statements: a token is the same alone as in the text that it was read from, and it stays the same
before a separator.
-/

namespace TypedScript

theorem takeWhile_before {condition : Char → Bool} {stop : Char} (fails : condition stop = false)
    (chars more : List Char) :
    (chars ++ stop :: more).takeWhile condition = chars.takeWhile condition ∧
      (chars ++ stop :: more).dropWhile condition =
        chars.dropWhile condition ++ stop :: more := by
  induction chars with
  | nil => simp [fails]
  | cons char chars induction =>
      by_cases passes : condition char = true <;> simp_all

namespace Scan

/-- A character that no token but a string can have after its first one, and with which neither a
comment begins nor one ends. -/
structure Separator (stop : Char) : Prop where
  noName : isIdentifierPart stop = false
  noDigit : isDigit stop = false
  noMark : ∀ mark : Punctuator, stop ∉ mark.spelling.toList.tail
  noSlash : stop ≠ '/'
  noStar : stop ≠ '*'

theorem Separator.feed : Separator '\n' :=
  ⟨by decide, by decide, fun mark => by cases mark <;> decide, by decide, by decide⟩

theorem Separator.blank : Separator ' ' :=
  ⟨by decide, by decide, fun mark => by cases mark <;> decide, by decide, by decide⟩

theorem Separator.closeParen : Separator ')' :=
  ⟨by decide, by decide, fun mark => by cases mark <;> decide, by decide, by decide⟩

theorem Separator.noPoint {stop : Char} (separator : Separator stop) : stop ≠ '.' := by
  rintro rfl
  exact separator.noMark .dotDotDot (by decide)

theorem stringTail?_joined {quote : Char} (noBackslash : quote ≠ '\\') {chars : List Char}
    {here : Position} {tail : StringTail} (found : stringTail? quote chars here = some tail)
    (more : List Char) :
    stringTail? quote (chars ++ more) here = some { tail with rest := tail.rest ++ more } := by
  fun_induction stringTail? quote chars here generalizing tail with
  | case1 => cases found
  | case2 rest here induction =>
      rcases Option.map_eq_some_iff.mp found with ⟨inner, innerFound, rfl⟩
      rw [List.cons_append, List.cons_append, List.cons_append, stringTail?,
        induction innerFound]
      rfl
  | case3 char rest here noBreak induction =>
      rcases Option.map_eq_some_iff.mp found with ⟨inner, innerFound, rfl⟩
      have noBreakLater : ∀ later, char = '\r' → rest ++ more = '\n' :: later → False := by
        intro later isReturn isFeed
        cases rest with
        | nil => cases innerFound
        | cons next rest =>
            cases isFeed
            exact noBreak rest isReturn rfl
      rw [List.cons_append, List.cons_append, stringTail?.eq_3 _ _ _ _ noBreakLater,
        induction innerFound]
      rfl
  | case4 char rest here _ _ closes =>
      cases found
      have isQuote : char = quote := beq_iff_eq.mp closes
      rw [List.cons_append, stringTail?.eq_4 _ _ _ _
        (fun _ isBackslash => absurd (isQuote.symm.trans isBackslash) noBackslash)
        (fun _ _ isBackslash => absurd (isQuote.symm.trans isBackslash) noBackslash),
        if_pos closes]
  | case5 => cases found
  | case6 char rest here _ noEscape unclosed goesOn induction =>
      rcases Option.map_eq_some_iff.mp found with ⟨inner, innerFound, rfl⟩
      have plain : char ≠ '\\' := by
        rintro rfl
        cases rest with
        | nil => cases innerFound
        | cons next rest => exact noEscape next rest rfl rfl
      rw [List.cons_append, stringTail?.eq_4 _ _ _ _
        (fun _ isBackslash => absurd isBackslash plain)
        (fun _ _ isBackslash => absurd isBackslash plain), if_neg unclosed, if_neg goesOn,
        induction innerFound]
      rfl

variable {stop : Char}

theorem splitNumber_before (separator : Separator stop) (chars more : List Char) :
    splitNumber (chars ++ stop :: more) =
      ((splitNumber chars).1, (splitNumber chars).2 ++ stop :: more) := by
  rcases takeWhile_before separator.noDigit chars more with ⟨whole, rest⟩
  unfold splitNumber
  rw [whole, rest]
  dsimp only
  match chars.dropWhile isDigit with
  | [] => simp [separator.noPoint]
  | [point] =>
      by_cases isPoint : point = '.'
      · subst isPoint
        simp [separator.noDigit]
      · simp [isPoint]
  | point :: digit :: later =>
      by_cases isPoint : point = '.'
      · subst isPoint
        rcases takeWhile_before separator.noDigit (digit :: later) more with ⟨decimals, tail⟩
        rw [List.cons_append] at decimals tail
        simp only [List.cons_append, decimals, tail]
        split <;> rfl
      · simp [isPoint]

theorem isPrefixOf_before {spelling : List Char} (absent : stop ∉ spelling)
    (chars more : List Char) :
    spelling.isPrefixOf (chars ++ stop :: more) = spelling.isPrefixOf chars := by
  induction spelling generalizing chars with
  | nil => rfl
  | cons char spelling induction =>
      rw [List.mem_cons, not_or] at absent
      cases chars with
      | nil => simp [List.isPrefixOf, Ne.symm absent.1]
      | cons first chars => simp [List.isPrefixOf, induction absent.2]

theorem startsWithDigit_before (separator : Separator stop) (chars more : List Char) :
    startsWithDigit (chars ++ stop :: more) = startsWithDigit chars := by
  cases chars with
  | nil => exact separator.noDigit
  | cons => rfl

theorem fits_before (separator : Separator stop) (first : Char) (chars more : List Char)
    (mark : Punctuator) :
    fits (first :: (chars ++ stop :: more)) mark = fits (first :: chars) mark := by
  have begins : mark.spelling.toList.isPrefixOf (first :: (chars ++ stop :: more)) =
      mark.spelling.toList.isPrefixOf (first :: chars) := by
    have absent := separator.noMark mark
    generalize mark.spelling.toList = spelling at absent ⊢
    cases spelling with
    | nil => rfl
    | cons char spelling =>
        rw [List.tail_cons] at absent
        simp [List.isPrefixOf, isPrefixOf_before absent]
  unfold fits
  rw [begins]
  by_cases isDot : mark = .questionDot
  · subst isDot
    cases chars with
    | nil => simp [Punctuator.spelling, List.isPrefixOf]
    | cons second later => exact congrArg _ (by simp [startsWithDigit_before separator])
  · rw [beq_eq_false_iff_ne.mpr isDot, Bool.false_and, Bool.false_and]

theorem punctuator?_before (separator : Separator stop) (first : Char) (chars more : List Char) :
    punctuator? (first :: (chars ++ stop :: more)) = punctuator? (first :: chars) := by
  have same : fits (first :: (chars ++ stop :: more)) = fits (first :: chars) :=
    funext (fits_before separator first chars more)
  rw [punctuator?, punctuator?, same]

theorem spelling_length_le {chars : List Char} {mark : Punctuator}
    (found : punctuator? chars = some mark) : mark.spelling.length ≤ chars.length := by
  have fitting := List.find?_some found
  simp only [fits, Bool.and_eq_true, List.isPrefixOf_iff_prefix] at fitting
  rw [← String.length_toList]
  exact fitting.1.length_le

theorem scan_before {keywords : KeywordSet} {first : Char} {rest : List Char} {here : Position}
    {scanned : Scanned} (separator : Separator stop)
    (found : scan keywords first rest here = .ok scanned) (more : List Char) :
    scan keywords first (rest ++ stop :: more) here =
      .ok { scanned with rest := scanned.rest ++ stop :: more } := by
  have name := takeWhile_before separator.noName (first :: rest) more
  have number := splitNumber_before separator (first :: rest) more
  have mark := punctuator?_before separator first rest more
  rw [List.cons_append] at name number
  rw [scan_eq] at found ⊢
  split at found
  · next quoted =>
      have noBackslash : first ≠ '\\' := by
        rintro rfl
        cases quoted
      rw [if_pos quoted]
      cases tailFound : stringTail? first rest (here.step first) with
      | none =>
          rw [tailFound] at found
          cases found
      | some tail =>
          rw [tailFound] at found
          rw [stringTail?_joined noBackslash tailFound]
          cases found
          rfl
  · next unquoted =>
      rw [if_neg unquoted]
      split at found
      · next starts =>
          rw [if_pos starts, splitName, name.1, name.2]
          cases found
          rfl
      · next other =>
          rw [if_neg other, number, mark]
          dsimp only at found ⊢
          split at found
          · next empty =>
              rw [if_pos empty]
              cases markFound : punctuator? (first :: rest) with
              | none =>
                  rw [markFound] at found
                  cases found
              | some mark =>
                  rw [markFound] at found
                  cases found
                  have within := spelling_length_le markFound
                  dsimp only [plain]
                  rw [← List.cons_append, List.take_append_of_le_length within,
                    List.drop_append_of_le_length within]
          · next isNumber =>
              rw [if_neg isNumber]
              cases found
              rfl

/-! Tokens with nothing after them. -/

theorem punctuator?_spelling {mark : Punctuator} (lexed : mark ∈ Punctuator.lexed) :
    punctuator? mark.spelling.toList = some mark := by
  have all : ∀ mark ∈ Punctuator.lexed, punctuator? mark.spelling.toList = some mark := by
    decide +kernel
  exact all mark lexed

theorem split_takeWhile (condition : Char → Bool) (chars : List Char) :
    (chars.takeWhile condition).takeWhile condition = chars.takeWhile condition ∧
      (chars.takeWhile condition).dropWhile condition = [] := by
  have all : ∀ char ∈ chars.takeWhile condition, condition char = true :=
    List.all_eq_true.mp List.all_takeWhile
  have taken := @List.takeWhile_append_of_pos _ condition _ [] all
  have left := @List.dropWhile_append_of_pos _ condition _ [] all
  rw [List.append_nil] at taken left
  exact ⟨by simpa using taken, by simpa using left⟩

theorem stringTail?_alone {quote : Char} (noBackslash : quote ≠ '\\') {chars : List Char}
    {here : Position} {tail : StringTail} (found : stringTail? quote chars here = some tail) :
    stringTail? quote tail.text here = some { tail with rest := [] } := by
  rw [← stringTail?_append found] at found
  rcases @stringTail?_common quote noBackslash tail.text tail.rest [] here tail found
    (Nat.le_refl _) with ⟨left, shape, alone⟩
  obtain rfl : left = [] := List.append_left_eq_self.mp shape.symm
  rwa [List.append_nil] at alone

theorem scan_alone {keywords : KeywordSet} {first : Char} {rest : List Char} {here : Position}
    {scanned : Scanned} (found : scan keywords first rest here = .ok scanned) :
    ∃ chars, scanned.text = first :: chars ∧
      scan keywords first chars here = .ok { scanned with rest := [] } := by
  rcases scan_ok found with ⟨whole, notEmpty⟩
  rcases List.exists_cons_of_ne_nil notEmpty with ⟨head, chars, text⟩
  rw [text, List.cons_append, List.cons.injEq] at whole
  rcases whole with ⟨rfl, rfl⟩
  refine ⟨chars, text, ?_⟩
  cases quoted : isQuote head with
  | true =>
      have noBackslash : head ≠ '\\' := by
        rintro rfl
        cases quoted
      rw [scan_eq, if_pos quoted] at found ⊢
      cases tailFound : stringTail? head (chars ++ scanned.rest) (here.step head) with
      | none =>
          rw [tailFound] at found
          cases found
      | some tail =>
          rw [tailFound] at found
          have same := Except.ok.inj found
          rw [← same, List.cons.injEq] at text
          rw [← text.2, stringTail?_alone noBackslash tailFound, ← same]
  | false =>
      cases starts : isIdentifierStart head with
      | true =>
          have name := scan_name found quoted starts
          have split := split_takeWhile isIdentifierPart (head :: (chars ++ scanned.rest))
          rw [name, plain] at text
          dsimp only at text
          rw [text] at split
          rw [scan_eq, if_neg (by simp [quoted]), if_pos starts, splitName, split.1, split.2, name]
          dsimp only [plain]
          rw [text]
      | false =>
          have number := @splitNumber_scan _ _ _ _ [] _ _ found quoted starts (by simp [text])
          rw [scan_eq, if_neg (by simp [quoted]), if_neg (by simp [starts])]
          rcases scan_mark_or_number found quoted starts with
            ⟨mark, after, none, markFound, isMark⟩ | ⟨after, some, isNumber⟩
          · have alone : punctuator? (head :: chars) = some mark := by
              rw [← text, isMark]
              exact punctuator?_spelling (List.mem_of_find?_eq_some markFound)
            have length : (head :: chars).length = mark.spelling.length := by
              rw [← text, isMark, ← String.length_toList]
              rfl
            dsimp only
            rw [if_pos (by rw [← number, none]; rfl), alone]
            dsimp only
            rw [List.take_of_length_le (Nat.le_of_eq length),
              List.drop_of_length_le (Nat.le_of_eq length), ← text, isMark]
            rfl
          · rw [number] at isNumber
            have digits : (splitNumber (head :: chars)).1 = head :: chars :=
              (congrArg Scanned.text isNumber).symm.trans text
            have nothing : (splitNumber (head :: chars)).2 = [] := by
              have whole := splitNumber_append (head :: chars)
              rw [digits] at whole
              exact List.append_right_eq_self.mp whole
            dsimp only
            rw [if_neg (by simp [digits]), nothing, isNumber]
            rfl

end Scan

end TypedScript
