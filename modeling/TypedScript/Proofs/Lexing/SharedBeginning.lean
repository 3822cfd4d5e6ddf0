import TypedScript.Proofs.Lexing.Basic
import TypedScript.Proofs.TokenOrder

/-!
Two texts with a common beginning. Main statement: what ends within the beginning is the same in
both, be it space or a token, unless it goes on beyond the beginning in one of them.
-/

namespace TypedScript

theorem split_common (taken : List Char) {left common rest : List Char}
    (whole : taken ++ left = common ++ rest) (within : byteLength rest ≤ byteLength left) :
    ∃ middle, common = taken ++ middle ∧ left = middle ++ rest := by
  rcases List.append_eq_append_iff.mp whole with inside | ⟨beyond, shape, restShape⟩
  · exact inside
  · rw [restShape, byteLength_append] at within
    have none : beyond = [] := byteLength_eq_zero.mp (by omega)
    subst none
    exact ⟨[], by rw [shape, List.append_nil, List.append_nil], restShape.symm⟩

theorem eq_of_byteLength {first second firstRest secondRest : List Char}
    (same : first ++ firstRest = second ++ secondRest)
    (length : byteLength first = byteLength second) : first = second ∧ firstRest = secondRest := by
  induction first generalizing second with
  | nil =>
      cases byteLength_eq_zero.mp length.symm
      exact ⟨rfl, same⟩
  | cons char first induction =>
      cases second with
      | nil => cases byteLength_eq_zero.mp length
      | cons other second =>
          rcases List.cons.inj same with ⟨rfl, rests⟩
          simp only [byteLength_cons, Nat.add_left_cancel_iff] at length
          rcases induction rests length with ⟨rfl, after⟩
          exact ⟨rfl, after⟩

theorem takeWhile_common {condition : Char → Bool} {common rest left : List Char}
    (within : (common ++ rest).takeWhile condition ++ left = common) :
    (common ++ rest).takeWhile condition = common.takeWhile condition := by
  rw [List.takeWhile_append] at within ⊢
  split at within
  · next whole =>
      rw [if_pos whole]
      have none : rest.takeWhile condition = [] := by simp_all
      rw [none, List.append_nil]
      exact (List.takeWhile_prefix condition).eq_of_length whole |>.symm
  · next partly => rw [if_neg partly]

namespace Trivia

theorem byteLength_skip_le (mode : Mode) (chars : List Char) (here : Position) (broke : Bool) :
    byteLength (skip mode chars here broke).rest ≤ byteLength chars := by
  rcases skip_rest_suffix mode chars here broke with ⟨skipped, split⟩
  have size := congrArg byteLength split
  rw [byteLength_append] at size
  omega

/-- Where space that begins after some characters ends within the beginning, so do these. -/
theorem split_of_skip {mode : Mode} (taken : List Char) {left common rest : List Char}
    {here : Position} {broke : Bool} (whole : common ++ rest = taken ++ left)
    (stops : byteLength rest < byteLength (skip mode left here broke).rest) :
    ∃ first tail, common = taken ++ first :: tail ∧ left = first :: (tail ++ rest) := by
  have bound := byteLength_skip_le mode left here broke
  rcases split_common taken whole.symm (by omega) with ⟨middle, rfl, rfl⟩
  cases middle with
  | nil => exact absurd (Nat.lt_of_lt_of_le stops bound) (Nat.lt_irrefl _)
  | cons first tail => exact ⟨first, tail, rfl, rfl⟩

theorem skip_next {mode : Mode} {char next : Char} {more : List Char}
    (noBreak : ∀ later, char = '\r' → next :: more = '\n' :: later → False)
    (noLine : ∀ later, mode = .plain → char = '/' → next :: more = '/' :: later → False)
    (noBlock : ∀ later, mode = .plain → char = '/' → next :: more = '*' :: later → False)
    (noClose : ∀ later, mode = .blockComment → char = '*' → next :: more = '/' :: later → False)
    (other : List Char) (here : Position) (broke : Bool) :
    skip mode (char :: next :: other) here broke =
      if isLineTerminator char then
        skip mode.afterLineBreak (next :: other) (here.newLine char.utf8Size) true
      else if mode != .plain || isBlank char then
        skip mode (next :: other) (here.step char) broke
      else
        ⟨char :: next :: other, here, broke⟩ :=
  skip.eq_6 mode here broke char (next :: other)
    (fun _ isReturn same => noBreak _ isReturn (by rw [(List.cons.inj same).1]))
    (fun _ plain slash same => noLine _ plain slash (by rw [(List.cons.inj same).1]))
    (fun _ plain slash same => noBlock _ plain slash (by rw [(List.cons.inj same).1]))
    (fun _ inside star same => noClose _ inside star (by rw [(List.cons.inj same).1]))

/-- A character that is no space stands where it is, unless it opens a comment: behind that less
would be left than stands after the character. -/
theorem skip_alone {char : Char} {rest : List Char} {here : Position} {broke : Bool}
    (goesOn : ¬isLineTerminator char = true)
    (stands : ¬(Mode.plain != Mode.plain || isBlank char) = true)
    (stops : byteLength rest ≤ byteLength (skip .plain (char :: rest) here broke).rest) :
    skip .plain (char :: rest) here broke = ⟨char :: rest, here, broke⟩ := by
  have noComment : ∀ mark later, mark = '/' ∨ mark = '*' → char = '/' →
      rest = mark :: later → False := by
    rintro mark later opens rfl rfl
    have slash : '/'.utf8Size = 1 := rfl
    have star : '*'.utf8Size = 1 := rfl
    have bound := byteLength_skip_le .lineComment later (here.steps ['/', '/']) broke
    have blockBound := byteLength_skip_le .blockComment later (here.steps ['/', '*']) broke
    rcases opens with rfl | rfl
    · simp only [skip, byteLength_cons] at stops
      omega
    · simp only [skip, byteLength_cons] at stops
      omega
  have noReturn : ∀ later, char = '\r' → rest = '\n' :: later → False := by
    rintro _ rfl _
    exact goesOn (by decide)
  have step := skip.eq_6 .plain here broke char rest noReturn
    (fun later _ => noComment _ later (.inl rfl)) (fun later _ => noComment _ later (.inr rfl))
    (fun _ impossible => by cases impossible)
  rw [if_neg goesOn, if_neg stands] at step
  exact step

/-- Space that ends within the beginning is the same in both texts, unless the second has a comment
that goes on beyond it. -/
theorem skip_common {mode : Mode} {common rest otherRest : List Char} {here : Position}
    {broke : Bool}
    (stops : byteLength rest < byteLength (skip mode (common ++ rest) here broke).rest)
    (otherStops :
      byteLength otherRest ≤ byteLength (skip mode (common ++ otherRest) here broke).rest) :
    ∃ first tail, (skip mode (common ++ rest) here broke).rest = first :: (tail ++ rest) ∧
      skip mode (common ++ otherRest) here broke =
        { skip mode (common ++ rest) here broke with rest := first :: (tail ++ otherRest) } := by
  generalize whole : common ++ rest = chars at stops ⊢
  fun_induction skip mode chars here broke generalizing common with
  | case1 => simp at stops
  | case2 mode more here broke induction =>
      rcases split_of_skip ['\r', '\n'] whole stops with ⟨first, tail, rfl, rfl⟩
      simp only [List.cons_append, List.nil_append, skip] at otherStops ⊢
      exact @induction (first :: tail) otherStops rfl stops
  | case3 more here broke induction =>
      rcases split_of_skip ['/', '/'] whole stops with ⟨first, tail, rfl, rfl⟩
      simp only [List.cons_append, List.nil_append, skip] at otherStops ⊢
      exact @induction (first :: tail) otherStops rfl stops
  | case4 more here broke induction =>
      rcases split_of_skip ['/', '*'] whole stops with ⟨first, tail, rfl, rfl⟩
      simp only [List.cons_append, List.nil_append, skip] at otherStops ⊢
      exact @induction (first :: tail) otherStops rfl stops
  | case5 more here broke induction =>
      rcases split_of_skip ['*', '/'] whole stops with ⟨first, tail, rfl, rfl⟩
      simp only [List.cons_append, List.nil_append, skip] at otherStops ⊢
      exact @induction (first :: tail) otherStops rfl stops
  | case6 mode char more here broke noBreak noLine noBlock noClose terminates induction =>
      rcases split_of_skip [char] whole stops with ⟨first, tail, rfl, rfl⟩
      have step := skip_next noBreak noLine noBlock noClose (tail ++ otherRest) here broke
      rw [if_pos terminates] at step
      simp only [List.cons_append, List.nil_append, step] at otherStops ⊢
      exact @induction (first :: tail) otherStops rfl stops
  | case7 mode char more here broke noBreak noLine noBlock noClose goesOn skipped induction =>
      rcases split_of_skip [char] whole stops with ⟨first, tail, rfl, rfl⟩
      have step := skip_next noBreak noLine noBlock noClose (tail ++ otherRest) here broke
      rw [if_neg goesOn, if_pos skipped] at step
      simp only [List.cons_append, List.nil_append, step] at otherStops ⊢
      exact @induction (first :: tail) otherStops rfl stops
  | case8 mode char more here broke noBreak noLine noBlock noClose goesOn stands =>
      cases common with
      | nil =>
          subst whole
          exact absurd stops (Nat.lt_irrefl _)
      | cons first tail =>
          cases whole
          have plain : mode = .plain := by
            cases mode with
            | plain => rfl
            | lineComment => exact absurd rfl stands
            | blockComment => exact absurd rfl stands
          subst plain
          refine ⟨char, tail, rfl, ?_⟩
          cases tail with
          | cons next tail =>
              have step := skip_next noBreak noLine noBlock noClose (tail ++ otherRest) here broke
              rw [if_neg goesOn, if_neg stands] at step
              exact step
          | nil => exact skip_alone goesOn stands otherStops

end Trivia

namespace Scan

/-! Numbers. -/

theorem splitNumber_common {common rest left : List Char}
    (within : (splitNumber (common ++ rest)).1 ++ left = common) :
    (splitNumber (common ++ rest)).1 = (splitNumber common).1 := by
  have parts := @List.takeWhile_append_dropWhile _ isDigit common
  have sameDigits : ∀ {more}, (common ++ rest).takeWhile isDigit ++ more = common →
      (common ++ rest).takeWhile isDigit = common.takeWhile isDigit ∧
        (common ++ rest).dropWhile isDigit = common.dropWhile isDigit ++ rest := by
    intro more digitsWithin
    have same := takeWhile_common digitsWithin
    have sum : common.takeWhile isDigit ++ (common ++ rest).dropWhile isDigit =
        common.takeWhile isDigit ++ (common.dropWhile isDigit ++ rest) := by
      rw [← same, List.takeWhile_append_dropWhile, same, ← List.append_assoc, parts]
    exact ⟨same, List.append_cancel_left sum⟩
  by_cases point : ∃ digit more, (common ++ rest).dropWhile isDigit = '.' :: digit :: more ∧
      isDigit digit = true
  · rcases point with ⟨digit, more, shape, decimal⟩
    rw [splitNumber_of_point shape decimal] at within ⊢
    rw [List.append_assoc] at within
    rcases sameDigits within with ⟨whole, after⟩
    rw [whole] at within ⊢
    have ends : common.dropWhile isDigit = '.' :: ((digit :: more).takeWhile isDigit ++ left) :=
      List.append_cancel_left (parts.trans within.symm)
    rw [after, ends] at shape
    have decimals := (List.cons.inj shape).2
    rw [List.takeWhile_cons_of_pos decimal, List.cons_append] at ends decimals
    have later : more.takeWhile isDigit ++ left ++ rest = more := (List.cons.inj decimals).2
    have sameDecimals := @takeWhile_common isDigit (digit :: (more.takeWhile isDigit ++ left)) rest
      left (by rw [List.cons_append, later, List.takeWhile_cons_of_pos decimal, List.cons_append])
    rw [List.cons_append, later] at sameDecimals
    rw [splitNumber_of_point ends decimal, sameDecimals]
  · have noPoint : ∀ digit more, (common ++ rest).dropWhile isDigit = '.' :: digit :: more →
        isDigit digit = false := by
      grind
    rw [splitNumber_of_whole noPoint] at within ⊢
    rcases sameDigits within with ⟨whole, after⟩
    rw [whole, splitNumber_of_whole]
    intro digit more shape
    rw [after, shape] at noPoint
    exact noPoint digit (more ++ rest) rfl

/-! Marks. -/

theorem find?_unique {α : Type} {condition other : α → Bool} {list : List α} {first second : α}
    (found : list.find? condition = some first) (otherFound : list.find? other = some second)
    (fits : other first = true) (otherFits : condition second = true) : first = second := by
  induction list with
  | nil => cases found
  | cons head tail induction =>
      rw [List.find?_cons] at found otherFound
      cases holds : condition head with
      | true =>
          rw [holds] at found
          cases found
          rw [fits] at otherFound
          exact Option.some.inj otherFound
      | false =>
          rw [holds] at found
          cases otherHolds : other head with
          | true =>
              rw [otherHolds] at otherFound
              cases otherFound
              rw [holds] at otherFits
              cases otherFits
          | false =>
              rw [otherHolds] at otherFound
              exact induction found otherFound

/-- A mark within the beginning fits both texts, unless it is a question mark with a point and a
digit comes after it in the second. -/
theorem fits_common {common rest otherRest left : List Char} {mark : Punctuator}
    (fitting : fits (common ++ rest) mark = true) (within : mark.spelling.toList ++ left = common)
    (digit : common = ['?', '.'] → startsWithDigit otherRest = false) :
    fits (common ++ otherRest) mark = true := by
  simp only [fits, Bool.and_eq_true, List.isPrefixOf_iff_prefix] at fitting ⊢
  refine ⟨⟨left ++ otherRest, by rw [← within, List.append_assoc]⟩, ?_⟩
  by_cases isDot : mark = .questionDot
  · subst isDot
    have spelling : Punctuator.questionDot.spelling.toList = ['?', '.'] := by decide
    rw [spelling] at within
    subst within
    cases left with
    | nil => simp [digit rfl]
    | cons next left => exact fitting.2
  · simp [isDot]

theorem questionDot_cases {mark : Punctuator} {left : List Char}
    (within : mark.spelling.toList ++ left = ['?', '.']) : mark = .questionDot ∨ left = ['.'] := by
  cases mark with
  | questionDot => exact .inl rfl
  | question => exact .inr (List.cons.inj within).2
  | _ => simp [Punctuator.spelling] at within

/-- Marks within the beginning are the same in both texts, unless a number begins with the last
character of the beginning in the second. -/
theorem punctuator?_common {common rest otherRest left otherLeft : List Char}
    {mark other : Punctuator} (found : punctuator? (common ++ rest) = some mark)
    (within : mark.spelling.toList ++ left = common)
    (otherFound : punctuator? (common ++ otherRest) = some other)
    (otherWithin : other.spelling.toList ++ otherLeft = common)
    (noDigit : startsWithDigit rest = false) :
    mark = other ∨ otherLeft = ['.'] ∧ startsWithDigit otherRest = true := by
  have fitting := List.find?_some found
  have otherFitting := List.find?_some otherFound
  have otherFits : fits (common ++ rest) other = true :=
    fits_common otherFitting otherWithin fun _ => noDigit
  by_cases digit : common = ['?', '.'] ∧ startsWithDigit otherRest = true
  · right
    refine ⟨?_, digit.2⟩
    rw [digit.1] at otherFitting otherWithin
    rcases questionDot_cases otherWithin with rfl | isPoint
    · simp [fits, digit.2] at otherFitting
    · exact isPoint
  · left
    refine find?_unique found otherFound (fits_common fitting within fun shape => ?_) otherFits
    simpa [shape] using digit

/-! Strings. -/

/-- Where a string that goes on after some characters ends within the beginning, so do these. -/
theorem split_of_stringTail? {quote : Char} (taken : List Char) {left common rest : List Char}
    {here : Position} {tail : StringTail} (whole : common ++ rest = taken ++ left)
    (found : stringTail? quote left here = some tail)
    (within : byteLength rest ≤ byteLength tail.rest) :
    ∃ first more, common = taken ++ first :: more ∧ left = first :: (more ++ rest) := by
  have size := congrArg byteLength (stringTail?_append found)
  have notEmpty := stringTail?_text_ne_nil found
  rw [ne_eq, ← byteLength_eq_zero] at notEmpty
  rw [byteLength_append] at size
  rcases split_common taken whole.symm (by omega) with ⟨middle, rfl, rfl⟩
  cases middle with
  | nil =>
      rw [List.nil_append] at size
      omega
  | cons first more => exact ⟨first, more, rfl, rfl⟩

theorem stringTail?_plain {char : Char} (plain : char ≠ '\\') (quote : Char) (rest : List Char)
    (here : Position) :
    stringTail? quote (char :: rest) here =
      if char == quote then some ⟨[char], rest, here.step char, false⟩
      else if char == '\n' || char == '\r' then none
      else (stringTail? quote rest (here.step char)).map (·.addPlain char) :=
  stringTail?.eq_4 quote here char rest (fun _ backslash => absurd backslash plain)
    fun _ _ backslash => absurd backslash plain

theorem stringTail?_common {quote : Char} (noBackslash : quote ≠ '\\')
    {common rest otherRest : List Char} {here : Position} {tail : StringTail}
    (found : stringTail? quote (common ++ rest) here = some tail)
    (within : byteLength rest ≤ byteLength tail.rest) :
    ∃ left, tail.rest = left ++ rest ∧
      stringTail? quote (common ++ otherRest) here =
        some { tail with rest := left ++ otherRest } := by
  generalize whole : common ++ rest = chars at found
  fun_induction stringTail? quote chars here generalizing common tail with
  | case1 => cases found
  | case2 more here induction =>
      rcases Option.map_eq_some_iff.mp found with ⟨inner, innerFound, rfl⟩
      rcases split_of_stringTail? ['\\', '\r', '\n'] whole innerFound within with
        ⟨first, middle, rfl, rfl⟩
      rcases @induction (first :: middle) inner within rfl innerFound with ⟨left, shape, other⟩
      refine ⟨left, shape, ?_⟩
      simp only [List.cons_append, List.nil_append] at other ⊢
      rw [stringTail?, other]
      rfl
  | case3 char more here noBreak induction =>
      rcases Option.map_eq_some_iff.mp found with ⟨inner, innerFound, rfl⟩
      rcases split_of_stringTail? ['\\', char] whole innerFound within with
        ⟨first, middle, rfl, rfl⟩
      rcases @induction (first :: middle) inner within rfl innerFound with ⟨left, shape, other⟩
      refine ⟨left, shape, ?_⟩
      simp only [List.cons_append, List.nil_append] at other ⊢
      rw [stringTail?.eq_3 _ _ _ _
        fun _ isReturn same => noBreak _ isReturn (by rw [(List.cons.inj same).1]), other]
      rfl
  | case4 char more here noBreak noEscape closes =>
      cases found
      rcases split_common [char] whole.symm within with ⟨left, rfl, rfl⟩
      have plain : char ≠ '\\' := by
        rw [beq_iff_eq.mp closes]
        exact noBackslash
      refine ⟨left, rfl, ?_⟩
      rw [List.append_assoc, List.singleton_append, stringTail?_plain plain, if_pos closes]
  | case5 => cases found
  | case6 char more here noBreak noEscape unclosed goesOn induction =>
      rcases Option.map_eq_some_iff.mp found with ⟨inner, innerFound, rfl⟩
      rcases split_of_stringTail? [char] whole innerFound within with ⟨first, middle, rfl, rfl⟩
      rcases @induction (first :: middle) inner within rfl innerFound with ⟨left, shape, other⟩
      refine ⟨left, shape, ?_⟩
      have plain : char ≠ '\\' := fun backslash => noEscape _ _ backslash rfl
      simp only [List.cons_append, List.nil_append] at other ⊢
      rw [stringTail?_plain plain, if_neg unclosed, if_neg goesOn, other]
      rfl

/-! Any token. -/

theorem scan_name {keywords : KeywordSet} {first : Char} {rest : List Char} {here : Position}
    {scanned : Scanned} (found : scan keywords first rest here = .ok scanned)
    (noQuote : isQuote first = false) (starts : isIdentifierStart first = true) :
    scanned = plain (nameKind keywords ((first :: rest).takeWhile isIdentifierPart))
      ((first :: rest).takeWhile isIdentifierPart) ((first :: rest).dropWhile isIdentifierPart)
      here := by
  rw [scan_eq, if_neg (by simp [noQuote]), if_pos starts] at found
  exact (Except.ok.inj found).symm

theorem scan_mark_or_number {keywords : KeywordSet} {first : Char} {rest : List Char}
    {here : Position} {scanned : Scanned} (found : scan keywords first rest here = .ok scanned)
    (noQuote : isQuote first = false) (noName : isIdentifierStart first = false) :
    (∃ mark after, (splitNumber (first :: rest)).1 = [] ∧
      punctuator? (first :: rest) = some mark ∧
      scanned = plain (.punctuator mark) mark.spelling.toList after here) ∨
    ∃ after, (splitNumber (first :: rest)).1 ≠ [] ∧
      scanned = plain .numericLiteral (splitNumber (first :: rest)).1 after here := by
  rw [scan_eq, if_neg (by simp [noQuote]), if_neg (by simp [noName])] at found
  dsimp only at found
  split at found
  · next isEmpty =>
      split at found
      · cases found
      · next mark markFound =>
          have spelled := take_of_punctuator? markFound
          refine .inl ⟨mark, (first :: rest).drop mark.spelling.length,
            List.isEmpty_iff.mp isEmpty, markFound, ?_⟩
          rw [← Except.ok.inj found, ← spelled, String.toList_ofList, spelled]
  · next notEmpty =>
      exact .inr ⟨_, by simpa using notEmpty, (Except.ok.inj found).symm⟩

theorem startsWithDigit_of_error {keywords : KeywordSet} {first : Char} {rest : List Char}
    {here : Position} {fault : LexicalFault}
    (failed : scan keywords first rest here = .error fault) :
    startsWithDigit (first :: rest) = false := by
  cases digit : isDigit first with
  | false => exact digit
  | true =>
      have noQuote : isQuote first = false := by
        cases quoted : isQuote first with
        | false => rfl
        | true =>
            simp only [isQuote, Bool.or_eq_true, beq_iff_eq] at quoted
            rcases quoted with rfl | rfl <;> cases digit
      have number : (splitNumber (first :: rest)).1 ≠ [] := by
        unfold splitNumber
        dsimp only
        rw [List.takeWhile_cons_of_pos digit]
        split
        · split <;> simp
        · simp
      rw [scan_eq, if_neg (by simp [noQuote])] at failed
      split at failed
      · cases failed
      · dsimp only at failed
        rw [if_neg (by simpa using number)] at failed
        cases failed

/-- Where a token ends within the beginning, so does the number that the text begins with. -/
theorem splitNumber_scan {keywords : KeywordSet} {first : Char} {tail rest left : List Char}
    {here : Position} {scanned : Scanned}
    (found : scan keywords first (tail ++ rest) here = .ok scanned)
    (noQuote : isQuote first = false) (noName : isIdentifierStart first = false)
    (taken : first :: tail = scanned.text ++ left) :
    (splitNumber (first :: (tail ++ rest))).1 = (splitNumber (first :: tail)).1 := by
  rcases scan_mark_or_number found noQuote noName with ⟨_, _, none, _⟩ | ⟨_, _, rfl⟩
  · exact @splitNumber_common (first :: tail) rest (first :: tail) (by
      rw [List.cons_append, none, List.nil_append])
  · exact @splitNumber_common (first :: tail) rest left taken.symm

theorem scan_string_common {keywords : KeywordSet} {first : Char}
    {tail rest otherRest : List Char} {here : Position} {scanned other : Scanned}
    (found : scan keywords first (tail ++ rest) here = .ok scanned)
    (within : byteLength rest ≤ byteLength scanned.rest)
    (otherFound : scan keywords first (tail ++ otherRest) here = .ok other)
    (quoted : isQuote first = true) :
    ∃ left, scanned.rest = left ++ rest ∧ other = { scanned with rest := left ++ otherRest } := by
  rw [scan_eq] at found otherFound
  rw [if_pos quoted] at found otherFound
  have noBackslash : first ≠ '\\' := by
    rintro rfl
    exact absurd quoted (by decide)
  cases tailFound : stringTail? first (tail ++ rest) (here.step first) with
  | none =>
      rw [tailFound] at found
      cases found
  | some string =>
      rw [tailFound] at found
      cases found
      rcases @stringTail?_common first noBackslash tail rest otherRest _ _ tailFound within with
        ⟨left, shape, otherTail⟩
      rw [otherTail] at otherFound
      cases otherFound
      exact ⟨left, shape, rfl⟩

/-- Tokens within the beginning are the same in both texts, unless a number begins with the last
character of the beginning in the second. -/
theorem scan_common {keywords : KeywordSet} {first : Char} {tail rest otherRest : List Char}
    {here : Position} {scanned other : Scanned}
    (found : scan keywords first (tail ++ rest) here = .ok scanned)
    (within : byteLength rest ≤ byteLength scanned.rest)
    (otherFound : scan keywords first (tail ++ otherRest) here = .ok other)
    (otherWithin : byteLength otherRest ≤ byteLength other.rest)
    (noDigit : startsWithDigit rest = false) :
    ∃ left, scanned.rest = left ++ rest ∧
      (other = { scanned with rest := left ++ otherRest } ∨
        other.rest = '.' :: otherRest ∧ startsWithDigit otherRest = true) := by
  have whole : scanned.text ++ scanned.rest = first :: tail ++ rest := (scan_ok found).1
  have otherWhole : other.text ++ other.rest = first :: tail ++ otherRest := (scan_ok otherFound).1
  rcases split_common _ whole within with ⟨left, taken, shape⟩
  rcases split_common _ otherWhole otherWithin with ⟨otherLeft, otherTaken, otherShape⟩
  refine ⟨left, shape, ?_⟩
  have same : ∀ {kind text after otherAfter}, scanned = plain kind text after here →
      other = plain kind text otherAfter here →
      other = { scanned with rest := left ++ otherRest } := by
    rintro kind text after otherAfter rfl rfl
    have sameLeft : otherLeft = left := List.append_cancel_left (otherTaken.symm.trans taken)
    rw [← sameLeft, ← otherShape]
    rfl
  cases quoted : isQuote first with
  | true =>
      rcases scan_string_common found within otherFound quoted with ⟨middle, sameShape, alike⟩
      rw [List.append_cancel_right (shape.symm.trans sameShape)]
      exact .inl alike
  | false =>
      cases starts : isIdentifierStart first with
      | true =>
          have isName := scan_name found quoted starts
          have otherIsName := scan_name otherFound quoted starts
          have text : (first :: (tail ++ rest)).takeWhile isIdentifierPart =
              (first :: tail).takeWhile isIdentifierPart :=
            @takeWhile_common _ (first :: tail) rest left
              (taken.trans (congrArg (·.text ++ left) isName)).symm
          have otherText : (first :: (tail ++ otherRest)).takeWhile isIdentifierPart =
              (first :: tail).takeWhile isIdentifierPart :=
            @takeWhile_common _ (first :: tail) otherRest otherLeft
              (otherTaken.trans (congrArg (·.text ++ otherLeft) otherIsName)).symm
          rw [text] at isName
          rw [otherText] at otherIsName
          exact .inl (same isName otherIsName)
      | false =>
          have number := splitNumber_scan found quoted starts taken
          have otherNumber := splitNumber_scan otherFound quoted starts otherTaken
          rcases scan_mark_or_number found quoted starts with
            ⟨mark, after, none, markFound, isMark⟩ | ⟨after, some, isNumber⟩
          · rcases scan_mark_or_number otherFound quoted starts with
              ⟨otherMark, otherAfter, _, otherMarkFound, otherIsMark⟩ | ⟨_, otherSome, _⟩
            · subst isMark otherIsMark
              rcases punctuator?_common markFound taken.symm otherMarkFound otherTaken.symm noDigit
                with rfl | ⟨isPoint, digit⟩
              · exact .inl (same rfl rfl)
              · exact .inr ⟨by rw [otherShape, isPoint]; rfl, digit⟩
            · exact absurd (otherNumber.trans (number.symm.trans none)) otherSome
          · rcases scan_mark_or_number otherFound quoted starts with
              ⟨_, _, otherNone, _⟩ | ⟨otherAfter, _, otherIsNumber⟩
            · exact absurd (number.trans (otherNumber.symm.trans otherNone)) some
            · rw [number] at isNumber
              rw [otherNumber] at otherIsNumber
              exact .inl (same isNumber otherIsNumber)

end Scan

end TypedScript
