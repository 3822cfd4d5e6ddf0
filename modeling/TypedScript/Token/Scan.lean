import TypedScript.Token.Marks

/-!
Single tokens. Each scanner reads the token that a text begins with, in a text that does not begin
with white space or a comment. Main statement: what a scan takes and what it leaves make up the
text, and it takes at least one character.
-/

namespace TypedScript

structure Scanned where
  kind : TokenKind
  text : List Char
  rest : List Char
  after : Position
  hasEscape : Bool
deriving DecidableEq, Repr

namespace Scan

/-! Numbers are digits with at most one point, which must have a digit after it. A sign is never
part of a number. -/

def splitNumber (chars : List Char) : List Char × List Char :=
  let whole := chars.takeWhile isDigit
  match chars.dropWhile isDigit with
  | '.' :: digit :: more =>
      if isDigit digit then
        (whole ++ '.' :: (digit :: more).takeWhile isDigit, (digit :: more).dropWhile isDigit)
      else
        (whole, '.' :: digit :: more)
  | rest => (whole, rest)

theorem splitNumber_append (chars : List Char) :
    (splitNumber chars).1 ++ (splitNumber chars).2 = chars := by
  have whole := List.takeWhile_append_dropWhile (p := isDigit) (l := chars)
  unfold splitNumber
  split
  · next digit more shape =>
      rw [shape] at whole
      split <;> simp [whole]
  · exact whole

theorem splitNumber_of_point {chars more : List Char} {digit : Char}
    (shape : chars.dropWhile isDigit = '.' :: digit :: more) (decimal : isDigit digit = true) :
    (splitNumber chars).1 =
      chars.takeWhile isDigit ++ '.' :: (digit :: more).takeWhile isDigit := by
  rw [splitNumber]
  simp only [shape, decimal, if_true]

theorem splitNumber_of_whole {chars : List Char}
    (noPoint : ∀ digit more, chars.dropWhile isDigit = '.' :: digit :: more →
      isDigit digit = false) : (splitNumber chars).1 = chars.takeWhile isDigit := by
  unfold splitNumber
  dsimp only
  split
  · next digit more shape => rw [if_neg (by simp [noPoint digit more shape])]
  · rfl

/-- Whether a text begins with a number: with a digit, or with a point that a digit comes after. -/
def StartsNumber (first : Char) (rest : List Char) : Prop :=
  isDigit first = true ∨ first = '.' ∧ startsWithDigit rest = true

theorem splitNumber_eq_nil {first : Char} {rest : List Char} :
    (splitNumber (first :: rest)).1 = [] ↔ ¬StartsNumber first rest := by
  cases digit : isDigit first with
  | true =>
      refine iff_of_false (fun empty => ?_) (fun noNumber => noNumber (.inl digit))
      have taken : ((first :: rest).takeWhile isDigit) <+: (splitNumber (first :: rest)).1 := by
        unfold splitNumber
        dsimp only
        split
        · split
          · exact List.prefix_append _ _
          · exact List.prefix_refl _
        · exact List.prefix_refl _
      rw [empty, List.takeWhile_cons_of_pos digit, List.prefix_nil] at taken
      cases taken
  | false =>
      have taken : (first :: rest).takeWhile isDigit = [] :=
        List.takeWhile_cons_of_neg (by simp [digit])
      have left : (first :: rest).dropWhile isDigit = first :: rest :=
        List.dropWhile_cons_of_neg (by simp [digit])
      constructor
      · rintro empty (isFirst | ⟨rfl, decimal⟩)
        · rw [digit] at isFirst
          cases isFirst
        · cases rest with
          | nil => cases decimal
          | cons next rest =>
              rw [splitNumber_of_point left decimal, taken] at empty
              cases empty
      · intro noNumber
        rw [splitNumber_of_whole, taken]
        intro next more shape
        rw [left] at shape
        cases shape
        exact Bool.eq_false_iff.mpr fun decimal => noNumber (.inr ⟨rfl, decimal⟩)

/-! Names. -/

def splitName (chars : List Char) : List Char × List Char :=
  (chars.takeWhile isIdentifierPart, chars.dropWhile isIdentifierPart)

def nameKind (keywords : KeywordSet) (text : List Char) : TokenKind :=
  match keywords.lookup (String.ofList text) with
  | some word => .keyword word
  | none => .identifier

/-! Strings. A string ends at the next quote like its first that no backslash stands before. A line
may end inside a string only after a backslash. -/

/-- What follows the opening quote of a string: the rest of the string, the closing quote included,
and what comes after it. -/
structure StringTail where
  text : List Char
  rest : List Char
  after : Position
  hasEscape : Bool
deriving DecidableEq, Repr

namespace StringTail

def addPlain (tail : StringTail) (char : Char) : StringTail :=
  { tail with text := char :: tail.text }

def addEscape (tail : StringTail) (escaped : List Char) : StringTail :=
  { tail with text := '\\' :: (escaped ++ tail.text), hasEscape := true }

end StringTail

def afterEscape (here : Position) (char : Char) : Position :=
  if isLineTerminator char then (here.step '\\').newLine char.utf8Size
  else (here.step '\\').step char

/-- The end of a string that `quote` opened; none if its line or the text ends first. Only an
escaped line terminator begins a new line. -/
def stringTail? (quote : Char) : List Char → Position → Option StringTail
  | [], _ => none
  | '\\' :: '\r' :: '\n' :: rest, here =>
      (stringTail? quote rest ((here.step '\\').newLine 2)).map (·.addEscape ['\r', '\n'])
  | '\\' :: char :: rest, here =>
      (stringTail? quote rest (afterEscape here char)).map (·.addEscape [char])
  | char :: rest, here =>
      if char == quote then some ⟨[char], rest, here.step char, false⟩
      else if char == '\n' || char == '\r' then none
      else (stringTail? quote rest (here.step char)).map (·.addPlain char)

theorem stringTail?_append {quote : Char} {chars : List Char} {here : Position}
    {tail : StringTail} (found : stringTail? quote chars here = some tail) :
    tail.text ++ tail.rest = chars := by
  fun_induction stringTail? quote chars here generalizing tail with
  | case1 => simp at found
  | case2 rest here induction =>
      obtain ⟨inner, innerFound, rfl⟩ := Option.map_eq_some_iff.mp found
      simp [StringTail.addEscape, induction innerFound]
  | case3 char rest here _ induction =>
      obtain ⟨inner, innerFound, rfl⟩ := Option.map_eq_some_iff.mp found
      simp [StringTail.addEscape, induction innerFound]
  | case4 =>
      cases found
      rfl
  | case5 => simp at found
  | case6 char rest here _ _ _ _ induction =>
      obtain ⟨inner, innerFound, rfl⟩ := Option.map_eq_some_iff.mp found
      simp [StringTail.addPlain, induction innerFound]

theorem stringTail?_offset {quote : Char} {chars : List Char} {here : Position}
    {tail : StringTail} (found : stringTail? quote chars here = some tail) :
    tail.after.offset = here.offset + byteLength tail.text := by
  have backslash : '\\'.utf8Size = 1 := rfl
  have newline : '\n'.utf8Size = 1 := rfl
  have carriageReturn : '\r'.utf8Size = 1 := rfl
  fun_induction stringTail? quote chars here generalizing tail with
  | case1 => simp at found
  | case2 rest here induction =>
      obtain ⟨inner, innerFound, rfl⟩ := Option.map_eq_some_iff.mp found
      have offset := induction innerFound
      simp only [StringTail.addEscape, Position.newLine, Position.step, byteLength_cons,
        byteLength_append, byteLength_nil] at offset ⊢
      omega
  | case3 char rest here _ induction =>
      obtain ⟨inner, innerFound, rfl⟩ := Option.map_eq_some_iff.mp found
      have offset := induction innerFound
      have escape : (afterEscape here char).offset = here.offset + 1 + char.utf8Size := by
        unfold afterEscape
        split <;> simp [Position.newLine, Position.step, backslash]
      simp only [StringTail.addEscape, byteLength_cons, byteLength_append, byteLength_nil]
        at offset ⊢
      omega
  | case4 =>
      cases found
      simp [Position.step]
  | case5 => simp at found
  | case6 char rest here _ _ _ _ induction =>
      obtain ⟨inner, innerFound, rfl⟩ := Option.map_eq_some_iff.mp found
      have offset := induction innerFound
      simp only [StringTail.addPlain, Position.step, byteLength_cons] at offset ⊢
      omega

/-! Any token. -/

def isQuote (char : Char) : Bool :=
  char == '"' || char == '\''

def plain (kind : TokenKind) (text rest : List Char) (here : Position) : Scanned :=
  ⟨kind, text, rest, here.steps text, false⟩

def number (chars : List Char) (here : Position) : Scanned :=
  let (text, rest) := splitNumber chars
  plain .numericLiteral text rest here

def scan (keywords : KeywordSet) (first : Char) (rest : List Char) (here : Position) :
    Except LexicalFault Scanned :=
  let chars := first :: rest
  if first == '.' && startsWithDigit rest then .ok (number chars here)
  else
    match mark? first rest with
    | some (width, mark) =>
        .ok (plain (.punctuator mark) (chars.take width) (chars.drop width) here)
    | none =>
        if isQuote first then
          match stringTail? first rest (here.step first) with
          | none => .error .unterminatedString
          | some tail =>
              .ok ⟨.stringLiteral, first :: tail.text, tail.rest, tail.after, tail.hasEscape⟩
        else if isDigit first then .ok (number chars here)
        else if isIdentifierStart first then
          let (text, after) := splitName chars
          .ok (plain (nameKind keywords text) text after here)
        else .error (.unexpectedCharacter first)

/-! What begins a mark begins no other token, but for a point. -/

theorem of_mark? {first : Char} {rest : List Char} {found : Nat × Punctuator}
    (isMark : mark? first rest = some found) :
    isQuote first = false ∧ isDigit first = false ∧ isIdentifierStart first = false := by
  unfold mark? at isMark
  dsimp only at isMark
  split at isMark
  case h_25 => cases isMark
  all_goals exact ⟨by decide, by decide, by decide⟩

theorem isIdentifierStart_of_isDigit {char : Char} (digit : isDigit char = true) :
    isIdentifierStart char = false := by
  have bounds : 48 ≤ char.toNat ∧ char.toNat ≤ 57 := by
    rw [isDigit, Bool.and_eq_true, decide_eq_true_eq, decide_eq_true_eq] at digit
    exact digit
  have small : isAscii char = true := decide_eq_true (by omega)
  have noLetter : isAsciiLetter char = false := by
    rw [isAsciiLetter, Bool.or_eq_false_iff, Bool.and_eq_false_iff, Bool.and_eq_false_iff]
    refine ⟨.inl (decide_eq_false fun above => ?_), .inl (decide_eq_false fun above => ?_)⟩
    · have : 97 ≤ char.toNat := above
      omega
    · have : 65 ≤ char.toNat := above
      omega
  have underscore : (char == '_') = false := beq_false_of_ne (by rintro rfl; cases digit)
  have dollar : (char == '$') = false := beq_false_of_ne (by rintro rfl; cases digit)
  rw [isIdentifierStart, noLetter, underscore, dollar, small]
  rfl

/-- By the class of its first character: a token is a string, a name, a number, or the longest
mark. -/
theorem scan_eq (keywords : KeywordSet) (first : Char) (rest : List Char) (here : Position) :
    scan keywords first rest here =
      if isQuote first then
        match stringTail? first rest (here.step first) with
        | none => .error .unterminatedString
        | some tail =>
            .ok ⟨.stringLiteral, first :: tail.text, tail.rest, tail.after, tail.hasEscape⟩
      else if isIdentifierStart first then
        let (text, after) := splitName (first :: rest)
        .ok (plain (nameKind keywords text) text after here)
      else
        let (text, after) := splitNumber (first :: rest)
        if text.isEmpty then
          match punctuator? (first :: rest) with
          | none => .error (.unexpectedCharacter first)
          | some mark =>
              let width := mark.spelling.length
              .ok (plain (.punctuator mark) ((first :: rest).take width)
                ((first :: rest).drop width) here)
        else
          .ok (plain .numericLiteral text after here) := by
  have empty : (splitNumber (first :: rest)).1.isEmpty = true ↔ ¬StartsNumber first rest :=
    List.isEmpty_iff.trans splitNumber_eq_nil
  unfold scan
  dsimp only
  by_cases fraction : (first == '.' && startsWithDigit rest) = true
  · rw [if_pos fraction]
    rw [Bool.and_eq_true, beq_iff_eq] at fraction
    rcases fraction with ⟨rfl, digit⟩
    have number : ¬(splitNumber ('.' :: rest)).1.isEmpty = true := by
      rw [empty]
      exact fun none => none (.inr ⟨rfl, digit⟩)
    rw [if_neg (by decide), if_neg (by decide), if_neg number]
    rfl
  · rw [if_neg fraction]
    have number : StartsNumber first rest ↔ isDigit first = true := by
      refine or_iff_left ?_
      rintro ⟨rfl, digit⟩
      exact fraction digit
    rw [number] at empty
    cases marked : mark? first rest with
    | some found =>
        rcases of_mark? marked with ⟨noQuote, noDigit, noName⟩
        rw [mark?_eq] at marked
        rcases Option.map_eq_some_iff.mp marked with ⟨mark, markFound, rfl⟩
        simp only [noQuote, noName, Bool.false_eq_true, if_false,
          if_pos (empty.mpr (by simp [noDigit])), markFound]
    | none =>
        rw [mark?_eq, Option.map_eq_none_iff] at marked
        dsimp only
        split
        · rfl
        · by_cases digit : isDigit first = true
          · have noName : ¬isIdentifierStart first = true := by
              rw [isIdentifierStart_of_isDigit digit]
              exact Bool.false_ne_true
            rw [if_pos digit, if_neg noName, if_neg (by rw [empty]; exact not_not_intro digit)]
            rfl
          · rw [if_neg digit, if_pos (empty.mpr digit), marked]

private theorem spelling_length_pos (mark : Punctuator) : 0 < mark.spelling.length := by
  cases mark <;> decide

theorem scan_ok {keywords : KeywordSet} {first : Char} {rest : List Char} {here : Position}
    {scanned : Scanned} (found : scan keywords first rest here = .ok scanned) :
    scanned.text ++ scanned.rest = first :: rest ∧ scanned.text ≠ [] := by
  rw [scan_eq] at found
  split at found
  · split at found
    · cases found
    · next tail tailFound =>
        cases found
        simp [stringTail?_append tailFound]
  · split at found
    · next _ start =>
        cases found
        simp [plain, isIdentifierPart_of_start start]
    · simp only at found
      split at found
      · split at found
        · cases found
        · next mark _ =>
            cases found
            have positive := spelling_length_pos mark
            refine ⟨List.take_append_drop _ _, ?_⟩
            simp only [plain, ne_eq, List.take_eq_nil_iff, reduceCtorEq, or_false]
            omega
      · next notEmpty =>
          cases found
          exact ⟨splitNumber_append _, by simpa [plain] using notEmpty⟩

theorem spelled_of_nameKind {keywords : KeywordSet} {text : List Char} {spelling : String}
    (spelled : (nameKind keywords text).spelling? = some spelling) :
    String.ofList text = spelling := by
  unfold nameKind at spelled
  split at spelled
  · next word found =>
      cases spelled
      exact (KeywordSet.of_lookup found).1
  · cases spelled

theorem take_of_punctuator? {chars : List Char} {mark : Punctuator}
    (found : punctuator? chars = some mark) :
    String.ofList (chars.take mark.spelling.length) = mark.spelling := by
  have fitting := List.find?_some found
  simp only [fits, Bool.and_eq_true, List.isPrefixOf_iff_prefix] at fitting
  have taken := List.prefix_iff_eq_take.mp fitting.1
  rw [String.length_toList] at taken
  rw [← taken, String.ofList_toList]

theorem stringTail?_text_ne_nil {quote : Char} {chars : List Char} {here : Position}
    {tail : StringTail} (found : stringTail? quote chars here = some tail) : tail.text ≠ [] := by
  fun_induction stringTail? quote chars here generalizing tail with
  | case1 => simp at found
  | case2 =>
      obtain ⟨inner, _, rfl⟩ := Option.map_eq_some_iff.mp found
      simp [StringTail.addEscape]
  | case3 =>
      obtain ⟨inner, _, rfl⟩ := Option.map_eq_some_iff.mp found
      simp [StringTail.addEscape]
  | case4 =>
      cases found
      simp
  | case5 => simp at found
  | case6 =>
      obtain ⟨inner, _, rfl⟩ := Option.map_eq_some_iff.mp found
      simp [StringTail.addPlain]

theorem scan_text {keywords : KeywordSet} {first : Char} {rest : List Char} {here : Position}
    {scanned : Scanned} (found : scan keywords first rest here = .ok scanned) :
    (∀ mark, scanned.kind = .punctuator mark → mark ∈ Punctuator.lexed) ∧
      (∀ text, scanned.kind.spelling? = some text → String.ofList scanned.text = text) ∧
      (scanned.kind = .stringLiteral → 2 ≤ scanned.text.length) := by
  rw [scan_eq] at found
  split at found
  · split at found
    · cases found
    · next tail tailFound =>
        cases found
        have positive := List.length_pos_iff.mpr (stringTail?_text_ne_nil tailFound)
        refine ⟨by simp, by simp [TokenKind.spelling?], fun _ => ?_⟩
        simp only [List.length_cons]
        omega
  · split at found
    · cases found
      refine ⟨?_, fun _ => spelled_of_nameKind, ?_⟩
      · simp only [plain, nameKind]
        split <;> simp
      · simp only [plain, nameKind]
        split <;> simp
    · simp only at found
      split at found
      · split at found
        · cases found
        · next mark markFound =>
            cases found
            refine ⟨fun other same => ?_, fun text spelled => ?_, by simp [plain]⟩
            · cases same
              exact List.mem_of_find?_eq_some markFound
            · cases spelled
              exact take_of_punctuator? markFound
      · cases found
        exact ⟨by simp [plain], by simp [plain, TokenKind.spelling?], by simp [plain]⟩

theorem scan_offset {keywords : KeywordSet} {first : Char} {rest : List Char} {here : Position}
    {scanned : Scanned} (found : scan keywords first rest here = .ok scanned) :
    scanned.after.offset = here.offset + byteLength scanned.text := by
  rw [scan_eq] at found
  split at found
  · split at found
    · cases found
    · next tail tailFound =>
        cases found
        have offset := stringTail?_offset tailFound
        simp only [Position.step, byteLength_cons] at offset ⊢
        omega
  · split at found
    · cases found
      exact Position.steps_offset _ _
    · simp only at found
      split at found
      · split at found
        · cases found
        · cases found
          exact Position.steps_offset _ _
      · cases found
        exact Position.steps_offset _ _

theorem scan_rest_length_lt {keywords : KeywordSet} {first : Char} {rest : List Char}
    {here : Position} {scanned : Scanned}
    (found : scan keywords first rest here = .ok scanned) :
    scanned.rest.length < (first :: rest).length := by
  obtain ⟨append, notEmpty⟩ := scan_ok found
  have positive := List.length_pos_iff.mpr notEmpty
  rw [← append, List.length_append]
  omega

end Scan

end TypedScript
