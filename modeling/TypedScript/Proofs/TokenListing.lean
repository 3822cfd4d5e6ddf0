import TypedScript.Proofs.Encoding.Basic
import TypedScript.Proofs.LongestMatch

/-!
Listings of tokens. A listing has a line for each token, with its place, its kind and its characters
as they are. Main statement: its lines are those of the tokens, and they tell the tokens apart,
unless a string goes on over the end of a line; every line feed that such a string escapes is one
more in the listing.
-/

namespace TypedScript

def Token.listed (token : Token) : String :=
  if token.kind = .endOfFile then s!"{token.position.text} {token.kind.name}"
  else s!"{token.position.text} {token.kind.name} {token.text}"

def Token.shown (token : Token) : Nat × Nat × TokenKind × String :=
  (token.position.line, token.position.column, token.kind, token.text)

def Token.BareEnd (token : Token) : Prop :=
  token.kind = .endOfFile → token.text = ""

def Lexed.SingleLines (lexed : Lexed) : Prop :=
  ∀ token ∈ lexed.withEnd, '\n' ∉ token.text.toList

/-! Lines of a listing. -/

namespace Lexed

variable {lexed : Lexed} {last : Token}

theorem dump_eq (ended : lexed.ending = .endOfFile last) :
    lexed.dump = .ok (String.join (lexed.withEnd.map fun token => token.listed ++ "\n")) := by
  have isLast : last.kind = .endOfFile := by
    have wellFormed := lexed.endingWellFormed
    rwa [ended] at wellFormed
  have lines : lexed.tokens.map (fun token =>
        s!"{token.position.text} {token.kind.name} {token.text}\n") =
      lexed.tokens.map fun token => token.listed ++ "\n" := by
    refine List.map_congr_left fun token member => ?_
    have more := (lexed.wellFormed token member).notEnd
    rw [Token.listed, if_neg more]
    rfl
  have lastLine : s!"{last.position.text} {last.kind.name}\n" = last.listed ++ "\n" := by
    rw [Token.listed, if_pos isLast]
    rfl
  rw [dump, withEnd, ended]
  dsimp only
  rw [lines, lastLine]
  congr 1
  apply String.toList_injective
  simp

end Lexed

theorem toList_listing (tokens : List Token) :
    (String.join (tokens.map fun token => token.listed ++ "\n")).toList =
      (tokens.map fun token => token.listed.toList).flatMap (· ++ ['\n']) := by
  rw [String.toList_join, List.flatMap_map, List.flatMap_map]
  congr 1
  funext token
  rw [String.toList_append]
  rfl

theorem splitOn_lines {lines : List (List Char)} (clear : ∀ line ∈ lines, '\n' ∉ line) :
    (lines.flatMap (· ++ ['\n'])).splitOn '\n' = lines ++ [[]] := by
  induction lines with
  | nil => rfl
  | cons line lines induction =>
      rcases List.forall_mem_cons.mp clear with ⟨first, others⟩
      rw [List.flatMap_cons, List.append_assoc, List.singleton_append,
        List.splitOn_append_cons_self_of_not_mem first, induction others, List.cons_append]

theorem count_lines (lines : List (List Char)) :
    (lines.flatMap (· ++ ['\n'])).count '\n' =
      lines.length + (lines.map (List.count '\n')).sum := by
  induction lines with
  | nil => rfl
  | cons line lines induction =>
      rw [List.flatMap_cons, List.count_append, List.count_append, induction, List.map_cons,
        List.sum_cons, List.length_cons, List.count_singleton_self]
      omega

/-! What a line shows. -/

theorem not_mem_repr {char : Char} (noDigit : char.isDigit = false) (number : Nat) :
    char ∉ (toString number).toList := by
  intro member
  have digit := Nat.isDigit_of_mem_toDigits (b := 10) (n := number) (by decide) (by decide)
    (show char ∈ Nat.toDigits 10 number by simpa using member)
  rw [noDigit] at digit
  cases digit

theorem toString_inj {number other : Nat}
    (same : (toString number).toList = (toString other).toList) : number = other := by
  have digits : Nat.toDigits 10 number = Nat.toDigits 10 other := by simpa using same
  rw [← Nat.ofDigitChars_toDigits (b := 10) (n := number) (by decide) (by decide), digits,
    Nat.ofDigitChars_toDigits (by decide) (by decide)]

theorem cut_inj {item : Char} {left right more others : List Char} (clear : item ∉ left)
    (otherClear : item ∉ right) (same : left ++ item :: more = right ++ item :: others) :
    left = right ∧ more = others := by
  induction left generalizing right with
  | nil =>
      cases right with
      | nil => exact ⟨rfl, (List.cons.inj same).2⟩
      | cons first right =>
          cases (List.cons.inj same).1
          exact absurd List.mem_cons_self otherClear
  | cons first left induction =>
      cases right with
      | nil =>
          cases (List.cons.inj same).1
          exact absurd List.mem_cons_self clear
      | cons second right =>
          rcases List.cons.inj same with ⟨rfl, rest⟩
          rcases induction (List.not_mem_of_not_mem_cons clear)
            (List.not_mem_of_not_mem_cons otherClear) rest with ⟨rfl, rfl⟩
          exact ⟨rfl, rfl⟩

namespace Position

variable {position other : Position}

theorem toList_text (position : Position) :
    position.text.toList =
      (toString position.line).toList ++ ':' :: (toString position.column).toList := by
  change (toString position.line ++ ":" ++ toString position.column).toList = _
  simp

theorem not_mem_text {char : Char} (noDigit : char.isDigit = false) (noColon : char ≠ ':') :
    char ∉ position.text.toList := by
  rw [toList_text, List.mem_append, List.mem_cons, not_or, not_or]
  exact ⟨not_mem_repr noDigit _, noColon, not_mem_repr noDigit _⟩

theorem text_inj (same : position.text.toList = other.text.toList) :
    position.line = other.line ∧ position.column = other.column := by
  rw [toList_text, toList_text] at same
  rcases cut_inj (not_mem_repr rfl _) (not_mem_repr rfl _) same with ⟨line, column⟩
  exact ⟨toString_inj line, toString_inj column⟩

end Position

namespace TokenKind

theorem name_inj {kind other : TokenKind} (same : kind.name = other.name) : kind = other :=
  Kind.token.inj (Kind.eq_of_name same)

theorem lettered_name (kind : TokenKind) :
    ∀ char ∈ kind.name.toList, isAsciiLetter char = true := by
  have all : ∀ kind ∈ all, kind.name.toList.all isAsciiLetter = true := by decide +kernel
  exact List.all_eq_true.mp (all kind kind.mem_all)

theorem not_mem_name {char : Char} {kind : TokenKind} (noLetter : isAsciiLetter char = false) :
    char ∉ kind.name.toList := by
  intro member
  rw [kind.lettered_name char member] at noLetter
  cases noLetter

end TokenKind

namespace Token

variable {token other : Token}

def listedTail (token : Token) : List Char :=
  if token.kind = .endOfFile then [] else ' ' :: token.text.toList

theorem toList_listed (token : Token) :
    token.listed.toList =
      token.position.text.toList ++ ' ' :: (token.kind.name.toList ++ token.listedTail) := by
  unfold listed listedTail
  split
  · change (token.position.text ++ " " ++ token.kind.name).toList = _
    simp
  · change (token.position.text ++ " " ++ token.kind.name ++ " " ++ token.text).toList = _
    simp

theorem count_listed (ended : token.BareEnd) :
    token.listed.toList.count '\n' = token.text.toList.count '\n' := by
  have place : '\n' ∉ token.position.text.toList := Position.not_mem_text rfl (by decide)
  have tail : token.listedTail.count '\n' = token.text.toList.count '\n' := by
    unfold listedTail
    split
    · next isEnd => rw [ended isEnd]; rfl
    · exact List.count_cons_of_ne (by decide)
  rw [toList_listed, List.count_append, List.count_cons_of_ne (by decide), List.count_append,
    List.count_eq_zero_of_not_mem place, List.count_eq_zero_of_not_mem (TokenKind.not_mem_name rfl),
    tail, Nat.zero_add, Nat.zero_add]

theorem content_of_listed (ended : token.BareEnd) (otherEnded : other.BareEnd)
    (same : token.kind.name.toList ++ token.listedTail =
      other.kind.name.toList ++ other.listedTail) :
    token.kind = other.kind ∧ token.text = other.text := by
  unfold listedTail at same
  split at same
  · next isEnd =>
      split at same
      · next otherEnd =>
          rw [isEnd, otherEnd, ended isEnd, otherEnded otherEnd]
          exact ⟨rfl, rfl⟩
      · -- The name of a kind has no blank, so what has one is not the end.
        have blank : ' ' ∈ token.kind.name.toList ++ [] := by rw [same]; simp
        rw [List.append_nil] at blank
        exact absurd blank (TokenKind.not_mem_name rfl)
  · split at same
    · have blank : ' ' ∈ other.kind.name.toList ++ [] := by rw [← same]; simp
      rw [List.append_nil] at blank
      exact absurd blank (TokenKind.not_mem_name rfl)
    · rcases cut_inj (TokenKind.not_mem_name rfl) (TokenKind.not_mem_name rfl) same with
        ⟨kind, text⟩
      exact ⟨TokenKind.name_inj (String.toList_injective kind), String.toList_injective text⟩

theorem shown_of_listed (ended : token.BareEnd) (otherEnded : other.BareEnd)
    (same : token.listed.toList = other.listed.toList) : token.shown = other.shown := by
  rw [toList_listed, toList_listed] at same
  rcases cut_inj (Position.not_mem_text rfl (by decide)) (Position.not_mem_text rfl (by decide))
    same with ⟨place, rest⟩
  rcases Position.text_inj place with ⟨line, column⟩
  rcases content_of_listed ended otherEnded rest with ⟨kind, text⟩
  rw [shown, shown, line, column, kind, text]

end Token

/-! Line feeds in tokens. -/

def EndsInEscape (before : List Char) : Prop :=
  ['\\'] <:+ before ∨ ['\\', '\r'] <:+ before

theorem EndsInEscape.cons {before : List Char} (ends : EndsInEscape before) (first : Char) :
    EndsInEscape (first :: before) :=
  ends.imp (List.IsSuffix.trans · (List.suffix_cons first before))
    (List.IsSuffix.trans · (List.suffix_cons first before))

def LineFeedsEscaped (chars : List Char) : Prop :=
  ∀ before after, chars = before ++ '\n' :: after → EndsInEscape before

namespace LineFeedsEscaped

variable {char : Char} {chars : List Char}

theorem of_cons (noLineFeed : char ≠ '\n')
    (later : ∀ before after, chars = before ++ '\n' :: after → EndsInEscape (char :: before)) :
    LineFeedsEscaped (char :: chars) := by
  intro before after split
  cases before with
  | nil => exact absurd (List.cons.inj split).1 noLineFeed
  | cons first before =>
      rcases List.cons.inj split with ⟨rfl, rest⟩
      exact later before after rest

theorem cons (noLineFeed : char ≠ '\n') (escaped : LineFeedsEscaped chars) :
    LineFeedsEscaped (char :: chars) :=
  of_cons noLineFeed fun before after split => (escaped before after split).cons char

theorem escape (escaped : LineFeedsEscaped chars) : LineFeedsEscaped ('\\' :: char :: chars) := by
  refine of_cons (by decide) fun before after split => ?_
  cases before with
  | nil => exact .inl (List.suffix_refl _)
  | cons first before => exact ((escaped before after (List.cons.inj split).2).cons first).cons _

theorem lineBreak (escaped : LineFeedsEscaped chars) :
    LineFeedsEscaped ('\\' :: '\r' :: '\n' :: chars) := by
  refine of_cons (by decide) fun before after split => ?_
  rcases before with _ | ⟨first, _ | ⟨second, before⟩⟩
  · exact .inl (List.suffix_refl _)
  · cases (List.cons.inj split).1
    exact .inr (List.suffix_refl _)
  · have rest := (List.cons.inj (List.cons.inj split).2).2
    exact (((escaped before after rest).cons second).cons first).cons _

end LineFeedsEscaped

theorem StringBody.lineFeedsEscaped {quote : Char} {body : List Char}
    (isBody : StringBody quote body) (quotes : Scan.isQuote quote = true) :
    LineFeedsEscaped (body ++ [quote]) := by
  induction isBody with
  | nil =>
      have none : LineFeedsEscaped [] := fun before after split => by simp at split
      refine none.cons ?_
      rintro rfl
      cases quotes
  | plain special _ induction =>
      refine induction.cons ?_
      rintro rfl
      simp at special
  | lineBreak _ induction => exact induction.lineBreak
  | escape _ induction => exact induction.escape

theorem IsStringText.lineFeedsEscaped {text : String} (isString : IsStringText text) :
    LineFeedsEscaped text.toList := by
  rcases isString with ⟨quote, body, quotes, shape, isBody⟩
  rw [shape]
  refine (isBody.lineFeedsEscaped quotes).cons ?_
  rintro rfl
  cases quotes

theorem Lexeme.isNameText_oneLine {text : String} (name : isNameText text = true) :
    ∀ char ∈ text.toList, isLineTerminator char = false := by
  intro char member
  have part : isIdentifierPart char = true := by
    unfold isNameText at name
    split at name
    · cases name
    · next first rest shape =>
        rw [Bool.and_eq_true, List.all_eq_true] at name
        rw [shape] at member
        rcases List.mem_cons.mp member with rfl | later
        · exact isIdentifierPart_of_start name.1
        · exact name.2 char later
  cases terminates : isLineTerminator char with
  | false => rfl
  | true => exact absurd part (by rw [isIdentifierPart_of_isLineTerminator terminates]; decide)

theorem TokenKind.Takes.lineFeeds {keywords : KeywordSet} {kind : TokenKind} {text : String}
    {rest : List Char} (takes : kind.Takes keywords text rest) :
    '\n' ∉ text.toList ∨ kind = .stringLiteral ∧ LineFeedsEscaped text.toList := by
  cases kind with
  | endOfFile =>
      rw [takes.1]
      exact .inl List.not_mem_nil
  | numericLiteral => exact .inl fun member => absurd (takes.number.oneLine _ member) (by decide)
  | stringLiteral => exact .inr ⟨rfl, IsStringText.lineFeedsEscaped takes⟩
  | punctuator mark =>
      refine .inl fun member => ?_
      rw [takes.spelled] at member
      exact absurd (mark.spelling_oneLine _ member) (by decide)
  | identifier =>
      exact .inl fun member => absurd (Lexeme.isNameText_oneLine takes.1.name _ member) (by decide)
  | keyword word =>
      exact .inl fun member => absurd (Lexeme.isNameText_oneLine takes.1.name _ member) (by decide)

/-! Tokens of a text. -/

theorem lex_takes {keywords : KeywordSet} {source : String} {token : Token}
    (member : token ∈ (lex keywords source).withEnd) :
    ∃ rest, token.kind.Takes (Lexer.ofSource keywords source).keywords token.text rest := by
  rcases Lexer.ofSource_stands keywords source with ⟨_, stands⟩
  rcases Lexer.run_takes stands member with ⟨_, rest, _, _, takes⟩
  exact ⟨rest, takes⟩

theorem lex_endText {keywords : KeywordSet} {source : String} :
    ∀ token ∈ (lex keywords source).withEnd, token.BareEnd := by
  intro token member isEnd
  rcases lex_takes member with ⟨rest, takes⟩
  rw [isEnd] at takes
  exact takes.1

theorem shown_of_lines {tokens others : List Token}
    (ended : ∀ token ∈ tokens, token.BareEnd)
    (otherEnded : ∀ token ∈ others, token.BareEnd)
    (same : tokens.map (·.listed.toList) = others.map (·.listed.toList)) :
    tokens.map Token.shown = others.map Token.shown := by
  induction tokens generalizing others with
  | nil =>
      cases List.map_eq_nil_iff.mp same.symm
      rfl
  | cons token tokens induction =>
      rcases List.map_eq_cons_iff.mp same.symm with ⟨other, others, rfl, first, later⟩
      rcases List.forall_mem_cons.mp ended with ⟨tokenEnded, ended⟩
      rcases List.forall_mem_cons.mp otherEnded with ⟨firstEnded, otherEnded⟩
      rw [List.map_cons, List.map_cons, induction ended otherEnded later.symm,
        Token.shown_of_listed tokenEnded firstEnded first.symm]

namespace Lexed

variable {lexed other : Lexed}

theorem singleLines_iff : lexed.SingleLines ↔
    (lexed.withEnd.map fun token => token.text.toList.count '\n').sum = 0 := by
  simp only [SingleLines, List.sum_eq_zero_iff_forall_eq_nat, List.forall_mem_map,
    List.count_eq_zero]

structure ListedIn (lexed : Lexed) (text : String) : Prop where
  breaks : text.toList.count '\n' = lexed.withEnd.length +
    (lexed.withEnd.map fun token => token.text.toList.count '\n').sum
  /-- Where no token goes on over a line feed, the lines are those of the tokens. -/
  lines : lexed.SingleLines →
    text.toList.splitOn '\n' = lexed.withEnd.map (·.listed.toList) ++ [[]]

theorem listedIn_join (ended : ∀ token ∈ lexed.withEnd, token.BareEnd) :
    lexed.ListedIn (String.join (lexed.withEnd.map fun token => token.listed ++ "\n")) where
  breaks := by
    have counts : (lexed.withEnd.map fun token => token.listed.toList).map (List.count '\n') =
        lexed.withEnd.map fun token => token.text.toList.count '\n' := by
      rw [List.map_map]
      exact List.map_congr_left fun token member => Token.count_listed (ended token member)
    rw [toList_listing, count_lines, counts, List.length_map]
  lines single := by
    rw [toList_listing]
    refine splitOn_lines (List.forall_mem_map.mpr fun token member => ?_)
    rw [← List.count_eq_zero, Token.count_listed (ended token member), List.count_eq_zero]
    exact single token member

theorem ListedIn.shown_eq {text : String} (listed : lexed.ListedIn text)
    (otherListed : other.ListedIn text) (single : lexed.SingleLines)
    (otherSingle : other.SingleLines)
    (ended : ∀ token ∈ lexed.withEnd, token.BareEnd)
    (otherEnded : ∀ token ∈ other.withEnd, token.BareEnd) :
    lexed.withEnd.map Token.shown = other.withEnd.map Token.shown :=
  shown_of_lines ended otherEnded (List.append_cancel_right
    ((listed.lines single).symm.trans (otherListed.lines otherSingle)))

end Lexed

theorem lex_listedIn {keywords : KeywordSet} {source text : String}
    (dumped : (lex keywords source).dump = .ok text) : (lex keywords source).ListedIn text := by
  cases ending : (lex keywords source).ending with
  | failure error =>
      rw [Lexed.dump, ending] at dumped
      cases dumped
  | endOfFile last =>
      cases dumped.symm.trans (Lexed.dump_eq ending)
      exact Lexed.listedIn_join lex_endText

/-- A text without lexical errors has a listing. There are as many line feeds in it as there are
tokens, the end included, if and only if no token goes on over a line feed, which only a string does
that escapes it. Then the lines are those of the tokens, and no other tokens have this listing. -/
theorem dump_lines (keywords : KeywordSet) (source : String)
    (readable : (lex keywords source).error? = none) :
    ∃ text, (lex keywords source).dump = .ok text ∧
      (lex keywords source).ListedIn text ∧
      (text.toList.count '\n' = (lex keywords source).withEnd.length ↔
        (lex keywords source).SingleLines) ∧
      (∀ token ∈ (lex keywords source).withEnd, '\n' ∈ token.text.toList →
        token.kind = .stringLiteral ∧ LineFeedsEscaped token.text.toList) ∧
      ((lex keywords source).SingleLines → ∀ otherKeywords otherSource,
        (lex otherKeywords otherSource).SingleLines →
        (lex otherKeywords otherSource).dump = .ok text →
        (lex keywords source).withEnd.map Token.shown =
          (lex otherKeywords otherSource).withEnd.map Token.shown) := by
  have dumped : ∃ text, (lex keywords source).dump = .ok text := by
    cases ending : (lex keywords source).ending with
    | failure error =>
        rw [Lexed.error?, ending] at readable
        cases readable
    | endOfFile last => exact ⟨_, Lexed.dump_eq ending⟩
  rcases dumped with ⟨text, dumped⟩
  have listed := lex_listedIn dumped
  refine ⟨text, dumped, listed, ?_, fun token member lineFeed => ?_,
    fun single otherKeywords otherSource otherSingle otherDumped => ?_⟩
  · rw [listed.breaks, Lexed.singleLines_iff]
    omega
  · rcases lex_takes member with ⟨_, takes⟩
    exact takes.lineFeeds.resolve_left (absurd lineFeed)
  · exact listed.shown_eq (lex_listedIn otherDumped) single otherSingle lex_endText lex_endText

/-- The lines of a name, of a string and of the end. -/
theorem dump_lines_string :
    (lex .full "a 'b'").error? = none ∧ (lex .full "a 'b'").SingleLines ∧
      ∃ text, (lex .full "a 'b'").dump = .ok text ∧
        text.toList.count '\n' = (lex .full "a 'b'").withEnd.length ∧
        text.toList.splitOn '\n' =
          (lex .full "a 'b'").withEnd.map (·.listed.toList) ++ [[]] := by
  have readable : (lex .full "a 'b'").error? = none := by decide +kernel
  have single : (lex .full "a 'b'").SingleLines := by
    unfold Lexed.SingleLines
    decide +kernel
  rcases dump_lines .full "a 'b'" readable with ⟨text, dumped, listed, count, _, _⟩
  exact ⟨readable, single, text, dumped, count.mpr single, listed.lines single⟩

/-- A string that escapes the end of its line takes two lines of the listing. -/
theorem dump_breaks_string :
    (lex .full "'a\\\nb'").error? = none ∧ (lex .full "'a\\\nb'").withEnd.length = 2 ∧
      (lex .full "'a\\\nb'").dump =
        .ok "1:1 StringLiteral 'a\\\nb'\n2:3 EndOfFileToken\n" ∧
      "1:1 StringLiteral 'a\\\nb'\n2:3 EndOfFileToken\n".toList.count '\n' = 3 := by
  refine ⟨by decide +kernel, by decide +kernel, by decide +kernel, by decide +kernel⟩

end TypedScript
