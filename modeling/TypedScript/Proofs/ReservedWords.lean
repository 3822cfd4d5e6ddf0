import Mathlib.Data.List.Forall2
import TypedScript.Parser.Entry
import TypedScript.Project
import TypedScript.Proofs.Lexing.Basic

/-!
What a set of reserved words decides. Main statement: two sets make the same tokens of a text but
for the kinds of those words that only one of them reserves, so they matter to a parser only if the
text has such a word; and a set is read from the spellings of its words in any order.
-/

namespace TypedScript

namespace KeywordSet

def kindOf (set : KeywordSet) (word : Keyword) : TokenKind :=
  if set.reserves word then .keyword word else .identifier

def DifferOn (first second : KeywordSet) (text : String) : Prop :=
  ∃ word : Keyword, text = word.spelling ∧ first.reserves word ≠ second.reserves word

instance (first second : KeywordSet) (text : String) : Decidable (first.DifferOn second text) :=
  decidable_of_iff (∃ word ∈ Keyword.all, text = word.spelling ∧
      first.reserves word ≠ second.reserves word)
    ⟨fun ⟨word, _, differ⟩ => ⟨word, differ⟩, fun ⟨word, differ⟩ => ⟨word, word.mem_all, differ⟩⟩

theorem kindOf_ne_end (set : KeywordSet) (word : Keyword) : set.kindOf word ≠ .endOfFile := by
  unfold kindOf
  split <;> simp

end KeywordSet

/-- The kinds of a token with this text under two sets: a keyword under the one that reserves it and
a plain name under the other if they differ on the text, and otherwise the same kind. -/
structure TokenKind.Renamed (first second : KeywordSet) (text : String) (kind other : TokenKind) :
    Prop where
  differs : kind ≠ other → first.DifferOn second text
  renamed : ∀ word : Keyword, text = word.spelling → first.reserves word ≠ second.reserves word →
    kind = first.kindOf word ∧ other = second.kindOf word

structure Token.Renamed (first second : KeywordSet) (token other : Token) : Prop where
  others : other = { token with kind := other.kind }
  kinds : TokenKind.Renamed first second token.text token.kind other.kind

namespace Keyword

theorem ofSpelling?_spelling (word : Keyword) : ofSpelling? word.spelling = some word := by
  cases word <;> decide

theorem ofSpelling?_eq_some {text : String} {word : Keyword} :
    ofSpelling? text = some word ↔ text = word.spelling := by
  constructor
  · intro found
    have same : (word.spelling == text) = true :=
      List.find?_some (p := fun word : Keyword => word.spelling == text) found
    exact (beq_iff_eq.mp same).symm
  · rintro rfl
    exact ofSpelling?_spelling word

theorem spelling_head (word : Keyword) :
    ∃ first rest, word.spelling.toList = first :: rest ∧ isIdentifierStart first = true := by
  cases word <;> exact ⟨_, _, rfl, by decide⟩

end Keyword

variable {first second : KeywordSet}

/-! Names and other tokens. -/

namespace Scan

theorem nameKind_spelling (set : KeywordSet) (word : Keyword) :
    nameKind set word.spelling.toList = set.kindOf word := by
  rw [nameKind, String.ofList_toList, KeywordSet.lookup, Keyword.ofSpelling?_spelling,
    KeywordSet.kindOf]
  cases reserved : set.reserves word with
  | true => simp [Option.filter, reserved]
  | false => simp [Option.filter, reserved]

theorem nameKind_other (set : KeywordSet) {text : List Char}
    (noWord : Keyword.ofSpelling? (String.ofList text) = none) :
    nameKind set text = .identifier := by
  rw [nameKind, KeywordSet.lookup, noWord, Option.filter_none]

theorem nameKind_renamed (first second : KeywordSet) (text : List Char) :
    TokenKind.Renamed first second (String.ofList text) (nameKind first text)
      (nameKind second text) := by
  cases found : Keyword.ofSpelling? (String.ofList text) with
  | none =>
      rw [nameKind_other first found, nameKind_other second found]
      refine ⟨fun different => absurd rfl different, fun word spelled _ => ?_⟩
      cases found.symm.trans (Keyword.ofSpelling?_eq_some.mpr spelled)
  | some word =>
      have spelled := Keyword.ofSpelling?_eq_some.mp found
      have chars : text = word.spelling.toList := by rw [← spelled, String.toList_ofList]
      rw [chars, nameKind_spelling, nameKind_spelling, String.ofList_toList]
      constructor
      · intro different
        refine ⟨word, rfl, fun same => different ?_⟩
        rw [KeywordSet.kindOf, KeywordSet.kindOf, same]
      · intro other sameSpelling _
        have same : word = other :=
          Option.some.inj ((Keyword.ofSpelling?_spelling word).symm.trans
            (Keyword.ofSpelling?_eq_some.mpr sameSpelling))
        rw [same]
        exact ⟨rfl, rfl⟩

end Scan

theorem TokenKind.Renamed.same {text : String} {char : Char} {rest : List Char}
    (begins : text.toList = char :: rest) (noName : isIdentifierStart char = false)
    (kind : TokenKind) : Renamed first second text kind kind := by
  refine ⟨fun different => absurd rfl different, ?_⟩
  rintro word rfl _
  rcases word.spelling_head with ⟨start, others, shape, isStart⟩
  cases begins.symm.trans shape
  cases noName.symm.trans isStart

theorem TokenKind.Renamed.end_iff {text : String} {kind other : TokenKind}
    (renamed : Renamed first second text kind other) : kind = .endOfFile ↔ other = .endOfFile := by
  by_cases same : kind = other
  · rw [same]
  · rcases renamed.differs same with ⟨word, spelled, differ⟩
    rcases renamed.renamed word spelled differ with ⟨left, right⟩
    rw [left, right]
    simp only [KeywordSet.kindOf_ne_end]

namespace Scan

theorem scan_renamed (first second : KeywordSet) (char : Char) (rest : List Char)
    (here : Position) :
    (∃ fault, scan first char rest here = .error fault ∧
      scan second char rest here = .error fault) ∨
    ∃ scanned kind, scan first char rest here = .ok scanned ∧
      scan second char rest here = .ok { scanned with kind } ∧
      TokenKind.Renamed first second (String.ofList scanned.text) scanned.kind kind := by
  by_cases starts : isIdentifierStart char = true
  · have unquoted : isQuote char ≠ true := by
      intro quoted
      simp only [isQuote, Bool.or_eq_true, beq_iff_eq] at quoted
      rcases quoted with rfl | rfl
      · exact absurd starts (by decide)
      · exact absurd starts (by decide)
    have found : ∀ set, scan set char rest here =
        .ok (plain (nameKind set (splitName (char :: rest)).1) (splitName (char :: rest)).1
          (splitName (char :: rest)).2 here) := by
      intro set
      rw [scan_eq, if_neg unquoted, if_pos starts]
    exact .inr ⟨_, nameKind second (splitName (char :: rest)).1, found first, found second,
      nameKind_renamed first second _⟩
  · -- Nothing else in a scan looks at the set.
    have same : scan second char rest here = scan first char rest here := by
      rw [scan_eq, scan_eq, if_neg starts, if_neg starts]
    rw [same]
    cases found : scan first char rest here with
    | error fault => exact .inl ⟨fault, rfl, rfl⟩
    | ok scanned =>
        rcases scan_ok found with ⟨whole, notEmpty⟩
        rcases List.exists_cons_of_ne_nil notEmpty with ⟨head, chars, text⟩
        rw [text, List.cons_append, List.cons.injEq] at whole
        rcases whole with ⟨rfl, _⟩
        refine .inr ⟨scanned, scanned.kind, rfl, rfl, ?_⟩
        exact .same (by rw [String.toList_ofList, text]) (Bool.eq_false_iff.mpr starts) _

end Scan

/-! Whole texts. -/

namespace Lexer

variable {lexer after : Lexer} {token : Token}

def withKeywords (lexer : Lexer) (keywords : KeywordSet) : Lexer :=
  { lexer with keywords }

theorem next_renamed (lexer : Lexer) (other : KeywordSet) :
    (∃ error, lexer.next = .error error ∧ (lexer.withKeywords other).next = .error error) ∨
    ∃ token renamed after, lexer.next = .ok (token, after) ∧
      (lexer.withKeywords other).next = .ok (renamed, after.withKeywords other) ∧
      after.keywords = lexer.keywords ∧ Token.Renamed lexer.keywords other token renamed := by
  have sameGap : (lexer.withKeywords other).gap = lexer.gap := rfl
  cases shape : lexer.gap.rest with
  | nil =>
      refine .inr ⟨_, _, _, next_of_end shape, next_of_end (sameGap ▸ shape), rfl, rfl, ?_⟩
      refine ⟨fun different => absurd rfl different, ?_⟩
      rintro word spelled _
      rcases word.spelling_head with ⟨_, _, chars, _⟩
      rw [← spelled] at chars
      cases chars
  | cons char rest =>
      rcases Scan.scan_renamed lexer.keywords other char rest lexer.gap.position with
        ⟨fault, failed, otherFailed⟩ | ⟨scanned, kind, found, otherFound, kinds⟩
      · exact .inl ⟨_, next_of_fault shape failed, next_of_fault (sameGap ▸ shape) otherFailed⟩
      · have otherNext := @next_of_scan (lexer.withKeywords other) char rest
          { scanned with kind } (sameGap ▸ shape) otherFound
        exact .inr ⟨_, _, _, next_of_scan shape found, otherNext, rfl, rfl, kinds⟩

theorem run_renamed (lexer : Lexer) (other : KeywordSet) :
    List.Forall₂ (Token.Renamed lexer.keywords other) lexer.run.tokens
        (lexer.withKeywords other).run.tokens ∧
      lexer.run.ending = (lexer.withKeywords other).run.ending := by
  induction lexer using run.induct with
  | case1 lexer error failed =>
      rcases lexer.next_renamed other with ⟨_, found, otherFailed⟩ | ⟨_, _, _, found, _⟩
      · cases failed.symm.trans found
        rw [(run_of_fault failed).1, (run_of_fault failed).2, (run_of_fault otherFailed).1,
          (run_of_fault otherFailed).2]
        exact ⟨.nil, rfl⟩
      · cases failed.symm.trans found
  | case2 lexer token after found last =>
      rcases lexer.next_renamed other with
        ⟨_, failed, _⟩ | ⟨_, renamed, _, again, otherFound, _, same⟩
      · cases found.symm.trans failed
      · cases found.symm.trans again
        have otherLast := same.kinds.end_iff.mp last
        have equal : token = renamed := by
          rw [same.others, otherLast, ← last]
        rw [(run_of_end found last).1, (run_of_end found last).2,
          (run_of_end otherFound otherLast).1, (run_of_end otherFound otherLast).2, equal]
        exact ⟨.nil, rfl⟩
  | case3 lexer token after found more induction =>
      rcases lexer.next_renamed other with
        ⟨_, failed, _⟩ | ⟨_, renamed, _, again, otherFound, keywords, same⟩
      · cases found.symm.trans failed
      · cases found.symm.trans again
        rw [keywords] at induction
        have otherMore : renamed.kind ≠ .endOfFile := fun last => more (same.kinds.end_iff.mpr last)
        rw [(run_of_token found more).1, (run_of_token found more).2,
          (run_of_token otherFound otherMore).1, (run_of_token otherFound otherMore).2]
        exact ⟨.cons same induction.1, induction.2⟩

theorem ofSource_withKeywords (first second : KeywordSet) (source : String) :
    (ofSource first source).withKeywords second = ofSource second source := by
  unfold ofSource ofChars
  split <;> rfl

theorem ofSource_keywords (keywords : KeywordSet) (source : String) :
    (ofSource keywords source).keywords = keywords := by
  unfold ofSource ofChars
  split <;> rfl

end Lexer

theorem lex_renamed (first second : KeywordSet) (source : String) :
    List.Forall₂ (Token.Renamed first second) (lex first source).tokens (lex second source).tokens ∧
      (lex first source).ending = (lex second source).ending := by
  have renamed := (Lexer.ofSource first source).run_renamed second
  rwa [Lexer.ofSource_withKeywords, Lexer.ofSource_keywords] at renamed

theorem Lexed.eq_of_parts {lexed other : Lexed} (tokens : lexed.tokens = other.tokens)
    (ending : lexed.ending = other.ending) : lexed = other := by
  cases lexed
  cases other
  cases tokens
  cases ending
  rfl

theorem lex_eq_of_agree {source : String}
    (agree : ∀ token ∈ (lex first source).tokens, ¬first.DifferOn second token.text) :
    lex first source = lex second source := by
  rcases lex_renamed first second source with ⟨renamed, ending⟩
  refine Lexed.eq_of_parts ?_ ending
  rw [← List.forall₂_eq_eq_eq]
  refine List.Forall₂.imp ?_ ((List.forall₂_and_left _ _).mpr ⟨agree, renamed⟩)
  rintro token other ⟨agrees, same⟩
  have kinds : token.kind = other.kind := by
    by_contra different
    exact agrees (same.kinds.differs different)
  rw [same.others, ← kinds]

/-! Reading a set. -/

def IsKeyword (name : String) : Prop :=
  ∃ word : Keyword, name = word.spelling

/-- How a set is read from names: it is the set of the words they name if all of them name words, in
whatever order and however often, and the first that names none is reported otherwise. -/
structure ReadsKeywords (read : List String → Except OptionsError KeywordSet) : Prop where
  succeeds : ∀ names, (∃ set, read names = .ok set) ↔ ∀ name ∈ names, IsKeyword name
  words : ∀ names set, read names = .ok set → ∀ word, set.reserves word = true ↔
    word.spelling ∈ names
  anyOrder : ∀ names others, (∀ name ∈ names, IsKeyword name) →
    (∀ name, name ∈ names ↔ name ∈ others) → read names = read others
  reports : ∀ names error, read names = .error error ↔
    ∃ before name after, names = before ++ name :: after ∧ (∀ earlier ∈ before, IsKeyword earlier) ∧
      ¬IsKeyword name ∧ error = .unknownKeyword name

namespace KeywordSet

theorem ofSpellings_word (word : Keyword) (names : List String) :
    ofSpellings (word.spelling :: names) = (ofSpellings names).map (·.insert word) := by
  rw [ofSpellings, Keyword.ofSpelling?_spelling]

theorem ofSpellings_other {name : String} (other : ¬IsKeyword name) (names : List String) :
    ofSpellings (name :: names) = .error name := by
  have missing : Keyword.ofSpelling? name = none := by
    cases found : Keyword.ofSpelling? name with
    | none => rfl
    | some word => exact absurd ⟨word, Keyword.ofSpelling?_eq_some.mp found⟩ other
  rw [ofSpellings, missing]

theorem spelling_inj {word other : Keyword} (same : word.spelling = other.spelling) :
    word = other := by
  have found := Keyword.ofSpelling?_spelling word
  rw [same, Keyword.ofSpelling?_spelling] at found
  exact (Option.some.inj found).symm

def ofNames (names : List String) : KeywordSet :=
  ⟨fun word => names.contains word.spelling⟩

theorem ofNames_insert (word : Keyword) (names : List String) :
    (ofNames names).insert word = ofNames (word.spelling :: names) := by
  unfold ofNames insert
  congr 1
  funext other
  have same : (other == word) = (other.spelling == word.spelling) := by
    rw [Bool.eq_iff_iff, beq_iff_eq, beq_iff_eq]
    exact ⟨congrArg _, spelling_inj⟩
  rw [List.contains_cons, same]

theorem ofSpellings_of_words {names : List String} (words : ∀ name ∈ names, IsKeyword name) :
    ofSpellings names = .ok (ofNames names) := by
  induction names with
  | nil => rfl
  | cons name names induction =>
      rcases List.forall_mem_cons.mp words with ⟨⟨word, rfl⟩, others⟩
      rw [ofSpellings_word, induction others, ← ofNames_insert]
      rfl

theorem ofSpellings_of_first {before after : List String} {name : String}
    (words : ∀ earlier ∈ before, IsKeyword earlier) (other : ¬IsKeyword name) :
    ofSpellings (before ++ name :: after) = .error name := by
  induction before with
  | nil => exact ofSpellings_other other after
  | cons earlier before induction =>
      rcases List.forall_mem_cons.mp words with ⟨⟨word, rfl⟩, others⟩
      rw [List.cons_append, ofSpellings_word, induction others]
      rfl

theorem words_or_first (names : List String) :
    (∀ name ∈ names, IsKeyword name) ∨
    ∃ before name after, names = before ++ name :: after ∧ (∀ earlier ∈ before, IsKeyword earlier) ∧
      ¬IsKeyword name := by
  induction names with
  | nil => exact .inl (by simp)
  | cons name names induction =>
      by_cases isWord : IsKeyword name
      · rcases induction with words | ⟨before, other, after, rfl, words, noWord⟩
        · exact .inl (List.forall_mem_cons.mpr ⟨isWord, words⟩)
        · exact .inr ⟨name :: before, other, after, rfl,
            List.forall_mem_cons.mpr ⟨isWord, words⟩, noWord⟩
      · exact .inr ⟨[], name, names, rfl, by simp, isWord⟩

end KeywordSet

namespace ParseSettings

theorem keywordSet_of_words (limit : Option Nat) {names : List String}
    (words : ∀ name ∈ names, IsKeyword name) :
    (mk limit (some names)).keywordSet = .ok (.ofNames names) := by
  change (KeywordSet.ofSpellings names).mapError _ = _
  rw [KeywordSet.ofSpellings_of_words words]
  rfl

theorem keywordSet_of_first (limit : Option Nat) {before after : List String} {name : String}
    (words : ∀ earlier ∈ before, IsKeyword earlier) (other : ¬IsKeyword name) :
    (mk limit (some (before ++ name :: after))).keywordSet = .error (.unknownKeyword name) := by
  change (KeywordSet.ofSpellings (before ++ name :: after)).mapError _ = _
  rw [KeywordSet.ofSpellings_of_first words other]
  rfl

theorem keywordSet_readsKeywords (limit : Option Nat) :
    ReadsKeywords fun names => (mk limit (some names)).keywordSet := by
  refine ⟨fun names => ?_, fun names set read word => ?_, fun names others words same => ?_,
    fun names error => ?_⟩
  · refine ⟨?_, fun words => ⟨_, keywordSet_of_words limit words⟩⟩
    rintro ⟨set, read⟩
    rcases KeywordSet.words_or_first names with words | ⟨_, _, _, rfl, words, other⟩
    · exact words
    · cases read.symm.trans (keywordSet_of_first limit words other)
  · rcases KeywordSet.words_or_first names with words | ⟨_, _, _, rfl, words, other⟩
    · cases read.symm.trans (keywordSet_of_words limit words)
      exact List.contains_iff_mem
    · cases read.symm.trans (keywordSet_of_first limit words other)
  · have otherWords : ∀ name ∈ others, IsKeyword name :=
      fun name member => words name ((same name).mpr member)
    have equal : KeywordSet.ofNames names = KeywordSet.ofNames others := by
      unfold KeywordSet.ofNames
      congr 1
      funext word
      rw [Bool.eq_iff_iff, List.contains_iff_mem, List.contains_iff_mem]
      exact same word.spelling
    rw [keywordSet_of_words limit words, keywordSet_of_words limit otherWords, equal]
  · constructor
    · intro failed
      rcases KeywordSet.words_or_first names with words | ⟨before, name, after, rfl, words, other⟩
      · cases failed.symm.trans (keywordSet_of_words limit words)
      · cases failed.symm.trans (keywordSet_of_first limit words other)
        exact ⟨before, name, after, rfl, words, other, rfl⟩
    · rintro ⟨before, name, after, rfl, words, other, rfl⟩
      exact keywordSet_of_first limit words other

end ParseSettings

/-- Two sets of reserved words make the same tokens of a text but for the kinds of words that only
one of them reserves. If the text has no such word, every way to read it gives the same result. -/
theorem keywords_only_rename (first second : KeywordSet) (source : String) :
    List.Forall₂ (Token.Renamed first second) (lex first source).tokens (lex second source).tokens ∧
    (lex first source).ending = (lex second source).ending ∧
    ((∀ token ∈ (lex first source).tokens, ¬first.DifferOn second token.text) → ∀ limit,
      parseProgram ⟨limit, first⟩ source = parseProgram ⟨limit, second⟩ source ∧
      parseType ⟨limit, first⟩ source = parseType ⟨limit, second⟩ source ∧
      parseExpression ⟨limit, first⟩ source = parseExpression ⟨limit, second⟩ source ∧
      ∀ kinds, parseFragments ⟨limit, first⟩ source kinds =
        parseFragments ⟨limit, second⟩ source kinds) ∧
    ∀ limit, ReadsKeywords fun names => (ParseSettings.mk limit (some names)).keywordSet := by
  rcases lex_renamed first second source with ⟨renamed, ending⟩
  refine ⟨renamed, ending, fun agree limit => ?_, ParseSettings.keywordSet_readsKeywords⟩
  have same : lex first source = lex second source := lex_eq_of_agree agree
  have run : ∀ {α : Type} (parser : Nesting → Parse α),
      Parse.run ⟨limit, first⟩ source parser = Parse.run ⟨limit, second⟩ source parser := by
    intro α parser
    simp only [Parse.run, same]
  refine ⟨?_, run _, run _, fun kinds => ?_⟩
  · rw [parseProgram, parseProgram, run]
  · rw [parseFragments, parseFragments, same]

/-- The only word of this text is reserved in both sets. -/
theorem keywords_only_rename_interface :
    (∀ token ∈ (lex .full "interface A { b: C }").tokens,
      ¬KeywordSet.full.DifferOn (.insert .empty .interfaceWord) token.text) ∧
    (parseProgram ⟨100, .full⟩ "interface A { b: C }").isOk = true ∧
    parseProgram ⟨100, .full⟩ "interface A { b: C }" =
      parseProgram ⟨100, .insert .empty .interfaceWord⟩ "interface A { b: C }" := by
  have agree : ∀ token ∈ (lex .full "interface A { b: C }").tokens,
      ¬KeywordSet.full.DifferOn (.insert .empty .interfaceWord) token.text := by
    decide +kernel
  exact ⟨agree, by decide +kernel, ((keywords_only_rename _ _ _).2.2.1 agree 100).1⟩

end TypedScript
