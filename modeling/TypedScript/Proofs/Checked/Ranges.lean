import TypedScript.Proofs.Checked.Lexer
import TypedScript.Proofs.Coordinates

/-!
Lengths of ranges and texts of strings, with every difference and every slice checked. Main
statements: in a text whose offsets fit in 32 bits, the ranges of tokens, of errors and of the nodes
of a tree have lengths; and what stands between the quotes of a string can be cut out of it.
-/

namespace TypedScript

/-! Lengths. -/

namespace Span

def length32? (span : Span) : Option Nat :=
  subtract? (low32 span.stop) (low32 span.start)

theorem length32?_eq {span : Span} {source : String} (small : source.utf8ByteSize < Numeral.bound32)
    (ordered : span.start ≤ span.stop) (within : span.stop ≤ source.utf8ByteSize) :
    span.length32? = some span.length := by
  rw [length32?, low32_of_lt (by omega), low32_of_lt (by omega), subtract?_of_le ordered, length]

theorem byteLength_of_dropBytes {count : Nat} {chars rest : List Char}
    (found : dropBytes count chars = some rest) :
    byteLength chars = count + byteLength rest := by
  fun_induction dropBytes count chars with
  | case1 chars =>
      cases found
      rw [Nat.zero_add]
  | case2 => cases found
  | case3 count char chars fits induction =>
      rw [byteLength_cons, induction found]
      omega
  | case4 => cases found

theorem le_of_takeBytes {count : Nat} {chars part : List Char}
    (found : takeBytes count chars = some part) : count ≤ byteLength chars := by
  fun_induction takeBytes count chars generalizing part with
  | case1 => exact Nat.zero_le _
  | case2 => cases found
  | case3 count char chars fits induction =>
      rcases Option.map_eq_some_iff.mp found with ⟨rest, restFound, _⟩
      have bound := induction restFound
      rw [byteLength_cons]
      omega
  | case4 => cases found

theorem byteLength_of_takeBytes {count : Nat} {chars part : List Char}
    (found : takeBytes count chars = some part) : byteLength part = count := by
  fun_induction takeBytes count chars generalizing part with
  | case1 =>
      cases found
      rfl
  | case2 => cases found
  | case3 count char chars fits induction =>
      rcases Option.map_eq_some_iff.mp found with ⟨rest, restFound, rfl⟩
      rw [byteLength_cons, induction restFound]
      omega
  | case4 => cases found

theorem length_le_of_chars? {span : Span} {source chars : List Char}
    (found : span.chars? source = some chars) : chars.length ≤ span.length := by
  unfold chars? at found
  split at found
  · rcases Option.bind_eq_some_iff.mp found with ⟨rest, _, taken⟩
    rw [← byteLength_of_takeBytes taken]
    exact length_le_byteLength chars
  · cases found

theorem bounds_of_slice? {span : Span} {source text : String}
    (found : span.slice? source = some text) :
    span.start ≤ span.stop ∧ span.stop ≤ source.utf8ByteSize := by
  rcases Option.map_eq_some_iff.mp found with ⟨chars, covers, _⟩
  unfold chars? at covers
  split at covers
  · next ordered =>
      rcases Option.bind_eq_some_iff.mp covers with ⟨rest, dropped, taken⟩
      have size := byteLength_of_dropBytes dropped
      have bound := le_of_takeBytes taken
      rw [byteLength_toList] at size
      rw [length] at bound
      exact ⟨ordered, by omega⟩
  · cases covers

theorem length32?_of_slice? {span : Span} {source text : String}
    (small : source.utf8ByteSize < Numeral.bound32) (found : span.slice? source = some text) :
    span.length32? = some span.length :=
  length32?_eq small (bounds_of_slice? found).1 (bounds_of_slice? found).2

end Span

theorem token_length32? (keywords : KeywordSet) {source : String}
    (small : source.utf8ByteSize < Numeral.bound32) {token : Token}
    (member : token ∈ (lex keywords source).withEnd) :
    token.span.length32? = some token.span.length := by
  rcases Lexer.ofSource_stands keywords source with ⟨opening, stands⟩
  have tiles : Tiles source 0 (lex keywords source).tokens (lex keywords source).ending :=
    Lexer.run_tiles _ source [] opening stands
  exact Span.length32?_of_slice? small (tiles.slice_of_withEnd member)

/-! Trees and errors. -/

theorem Node.Delimited.length32? {node : Node} {keywords : KeywordSet} {source : String}
    (delimited : node.Delimited (lex keywords source).tokens)
    (small : source.utf8ByteSize < Numeral.bound32) :
    node.span.length32? = some node.span.length := by
  rcases delimited.stop with ⟨last, member, stop⟩
  have bound := lex_stop_le keywords source last member
  exact Span.length32?_eq small (Nat.le_of_lt delimited.nonempty) (by omega)

/-- The nodes that were read from some tokens begin and end with tokens, at every depth. -/
theorem Node.Among.delimited {nodes : List Node} {tokens : List Token} (among : Among nodes tokens)
    (inOrder : InOrder tokens) : ∀ node ∈ nodes.flatMap preorder, node.Delimited tokens := by
  intro node member
  rcases List.mem_flatMap.mp member with ⟨top, topMember, below⟩
  rcases among.exists_covers topMember with ⟨own, sublist, covers⟩
  exact ((covers.lawful (inOrder.of_sublist sublist)).2 node below).mono sublist.subset

theorem SyntaxError.Located.length32? {error : SyntaxError} {lexed : Lexed} {source : String}
    (located : error.Located lexed source) (small : source.utf8ByteSize < Numeral.bound32) :
    error.span.length32? = some error.span.length := by
  rcases located.covers with ⟨text, found, _⟩
  exact Span.length32?_of_slice? small found

/-- The ranges of an answer have lengths: those of its nodes, or that of the error. -/
def Measured {α : Type} (nodes : α → List Node) : Except SyntaxError α → Prop
  | .ok value => ∀ node ∈ (nodes value).flatMap Node.preorder,
      node.span.length32? = some node.span.length
  | .error error => error.span.length32? = some error.span.length

namespace Parse

variable {options : ParseOptions} {source : String} {α : Type} {parser : Nesting → Parse α}
  {nodes : α → List Node}

theorem run_measured (small : source.utf8ByteSize < Numeral.bound32)
    (justified : Justified (lex options.keywords source) source (run options source parser))
    (among : ∀ {value}, run options source parser = .ok value →
      ∃ tokens, tokens.Sublist (lex options.keywords source).tokens ∧
        Node.Among (nodes value) tokens) :
    Measured nodes (run options source parser) := by
  cases result : run options source parser with
  | ok value =>
      rcases among result with ⟨tokens, sublist, among⟩
      intro node member
      have inOrder := (lex_inOrder options.keywords source).of_sublist sublist
      exact ((among.delimited inOrder node member).mono sublist.subset).length32? small
  | error error =>
      rw [result] at justified
      exact justified.length32? small

/-- The nodes of a text that is exactly one thing were read from its tokens. -/
theorem run_whole_among {spelled : α → List Lexeme → Prop} (reads : ∀ {nesting : Nesting},
    nesting.Reading → Reads (parser nesting) spelled nodes) {value : α}
    (parsed : run options source (fun nesting => do
      let value ← parser nesting
      endOfInput
      return value) = .ok value) :
    ∃ tokens, tokens.Sublist (lex options.keywords source).tokens ∧
      Node.Among (nodes value) tokens := by
  rcases run_eq_ok parsed with ⟨_, read⟩
  rcases reads (Nesting.ofRoom_reading _ _) (whole_eq_ok read).1 with ⟨_, _, piece⟩
  rcases piece with ⟨takes, among⟩
  refine ⟨_, ?_, among⟩
  have whole : (lex options.keywords source).tokens = _ := takes.ahead
  rw [whole]
  exact List.sublist_append_left _ _

end Parse

theorem parseProgram_measured (options : ParseOptions) {source : String}
    (small : source.utf8ByteSize < Numeral.bound32) :
    Measured (fun program => [.program program]) (parseProgram options source) := by
  cases result : parseProgram options source with
  | ok program =>
      rcases parseProgram_eq_ok result with ⟨span, _, _, among⟩
      intro node member
      rw [List.flatMap_singleton, Node.preorder_eq, List.mem_cons] at member
      rcases member with rfl | member
      · rw [Node.span, span]
        exact Span.length32?_eq small (Nat.zero_le _) (Nat.le_refl _)
      · have inOrder := lex_inOrder options.keywords source
        exact (among.delimited inOrder node member).length32? small
  | error error =>
      have justified := parseProgram_justified options source
      rw [result] at justified
      exact justified.length32? small

theorem parseType_measured (options : ParseOptions) {source : String}
    (small : source.utf8ByteSize < Numeral.bound32) :
    Measured (fun type => [.type type]) (parseType options source) := by
  exact Parse.run_measured small (parseType_justified options source)
    (Parse.run_whole_among fun reading => reading.type)

theorem parseExpression_measured (options : ParseOptions) {source : String}
    (small : source.utf8ByteSize < Numeral.bound32) :
    Measured (fun expression => [.expression expression]) (parseExpression options source) := by
  exact Parse.run_measured small (parseExpression_justified options source)
    (Parse.run_whole_among fun reading => reading.expression.reads)

/-! Strings. -/

/-- What a string token denotes. Its text is cut after its first byte and before its last. -/
def Token.cutValue? (token : Token) : Option (Option String) :=
  if token.kind != .stringLiteral || token.text.utf8ByteSize < 2 then some none
  else do
    let last ← subtract? token.text.utf8ByteSize 1
    let inner ← Span.slice? ⟨1, last⟩ token.text
    return some (if token.hasEscape then Escape.unescape inner else inner)

theorem Scan.quoted_of_scan {keywords : KeywordSet} {first : Char} {rest : List Char}
    {here : Position} {scanned : Scanned} (found : scan keywords first rest here = .ok scanned)
    (kind : scanned.kind = .stringLiteral) :
    isQuote first = true ∧ ∃ body, scanned.text = first :: (body ++ [first]) := by
  cases quotes : isQuote first with
  | false => exact absurd kind (scan_oneLine found quotes).1
  | true =>
      rw [scan_eq, if_pos quotes] at found
      split at found
      · cases found
      · next tail tailFound =>
          cases found
          rcases List.getLast?_eq_some_iff.mp (stringTail?_getLast? tailFound) with ⟨body, text⟩
          exact ⟨rfl, body, by rw [text]⟩

theorem Token.body_of_text {token : Token} {first last : Char} {body : List Char}
    (text : token.text.toList = first :: (body ++ [last])) :
    token.body = body ∧ ¬token.text.utf8ByteSize < 2 := by
  have size := length_le_byteLength token.text.toList
  rw [byteLength_toList, text, List.length_cons, List.length_append, List.length_singleton] at size
  refine ⟨?_, by omega⟩
  rw [Token.body, text]
  simp

theorem Token.cutValue?_eq {token : Token} {quote : Char} {body : List Char}
    (single : quote.utf8Size = 1) (text : token.text.toList = quote :: (body ++ [quote])) :
    token.cutValue? = some token.stringValue? := by
  have size : token.text.utf8ByteSize = 1 + byteLength body + 1 := by
    rw [← byteLength_toList, text, byteLength_cons, byteLength_append, byteLength_cons,
      byteLength_nil, single]
    omega
  have opening : byteLength [quote] = 1 := by rw [byteLength_cons, byteLength_nil, single]
  have cut : Span.slice? ⟨1, 1 + byteLength body⟩ token.text = some (String.ofList body) := by
    have found := Span.slice?_append [quote] body [quote] text
    rw [opening] at found
    exact found
  rcases body_of_text text with ⟨between, long⟩
  rw [cutValue?, stringValue?, between]
  cases token.kind != .stringLiteral with
  | true => rfl
  | false =>
      simp only [Bool.false_or, long, decide_false, Bool.false_eq_true, if_false]
      rw [subtract?_of_le (by omega), size, Nat.add_sub_cancel]
      simp only [Option.bind_eq_bind, Option.bind_some, cut, Escape.unescape, String.toList_ofList]
      cases token.hasEscape <;> rfl

theorem Token.cutValue?_of_other {token : Token} (other : token.kind ≠ .stringLiteral) :
    token.cutValue? = some token.stringValue? := by
  simp [cutValue?, stringValue?, bne_iff_ne.mpr other]

theorem Lexer.run_cutValue? (lexer : Lexer) :
    ∀ token ∈ lexer.run.tokens, token.cutValue? = some token.stringValue? := by
  fun_induction Lexer.run lexer with
  | case1 => exact List.forall_mem_nil _
  | case2 => exact List.forall_mem_nil _
  | case3 lexer token after found more later induction =>
      refine List.forall_mem_cons.mpr ⟨?_, induction⟩
      rcases next_eq_ok found more with ⟨first, rest, scanned, _, scans, rfl, rfl⟩
      by_cases kind : scanned.kind = .stringLiteral
      · rcases Scan.quoted_of_scan scans kind with ⟨quotes, body, text⟩
        exact Token.cutValue?_eq (utf8Size_of_isQuote quotes) (String.toList_ofList.trans text)
      · exact Token.cutValue?_of_other kind

theorem token_cutValue? (keywords : KeywordSet) (source : String) {token : Token}
    (member : token ∈ (lex keywords source).withEnd) :
    token.cutValue? = some token.stringValue? := by
  have tokens := (Lexer.ofSource keywords source).run_cutValue?
  have wellFormed := (lex keywords source).endingWellFormed
  unfold Lexed.withEnd at member
  split at member
  · next last isEnd =>
      rcases List.mem_append.mp member with member | member
      · exact tokens token member
      · cases List.mem_singleton.mp member
        rw [isEnd] at wellFormed
        have kind : token.kind = .endOfFile := wellFormed
        exact Token.cutValue?_of_other (by rw [kind]; decide)
  · exact tokens token member

end TypedScript
