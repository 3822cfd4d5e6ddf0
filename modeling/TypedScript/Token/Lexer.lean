import TypedScript.Token.Scan
import TypedScript.Token.Trivia

/-!
The tokens of a text. A lexer yields them one at a time; running it gives all of them at once,
together with the reason why there are no more: the end of the text, or an error.
-/

namespace TypedScript

structure Lexer where
  keywords : KeywordSet
  rest : List Char
  position : Position

namespace Lexer

/-- Starts reading. A first line that begins with `#!` is skipped up to its terminator. -/
def ofChars (keywords : KeywordSet) (chars : List Char) : Lexer :=
  match chars with
  | '#' :: '!' :: _ =>
      let line := chars.takeWhile (!isLineTerminator ·)
      ⟨keywords, chars.dropWhile (!isLineTerminator ·), Position.origin.steps line⟩
  | _ => ⟨keywords, chars, .origin⟩

def ofSource (keywords : KeywordSet) (source : String) : Lexer :=
  ofChars keywords source.toList

def gap (lexer : Lexer) : Trivia.Gap :=
  Trivia.skip .plain lexer.rest lexer.position false

/-- The next token and the lexer after it. At the end of the text this is the end-of-file token,
however often it is asked for. -/
def next (lexer : Lexer) : Except LexicalError (Token × Lexer) :=
  let gap := lexer.gap
  match gap.rest with
  | [] =>
      .ok (⟨.endOfFile, "", gap.position, gap.position.offset, gap.brokeLine, false⟩,
        { lexer with rest := [], position := gap.position })
  | first :: rest =>
      match Scan.scan lexer.keywords first rest gap.position with
      | .error fault => .error ⟨fault, gap.position⟩
      | .ok scanned =>
          .ok (⟨scanned.kind, String.ofList scanned.text, gap.position, scanned.after.offset,
              gap.brokeLine, scanned.hasEscape⟩,
            { lexer with rest := scanned.rest, position := scanned.after })

theorem gap_rest_length_le (lexer : Lexer) : lexer.gap.rest.length ≤ lexer.rest.length :=
  (Trivia.skip_rest_suffix _ _ _ _).length_le

theorem next_rest_length_lt {lexer after : Lexer} {token : Token}
    (found : lexer.next = .ok (token, after)) (more : token.kind ≠ .endOfFile) :
    after.rest.length < lexer.rest.length := by
  have bound := lexer.gap_rest_length_le
  unfold next at found
  simp only at found
  split at found
  · cases found
    exact absurd rfl more
  · next first rest shape =>
      split at found
      · cases found
      · next scanned scannedFound =>
          cases found
          have less := Scan.scan_rest_length_lt scannedFound
          rw [shape] at bound
          exact Nat.lt_of_lt_of_le less bound

theorem next_wellFormed {lexer after : Lexer} {token : Token}
    (found : lexer.next = .ok (token, after)) (more : token.kind ≠ .endOfFile) :
    token.WellFormed := by
  unfold next at found
  simp only at found
  split at found
  · cases found
    exact absurd rfl more
  · split at found
    · cases found
    · next scanned scannedFound =>
        cases found
        obtain ⟨lexed, spelled, quoted⟩ := Scan.scan_text scannedFound
        have size := length_le_byteLength scanned.text
        refine ⟨more, lexed, spelled, fun isString => ?_⟩
        have both := quoted isString
        rw [← utf8ByteSize_ofList] at size
        have long : ¬(String.ofList scanned.text).utf8ByteSize < 2 := by omega
        simp only at isString
        cases escaped : scanned.hasEscape <;> simp [Token.stringValue?, isString, long]

theorem next_nonempty {lexer after : Lexer} {token : Token}
    (found : lexer.next = .ok (token, after)) (more : token.kind ≠ .endOfFile) :
    token.start < token.stop := by
  unfold next at found
  simp only at found
  split at found
  · cases found
    exact absurd rfl more
  · split at found
    · cases found
    · next scanned scannedFound =>
        cases found
        have size := length_le_byteLength scanned.text
        have positive := List.length_pos_iff.mpr (Scan.scan_ok scannedFound).2
        have offset := Scan.scan_offset scannedFound
        simp only [Token.start]
        omega

end Lexer

inductive Ending where
  /-- The text is over; the token stands for its end. -/
  | endOfFile (token : Token)
  | failure (error : LexicalError)
deriving DecidableEq, Repr

def Ending.WellFormed : Ending → Prop
  | .endOfFile token => token.kind = .endOfFile
  | .failure _ => True

/-- All tokens of a text up to its end or its first error. The end-of-file token is not among
`tokens`. -/
structure Lexed where
  tokens : List Token
  ending : Ending
  wellFormed : ∀ token ∈ tokens, token.WellFormed
  endingWellFormed : ending.WellFormed
deriving DecidableEq, Repr

def Lexer.run (lexer : Lexer) : Lexed :=
  match found : lexer.next with
  | .error error => ⟨[], .failure error, by simp, trivial⟩
  | .ok (token, after) =>
      if last : token.kind = .endOfFile then ⟨[], .endOfFile token, by simp, last⟩
      else
        let later := after.run
        ⟨token :: later.tokens, later.ending,
          List.forall_mem_cons.mpr ⟨next_wellFormed found last, later.wellFormed⟩,
          later.endingWellFormed⟩
termination_by lexer.rest.length
decreasing_by exact next_rest_length_lt found last

def lex (keywords : KeywordSet) (source : String) : Lexed :=
  (Lexer.ofSource keywords source).run

namespace Lexed

def withEnd (lexed : Lexed) : List Token :=
  match lexed.ending with
  | .endOfFile token => lexed.tokens ++ [token]
  | .failure _ => lexed.tokens

def error? (lexed : Lexed) : Option LexicalError :=
  match lexed.ending with
  | .endOfFile _ => none
  | .failure error => some error

/-- One line for each token: where it stands, its kind, and its characters. -/
def dump (lexed : Lexed) : Except LexicalError String :=
  match lexed.ending with
  | .failure error => .error error
  | .endOfFile token =>
      .ok (String.join (lexed.tokens.map fun token =>
          s!"{token.position.text} {token.kind.name} {token.text}\n") ++
        s!"{token.position.text} {token.kind.name}\n")

end Lexed

end TypedScript
