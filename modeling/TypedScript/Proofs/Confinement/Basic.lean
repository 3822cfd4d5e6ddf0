import TypedScript.Parser.Functions
import TypedScript.Proofs.Reading.Tokens
import TypedScript.Proofs.TwoRuns.Tokens

/-!
How far a rule of the grammar looks. Where all braces are closed and the last token is a semicolon,
a rule within a statement needs no token beyond it: outside of braces only the end of a statement
takes a semicolon, and inside of braces a closing brace is still to come.
-/

namespace TypedScript

/-! Braces and semicolons. -/

def TokenKind.isPlain : TokenKind → Bool
  | .punctuator .openBrace | .punctuator .closeBrace | .punctuator .semicolon => false
  | _ => true

/-- The tokens close `depth` braces that are open before them, and those that they open. -/
def Closes : Nat → List Token → Prop
  | depth, [] => depth = 0
  | depth, token :: rest =>
      if token.kind = .punctuator .openBrace then Closes (depth + 1) rest
      else if token.kind = .punctuator .closeBrace then 0 < depth ∧ Closes (depth - 1) rest
      else Closes depth rest

def EndsInSemicolon (tokens : List Token) : Prop :=
  ∃ last, tokens.getLast? = some last ∧ last.kind = .punctuator .semicolon

/-- Where the reading of a statement stands: within so many braces, or at its end. -/
inductive Stage where
  | within (depth : Nat)
  | over

namespace Stage

def depth : Stage → Nat
  | .within depth => depth
  | .over => 0

/-- The tokens ahead go on until all is closed, and end with a semicolon. After a statement nothing
is asked of them. -/
def GoesOn : Stage → List Token → Prop
  | .within depth, tokens => Closes depth tokens ∧ EndsInSemicolon tokens
  | .over, _ => True

end Stage

structure Moves (stage later : Stage) (tokens rest : List Token) : Prop where
  closes : Closes stage.depth tokens ↔ Closes later.depth rest
  goesOn : stage.GoesOn tokens → later.GoesOn rest

variable {depth : Nat} {token : Token} {tokens rest : List Token}

theorem closes_cons_open (opens : token.kind = .punctuator .openBrace) :
    Closes depth (token :: rest) ↔ Closes (depth + 1) rest := by
  rw [Closes, if_pos opens]

theorem closes_cons_close (closes : token.kind = .punctuator .closeBrace) :
    Closes (depth + 1) (token :: rest) ↔ Closes depth rest := by
  rw [Closes, if_neg (by simp [closes]), if_pos closes]
  exact and_iff_right depth.succ_pos

theorem closes_cons_other (noOpen : token.kind ≠ .punctuator .openBrace)
    (noClose : token.kind ≠ .punctuator .closeBrace) :
    Closes depth (token :: rest) ↔ Closes depth rest := by
  rw [Closes, if_neg noOpen, if_neg noClose]

theorem Closes.ne_nil (closes : Closes (depth + 1) tokens) : tokens ≠ [] := by
  rintro rfl
  cases closes

theorem EndsInSemicolon.drop (ends : EndsInSemicolon tokens) {count : Nat}
    (more : tokens.drop count ≠ []) : EndsInSemicolon (tokens.drop count) := by
  rcases ends with ⟨last, found, isSemicolon⟩
  refine ⟨last, ?_, isSemicolon⟩
  rw [List.getLast?_drop, if_neg (more ∘ List.drop_eq_nil_of_le), found]

theorem EndsInSemicolon.of_cons (ends : EndsInSemicolon (token :: rest)) (more : rest ≠ []) :
    EndsInSemicolon rest :=
  @EndsInSemicolon.drop (token :: rest) ends 1 more

theorem EndsInSemicolon.more (ends : EndsInSemicolon (token :: rest))
    (other : token.kind ≠ .punctuator .semicolon) : rest ≠ [] := by
  rintro rfl
  rcases ends with ⟨last, found, isSemicolon⟩
  cases found
  exact other isSemicolon

namespace Moves

variable {stage middle later : Stage}

theorem refl (stage : Stage) (tokens : List Token) : Moves stage stage tokens tokens :=
  ⟨Iff.rfl, id⟩

theorem trans {between : List Token} (first : Moves stage middle tokens between)
    (second : Moves middle later between rest) : Moves stage later tokens rest :=
  ⟨first.closes.trans second.closes, second.goesOn ∘ first.goesOn⟩

theorem finish (tokens : List Token) : Moves (.within 0) .over tokens tokens :=
  ⟨Iff.rfl, fun _ => trivial⟩

theorem plain (isPlain : token.kind.isPlain = true) :
    Moves (.within depth) (.within depth) (token :: rest) rest := by
  have different (kind : TokenKind) (notPlain : kind.isPlain = false) : token.kind ≠ kind := by
    rintro rfl
    cases notPlain.symm.trans isPlain
  have noOpen := different (.punctuator .openBrace) rfl
  have noClose := different (.punctuator .closeBrace) rfl
  have noEnd := different (.punctuator .semicolon) rfl
  refine ⟨closes_cons_other noOpen noClose, fun goesOn => ?_⟩
  exact ⟨(closes_cons_other noOpen noClose).mp goesOn.1, goesOn.2.of_cons (goesOn.2.more noEnd)⟩

theorem plains {count : Nat}
    (arePlain : ∀ token ∈ tokens.take count, token.kind.isPlain = true) :
    Moves (.within depth) (.within depth) tokens (tokens.drop count) := by
  induction count generalizing tokens with
  | zero => exact .refl _ _
  | succ count induction =>
      cases tokens with
      | nil => exact .refl _ _
      | cons token rest =>
          rw [List.take_succ_cons, List.forall_mem_cons] at arePlain
          exact (plain arePlain.1).trans (induction arePlain.2)

theorem openBrace (opens : token.kind = .punctuator .openBrace) :
    Moves (.within depth) (.within (depth + 1)) (token :: rest) rest := by
  refine ⟨closes_cons_open opens, fun goesOn => ?_⟩
  have closes := (closes_cons_open opens).mp goesOn.1
  exact ⟨closes, goesOn.2.of_cons closes.ne_nil⟩

theorem closeBrace (closes : token.kind = .punctuator .closeBrace) :
    Moves (.within (depth + 1)) (.within depth) (token :: rest) rest := by
  refine ⟨closes_cons_close closes, fun goesOn => ?_⟩
  exact ⟨(closes_cons_close closes).mp goesOn.1,
    goesOn.2.of_cons (goesOn.2.more (by simp [closes]))⟩

theorem separator (isSemicolon : token.kind = .punctuator .semicolon) :
    Moves (.within (depth + 1)) (.within (depth + 1)) (token :: rest) rest := by
  have same : Closes (depth + 1) (token :: rest) ↔ Closes (depth + 1) rest :=
    closes_cons_other (by simp [isSemicolon]) (by simp [isSemicolon])
  refine ⟨same, fun goesOn => ?_⟩
  have closes := same.mp goesOn.1
  exact ⟨closes, goesOn.2.of_cons closes.ne_nil⟩

theorem terminator (isSemicolon : token.kind = .punctuator .semicolon) :
    Moves (.within 0) .over (token :: rest) rest :=
  ⟨closes_cons_other (by simp [isSemicolon]) (by simp [isSemicolon]), fun _ => trivial⟩

end Moves

theorem isPlain_of_isWord {word : String} (isWord : token.isWord word = true) :
    token.kind.isPlain = true := by
  simp only [Token.isWord, Bool.and_eq_true, beq_iff_eq] at isWord
  rw [isWord.1]
  rfl

theorem isPlain_of_isName (isName : token.kind.isName = true) : token.kind.isPlain = true := by
  cases kind : token.kind with
  | punctuator => simp [kind, TokenKind.isName] at isName
  | _ => rfl

/-! Runs of a parser. -/

/-- A run gets from one stage to another. It asks for a token beyond the last one only where the
tokens do not go on as they should. -/
inductive Stays {α : Type} (stage later : Stage) (before : Cursor) :
    EStateM.Result SyntaxError Cursor α → Prop
  | ok {value after} : Moves stage later before.ahead after.ahead →
      Stays stage later before (.ok value after)
  | lexical {error after} : ¬stage.GoesOn before.ahead →
      Stays stage later before (.error (.lexical error) after)
  | grammar {error after} : Stays stage later before (.error (.grammar error) after)

def ConfinedAt {α : Type} (before : Cursor) (stage later : Stage) (parser : Parse α) : Prop :=
  Stays stage later before (parser before)

def Confined {α : Type} (stage later : Stage) (parser : Parse α) : Prop :=
  ∀ before, ConfinedAt before stage later parser

def PlainAhead (count : Nat) (cursor : Cursor) : Prop :=
  ∀ token ∈ cursor.ahead.take count, token.kind.isPlain = true

namespace PlainAhead

variable {before : Cursor}

theorem zero : PlainAhead 0 before :=
  fun _ member => by simp at member

theorem succ {count : Nat} (plain : PlainAhead count before)
    (found : before.peek count = .ok token) (isPlain : token.kind.isPlain = true) :
    PlainAhead (count + 1) before := by
  intro other member
  rw [List.take_add_one, List.mem_append, Option.mem_toList] at member
  rcases member with earlier | last
  · exact plain other earlier
  · rw [Cursor.peek, Option.mem_def.mp last] at found
    cases found
    exact isPlain

theorem one (found : before.peek 0 = .ok token) (isPlain : token.kind.isPlain = true) :
    PlainAhead 1 before :=
  zero.succ found isPlain

end PlainAhead

section

variable {α : Type} {stage middle later : Stage} {before : Cursor}
  {result : EStateM.Result SyntaxError Cursor α}

theorem Stays.after {between : Cursor} (moves : Moves stage middle before.ahead between.ahead)
    (stays : Stays middle later between result) : Stays stage later before result := by
  cases stays with
  | ok further => exact .ok (moves.trans further)
  | lexical stops => exact .lexical (stops ∘ moves.goesOn)
  | grammar => exact .grammar

theorem Stays.failed (fails : ∀ {value after}, result ≠ .ok value after)
    (stops : ¬stage.GoesOn before.ahead) : Stays stage later before result := by
  cases result with
  | ok => exact absurd rfl fails
  | error error =>
      cases error with
      | lexical => exact .lexical stops
      | grammar => exact .grammar

end

namespace ConfinedAt

open Parse

variable {α β : Type} {stage middle later : Stage} {before : Cursor}

theorem bind {parser : Parse α} {next : α → Parse β}
    (first : ConfinedAt before stage middle parser)
    (second : ∀ value after, parser before = .ok value after →
      ConfinedAt after middle later (next value)) :
    ConfinedAt before stage later (parser >>= next) := by
  simp only [ConfinedAt, Bind.bind, EStateM.bind] at first second ⊢
  revert first second
  generalize parser before = result
  intro first second
  cases first with
  | ok moves => exact (second _ _ rfl).after moves
  | lexical stops => exact .lexical stops
  | grammar => exact .grammar

theorem peek {count : Nat} (plain : PlainAhead count before) :
    ConfinedAt before (.within depth) (.within depth) (peek count) := by
  unfold ConfinedAt Parse.peek
  split
  · exact .ok (.refl _ _)
  · next error failed =>
      refine .lexical fun goesOn => ?_
      rcases goesOn.2 with ⟨last, found, isSemicolon⟩
      have within : before.ahead.length ≤ count := by
        rw [Cursor.peek] at failed
        split at failed
        · cases failed
        · next none => exact List.getElem?_eq_none_iff.mp none
      have member := List.mem_of_getLast? found
      rw [← List.take_of_length_le within] at member
      have isPlain := plain last member
      rw [isSemicolon] at isPlain
      cases isPlain

theorem peek_bind {count : Nat} {next : Token → Parse α} (plain : PlainAhead count before)
    (second : ∀ token, before.peek count = .ok token →
      ConfinedAt before (.within depth) later (next token)) :
    ConfinedAt before (.within depth) later (Parse.peek count >>= next) := by
  apply (peek plain).bind
  intro token after found
  unfold Parse.peek at found
  split at found
  · next seen =>
      cases found
      exact second token seen
  · cases found

theorem current_bind {next : Token → Parse α}
    (second : ∀ token, before.peek 0 = .ok token →
      ConfinedAt before (.within depth) later (next token)) :
    ConfinedAt before (.within depth) later (current >>= next) :=
  peek_bind .zero second

theorem currentStart_bind {next : Nat → Parse α}
    (second : ∀ start, ConfinedAt before (.within depth) later (next start)) :
    ConfinedAt before (.within depth) later (currentStart >>= next) := by
  rw [currentStart, bind_assoc]
  apply current_bind
  intro token _
  rw [pure_bind]
  exact second token.start

theorem kindAhead_bind {count : Nat} {next : TokenKind → Parse α}
    (plain : PlainAhead count before)
    (second : ∀ token, before.peek count = .ok token →
      ConfinedAt before (.within depth) later (next token.kind)) :
    ConfinedAt before (.within depth) later (kindAhead count >>= next) := by
  rw [kindAhead, bind_assoc]
  apply peek_bind plain
  intro token found
  rw [pure_bind]
  exact second token found

theorem atMark_bind {mark : Punctuator} {next : Bool → Parse α}
    (second : ∀ token, before.peek 0 = .ok token →
      ConfinedAt before (.within depth) later (next (token.isMark mark))) :
    ConfinedAt before (.within depth) later (atMark mark >>= next) := by
  rw [atMark, bind_assoc]
  apply current_bind
  intro token found
  rw [pure_bind]
  exact second token found

theorem atWord_bind {word : String} {next : Bool → Parse α}
    (second : ∀ token, before.peek 0 = .ok token →
      ConfinedAt before (.within depth) later (next (token.isWord word))) :
    ConfinedAt before (.within depth) later (atWord word >>= next) := by
  rw [atWord, bind_assoc]
  apply current_bind
  intro token found
  rw [pure_bind]
  exact second token found

theorem get_bind {next : Cursor → Parse α} (second : ConfinedAt before stage later (next before)) :
    ConfinedAt before stage later (get >>= next) :=
  second

theorem modify_bind {change : Cursor → Cursor} {next : PUnit → Parse α}
    (moves : Moves stage middle before.ahead (change before).ahead)
    (second : ConfinedAt (change before) middle later (next ⟨⟩)) :
    ConfinedAt before stage later (modify change >>= next) :=
  second.after moves

theorem skip_bind {count : Nat} {next : PUnit → Parse α} (plain : PlainAhead count before)
    (second : Confined (.within depth) later (next ⟨⟩)) :
    ConfinedAt before (.within depth) later (modify (·.skip count) >>= next) := by
  refine modify_bind ?_ (second _)
  rw [Cursor.skip_ahead]
  exact .plains plain

theorem take_bind {count : Nat} {next : Token → Parse α} (plain : PlainAhead (count + 1) before)
    (second : ∀ token after, PlainAhead count after →
      ConfinedAt after (.within depth) later (next token)) :
    ConfinedAt before (.within depth) later (take >>= next) := by
  rw [take, bind_assoc]
  apply current_bind
  intro token found
  rw [bind_assoc]
  refine modify_bind ?_ (second token before.next ?_)
  · rw [Cursor.next_ahead, ← List.drop_one]
    refine .plains fun other member => plain other ?_
    exact List.take_subset_take_left _ (Nat.le_add_left 1 count) member
  · intro other member
    refine plain other ?_
    rw [Cursor.next_ahead] at member
    cases ahead : before.ahead with
    | nil => simp [ahead] at member
    | cons first rest =>
        rw [ahead, List.tail_cons] at member
        exact List.mem_cons_of_mem first member

theorem take (plain : PlainAhead 1 before) :
    ConfinedAt before (.within depth) (.within depth) take := by
  rw [← bind_pure Parse.take]
  apply take_bind plain
  intro token after _
  exact .ok (.refl _ _)

theorem take_of_moves (found : before.peek 0 = .ok token) (more : token.kind ≠ .endOfFile)
    (moves : ∀ rest, Moves (.within depth) later (token :: rest) rest) :
    ConfinedAt before (.within depth) later Parse.take := by
  rcases Cursor.ahead_of_peek found more with ⟨rest, ahead⟩
  apply current_bind
  intro _ _
  refine .ok ?_
  rw [Cursor.next_ahead, ahead]
  exact moves rest

end ConfinedAt

namespace Confined

open Parse

variable {α β : Type} {stage middle later : Stage}

theorem bind {parser : Parse α} {next : α → Parse β} (first : Confined stage middle parser)
    (second : ∀ value, Confined middle later (next value)) :
    Confined stage later (parser >>= next) :=
  fun before => (first before).bind fun value after _ => second value after

theorem pure (value : α) : Confined stage stage (Pure.pure value) :=
  fun before => .ok (.refl stage before.ahead)

theorem map {change : α → β} {parser : Parse α} (confined : Confined stage later parser) :
    Confined stage later (change <$> parser) := by
  rw [map_eq_pure_bind]
  exact confined.bind fun _ => pure _

theorem finish {parser : Parse α} (confined : Confined stage (.within 0) parser) :
    Confined stage .over parser := by
  rw [← bind_pure parser]
  exact confined.bind fun value before => .ok (.finish before.ahead)

theorem spanFrom (start : Nat) : Confined stage stage (spanFrom start) :=
  fun before => .ok (.refl stage before.ahead)

theorem current : Confined (.within depth) (.within depth) current :=
  fun _ => .peek .zero

theorem currentStart : Confined (.within depth) (.within depth) currentStart :=
  current.bind fun _ => pure _

theorem atMark (mark : Punctuator) : Confined (.within depth) (.within depth) (atMark mark) :=
  current.bind fun _ => pure _

/-! Failing. -/

theorem failAt {fault : GrammarFault} {expected : Expected} :
    Confined (.within depth) later (failAt fault expected : Parse α) :=
  current.bind fun _ _ => .grammar

theorem unexpected {expected : Expected} :
    Confined (.within depth) later (unexpected expected : Parse α) := by
  refine current.bind fun token => ?_
  split <;> exact failAt

theorem identifierExpected :
    Confined (.within depth) later (identifierExpected : Parse α) := by
  refine current.bind fun token => ?_
  split <;> exact failAt

theorem typeExpected : Confined (.within depth) later (typeExpected : Parse α) :=
  failAt

/-! Taking tokens. -/

theorem expectKind {kind : TokenKind} (more : kind ≠ .endOfFile)
    (moves : ∀ token rest, token.kind = kind →
      Moves (.within depth) later (token :: rest) rest) :
    Confined (.within depth) later (expectKind kind) := by
  intro before
  apply ConfinedAt.current_bind
  intro token found
  split
  · next isKind => exact .take_of_moves found (isKind ▸ more) fun rest => moves token rest isKind
  · exact unexpected before

theorem expect {mark : Punctuator} (isPlain : (TokenKind.punctuator mark).isPlain = true) :
    Confined (.within depth) (.within depth) (expect mark) :=
  expectKind (by simp) fun _ _ isMark => .plain (isMark ▸ isPlain)

theorem openBrace : Confined (.within depth) (.within (depth + 1)) (Parse.expect .openBrace) :=
  expectKind (by simp) fun _ _ => .openBrace

theorem closeBrace : Confined (.within (depth + 1)) (.within depth) (Parse.expect .closeBrace) :=
  expectKind (by simp) fun _ _ => .closeBrace

theorem expectKeyword (word : Keyword) :
    Confined (.within depth) (.within depth) (expectKeyword word) :=
  expectKind (by simp) fun _ _ isWord => .plain (isWord ▸ rfl)

theorem accept {mark : Punctuator} (isPlain : (TokenKind.punctuator mark).isPlain = true) :
    Confined (.within depth) (.within depth) (accept mark) := by
  intro before
  apply ConfinedAt.atMark_bind
  intro token found
  split
  · next isMark =>
      apply ConfinedAt.take_bind (.one found (Token.isMark_iff.mp isMark ▸ isPlain))
      intro _ after _
      exact pure true after
  · exact pure false before

theorem acceptWord (word : String) :
    Confined (.within depth) (.within depth) (acceptWord word) := by
  intro before
  apply ConfinedAt.atWord_bind
  intro token found
  split
  · next isWord =>
      apply ConfinedAt.take_bind (.one found (isPlain_of_isWord isWord))
      intro _ after _
      exact pure true after
  · exact pure false before

theorem expectWord (word : String) :
    Confined (.within depth) (.within depth) (expectWord word) := by
  intro before
  apply ConfinedAt.atWord_bind
  intro token found
  split
  · next isWord => exact ConfinedAt.take (.one found (isPlain_of_isWord isWord))
  · exact unexpected before

theorem afterMark {mark : Punctuator} {item : Parse α}
    (isPlain : (TokenKind.punctuator mark).isPlain = true)
    (confined : Confined (.within depth) (.within depth) item) :
    Confined (.within depth) (.within depth) (afterMark mark item) := by
  refine (accept isPlain).bind fun found => ?_
  split
  · exact confined.map
  · exact pure none

theorem afterWord {item : Parse α} (word : String)
    (confined : Confined (.within depth) (.within depth) item) :
    Confined (.within depth) (.within depth) (afterWord word item) := by
  refine (acceptWord word).bind fun found => ?_
  split
  · exact confined.map
  · exact pure none

theorem identifier : Confined (.within depth) (.within depth) identifier := by
  intro before
  apply ConfinedAt.current_bind
  intro token found
  split
  · next isName =>
      apply ConfinedAt.take_bind (.one found (isName ▸ rfl))
      intro _ after _
      exact pure _ after
  · exact identifierExpected before

theorem identifierName : Confined (.within depth) (.within depth) identifierName := by
  intro before
  apply ConfinedAt.current_bind
  intro token found
  split
  · next isName =>
      apply ConfinedAt.take_bind (.one found (isPlain_of_isName isName))
      intro _ after _
      exact pure _ after
  · exact identifierExpected before

/-! Repetition and trial. -/

theorem repeated {turn : Parse (Turn α)}
    (confined : Confined (.within depth) (.within depth) turn) :
    Confined (.within depth) (.within depth) (repeated turn) := by
  intro before
  -- Every further turn begins with fewer tokens ahead.
  induction size : before.ahead.length using Nat.strongRecOn generalizing before with
  | ind length induction =>
      rw [ConfinedAt, TwoRuns.repeated_eq]
      apply (confined before).bind
      intro turned after _
      cases turned with
      | stop => exact pure _ after
      | last => exact pure _ after
      | more =>
          dsimp only [ConfinedAt]
          split
          · next shorter =>
              apply (induction _ (size ▸ shorter) after rfl).bind
              intro _ last _
              exact pure _ last
          · exact .ok (.refl _ _)

theorem speculate {isFinal : SyntaxError → Bool} {attempt : Parse (Option α)}
    (confined : Confined (.within depth) (.within depth) attempt) :
    Confined (.within depth) (.within depth) (speculate isFinal attempt) := by
  intro before
  have stays := confined before
  unfold ConfinedAt Parse.speculate at *
  revert stays
  generalize attempt before = result
  intro stays
  cases stays with
  | @ok value _ moves =>
      cases value with
      | some => exact .ok moves
      | none => exact .ok (.refl _ _)
  | lexical stops =>
      dsimp only
      split
      · exact .lexical stops
      · exact .ok (.refl _ _)
  | grammar =>
      dsimp only
      split
      · exact .grammar
      · exact .ok (.refl _ _)

theorem commaTurn (item : α) : Confined (.within depth) (.within depth) (commaTurn item) := by
  refine (accept rfl).bind fun found => ?_
  split <;> exact pure _

theorem commaList {item : Parse α} (closing : Punctuator)
    (confined : Confined (.within depth) (.within depth) item) :
    Confined (.within depth) (.within depth) (commaList closing item) := by
  refine repeated ((atMark closing).bind fun found => ?_)
  split
  · exact pure _
  · exact confined.bind commaTurn

end Confined

/-! Levels. -/

/-- All rules of a level are confined. Those that go on with something take the tokens that the
level before has seen. -/
structure Level.Confined (level : Level) : Prop where
  type {depth : Nat} : TypedScript.Confined (.within depth) (.within depth) level.type
  arraySuffix {depth start : Nat} {element : TypeExpr} {before : Cursor} :
    PlainAhead 2 before →
    ConfinedAt before (.within depth) (.within depth) (level.arraySuffix start element)
  assignment {depth : Nat} : TypedScript.Confined (.within depth) (.within depth) level.assignment
  unary {depth : Nat} : TypedScript.Confined (.within depth) (.within depth) level.unary
  newExpression {depth : Nat} :
    TypedScript.Confined (.within depth) (.within depth) level.newExpression
  operator {depth start minimum width precedence : Nat} {left : Expression} {mark : Punctuator}
      {before : Cursor} :
    PlainAhead width before →
    ConfinedAt before (.within depth) (.within depth)
      (level.operator start minimum left mark width precedence)
  suffix {depth start : Nat} {allowCalls : Bool} {base : Expression} {before : Cursor} :
    PlainAhead 1 before →
    ConfinedAt before (.within depth) (.within depth) (level.suffix start allowCalls base)
  typedSuffix {depth start : Nat} {allowCalls : Bool} {base : Expression}
      {typeArguments : List TypeExpr} :
    TypedScript.Confined (.within depth) (.within depth)
      (level.typedSuffix start allowCalls base typeArguments)

namespace Nesting

structure Confined (nesting : Nesting) : Prop where
  inner {level : Level} : nesting.inner = some level → level.Confined

variable {nesting : Nesting} {later : Stage} {α : Type}

theorem Confined.enter (confined : nesting.Confined) {expected : Expected} {before : Cursor}
    {next : Level → Parse α}
    (deeper : ∀ level : Level, level.Confined →
      ConfinedAt before (.within depth) later (next level)) :
    ConfinedAt before (.within depth) later (nesting.enter expected >>= next) := by
  unfold Nesting.enter
  split
  · next level inner => exact deeper level (confined.inner inner)
  · refine ConfinedAt.bind (TypedScript.Confined.failAt before : ConfinedAt _ _ later _) ?_
    intro level after entered
    exact absurd entered Parse.failAt_ne_ok

theorem Confined.type (confined : nesting.Confined) :
    TypedScript.Confined (.within depth) (.within depth) nesting.type :=
  fun before => confined.enter fun _ level => level.type before

theorem Confined.expression (confined : nesting.Confined) :
    TypedScript.Confined (.within depth) (.within depth) nesting.expression :=
  fun before => confined.enter fun _ level => level.assignment before

end Nesting

end TypedScript
