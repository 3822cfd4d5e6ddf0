import TypedScript.Parser.Basic
import TypedScript.Proofs.Coverage
import TypedScript.Proofs.Spelling

/-!
What a successful run of a parser has read. A run that leads from one cursor to another takes the
tokens between them; the lexemes of these tokens spell what was read, and the nodes that were
formed lie in order among them. Every grammar rule is shown to read its value in this sense from
what its parts read.
-/

namespace TypedScript

namespace Cursor

structure Takes (before : Cursor) (tokens : List Token) (after : Cursor) : Prop where
  ahead : before.ahead = tokens ++ after.ahead
  ending : after.ending = before.ending
  lastStop : after.lastStop = stopAfter before.lastStop tokens

namespace Takes

theorem nil (cursor : Cursor) : cursor.Takes [] cursor :=
  ⟨rfl, rfl, rfl⟩

theorem append {before between after : Cursor} {first second : List Token}
    (left : before.Takes first between) (right : between.Takes second after) :
    before.Takes (first ++ second) after := by
  refine ⟨?_, ?_, ?_⟩
  · rw [left.ahead, right.ahead, List.append_assoc]
  · rw [right.ending, left.ending]
  · rw [right.lastStop, left.lastStop, stopAfter_append]

theorem wellFormed {before after : Cursor} {tokens : List Token} (takes : before.Takes tokens after)
    {token : Token} (member : token ∈ tokens) : token.WellFormed :=
  before.wellFormed token (takes.ahead ▸ List.mem_append_left _ member)

theorem length {before after : Cursor} {tokens : List Token}
    (takes : before.Takes tokens after) :
    before.ahead.length = tokens.length + after.ahead.length := by
  rw [takes.ahead, List.length_append]

end Takes

theorem peek_of_ahead {cursor : Cursor} {token : Token} {rest : List Token}
    (ahead : cursor.ahead = token :: rest) : cursor.peek 0 = .ok token := by
  simp [peek, ahead]

theorem next_of_ahead {cursor : Cursor} {token : Token} {rest : List Token}
    (ahead : cursor.ahead = token :: rest) :
    cursor.next.ahead = rest ∧ cursor.next.ending = cursor.ending ∧
      cursor.next.lastStop = token.stop := by
  rw [next_ahead, next_lastStop, ahead]
  exact ⟨rfl, next_ending cursor, rfl⟩

theorem ahead_of_peek {cursor : Cursor} {token : Token} (found : cursor.peek 0 = .ok token)
    (more : token.kind ≠ .endOfFile) : ∃ rest, cursor.ahead = token :: rest := by
  have head := getElem?_of_peek found more
  rw [← List.head?_eq_getElem?] at head
  exact List.head?_eq_some_iff.mp head

theorem ahead_of_end {cursor : Cursor} {token : Token} (found : cursor.peek 0 = .ok token)
    (isEnd : token.kind = .endOfFile) : cursor.ahead = [] ∧ cursor.ending = .endOfFile token := by
  cases ahead : cursor.ahead with
  | nil =>
      simp only [peek, ahead, List.getElem?_nil] at found
      split at found
      · next ending =>
          cases found
          exact ⟨rfl, ending⟩
      · cases found
  | cons first rest =>
      rw [peek_of_ahead ahead] at found
      rcases Except.ok.inj found with rfl
      have wellFormed := cursor.wellFormed first (by simp [ahead])
      exact absurd isEnd wellFormed.notEnd

/-- Where no token is left in a text that is not broken the end-of-file token comes next. -/
theorem peek_of_over {cursor : Cursor} {last : Token} (finished : cursor.ahead = [])
    (ending : cursor.ending = .endOfFile last) :
    cursor.peek 0 = .ok last ∧ last.kind = .endOfFile := by
  have wellFormed := cursor.endingWellFormed
  rw [ending] at wellFormed
  exact ⟨by simp [peek, finished, ending], wellFormed⟩

theorem next_takes {cursor : Cursor} {token : Token} (found : cursor.peek 0 = .ok token)
    (more : token.kind ≠ .endOfFile) : cursor.Takes [token] cursor.next := by
  rcases ahead_of_peek found more with ⟨rest, ahead⟩
  rcases next_of_ahead ahead with ⟨nextAhead, ending, lastStop⟩
  exact ⟨by rw [ahead, nextAhead]; rfl, ending, lastStop⟩

theorem next_shorter {cursor : Cursor} {token : Token} (found : cursor.peek 0 = .ok token)
    (more : token.kind ≠ .endOfFile) : cursor.next.ahead.length < cursor.ahead.length := by
  have length := (next_takes found more).length
  rw [List.length_singleton] at length
  omega

theorem next_le (cursor : Cursor) : cursor.next.ahead.length ≤ cursor.ahead.length := by
  rw [next_ahead, List.length_tail]
  exact Nat.sub_le _ 1

theorem skip_takes (cursor : Cursor) {count : Nat} (enough : count ≤ cursor.ahead.length) :
    cursor.Takes (cursor.ahead.take count) (cursor.skip count) := by
  induction count generalizing cursor with
  | zero => simpa [skip] using Takes.nil cursor
  | succ count induction =>
      cases ahead : cursor.ahead with
      | nil => simp [ahead] at enough
      | cons token rest =>
          rcases next_of_ahead ahead with ⟨nextAhead, ending, lastStop⟩
          have one : cursor.Takes [token] cursor.next :=
            ⟨by rw [ahead, nextAhead]; rfl, ending, lastStop⟩
          have more := induction cursor.next (by
            rw [ahead, List.length_cons] at enough
            rw [nextAhead]
            omega)
          rw [nextAhead] at more
          exact one.append more

theorem Takes.eq_skip {before after : Cursor} {tokens : List Token}
    (takes : before.Takes tokens after) : after = before.skip tokens.length := by
  have skipped := before.skip_takes (takes.length ▸ Nat.le_add_right _ _)
  rw [takes.ahead, List.take_left] at skipped
  refine Cursor.ext ?_ ?_ ?_
  · exact List.append_cancel_left (takes.ahead.symm.trans skipped.ahead)
  · rw [takes.ending, skipped.ending]
  · rw [takes.lastStop, skipped.lastStop]

def StartsAt (cursor : Cursor) (start : Nat) : Prop :=
  ∃ token, cursor.peek 0 = .ok token ∧ token.start = start

end Cursor

/-! Pieces of text. -/

/-- The tokens between two places: their lexemes, and nodes that lie in order among them. -/
inductive Piece (before after : Cursor) : List Lexeme → List Node → Prop
  | intro {tokens nodes} :
      before.Takes tokens after → Node.Among nodes tokens →
      Piece before after (tokens.map Token.lexeme) nodes

/-- The tokens between two places if one node covers all of them. -/
inductive Whole (before after : Cursor) : List Lexeme → Node → Prop
  | intro {tokens node} :
      before.Takes tokens after → node.Covers tokens →
      Whole before after (tokens.map Token.lexeme) node

theorem Whole.piece {before after : Cursor} {lexemes : List Lexeme} {node : Node}
    (whole : Whole before after lexemes node) : Piece before after lexemes [node] := by
  cases whole with
  | intro takes covers => exact .intro takes covers.among

theorem Whole.ne_nil {before after : Cursor} {lexemes : List Lexeme} {node : Node}
    (whole : Whole before after lexemes node) : lexemes ≠ [] := by
  cases whole with
  | intro takes covers => simpa using covers.ne_nil

theorem Whole.wrap {before after : Cursor} {lexemes : List Lexeme} {node outer : Node}
    (whole : Whole before after lexemes node) (span : outer.span = node.span)
    (children : outer.children = [node]) : Whole before after lexemes outer := by
  cases whole with
  | intro takes covers =>
      have among := covers.among
      cases covers with
      | intro ownSpan _ => exact .intro takes (.intro (span ▸ ownSpan) (children ▸ among))

theorem Whole.leaf {before after : Cursor} {lexemes : List Lexeme} {node other : Node}
    (whole : Whole before after lexemes node) (span : other.span = node.span)
    (children : other.children = []) : Whole before after lexemes other := by
  cases whole with
  | intro takes covers =>
      cases covers with
      | intro ownSpan _ => exact .intro takes (.intro (span ▸ ownSpan) (children ▸ .nil))

theorem Whole.length_lt {before after : Cursor} {lexemes : List Lexeme} {node : Node}
    (whole : Whole before after lexemes node) : after.ahead.length < before.ahead.length := by
  cases whole with
  | intro takes covers =>
      have positive := List.length_pos_iff.mpr covers.ne_nil
      have length := takes.length
      omega

namespace Piece

theorem nil (cursor : Cursor) : Piece cursor cursor [] [] :=
  .intro (.nil cursor) .nil

theorem append {before between after : Cursor} {first second : List Lexeme}
    {firstNodes secondNodes : List Node} (left : Piece before between first firstNodes)
    (right : Piece between after second secondNodes) :
    Piece before after (first ++ second) (firstNodes ++ secondNodes) := by
  cases left with
  | intro leftTakes leftAmong =>
      cases right with
      | intro rightTakes rightAmong =>
          rw [← List.map_append]
          exact .intro (leftTakes.append rightTakes) (leftAmong.append rightAmong)

theorem ofToken {before after : Cursor} {token : Token} (takes : before.Takes [token] after) :
    Piece before after [token.lexeme] [] := by
  exact .intro takes .nil

theorem length_lt {before after : Cursor} {lexemes : List Lexeme} {nodes : List Node}
    (piece : Piece before after lexemes nodes) (notEmpty : lexemes ≠ []) :
    after.ahead.length < before.ahead.length := by
  cases piece with
  | @intro tokens _ takes _ =>
      have positive : 0 < tokens.length := List.length_pos_iff.mpr (by simpa using notEmpty)
      have length := takes.length
      omega

theorem length_le {before after : Cursor} {lexemes : List Lexeme} {nodes : List Node}
    (piece : Piece before after lexemes nodes) : after.ahead.length ≤ before.ahead.length := by
  cases piece with
  | intro takes _ =>
      rw [takes.length]
      exact Nat.le_add_left _ _

theorem eq_of_nil {before after : Cursor} {nodes : List Node}
    (piece : Piece before after [] nodes) : before = after := by
  generalize none : ([] : List Lexeme) = spelled at piece
  cases piece with
  | intro takes _ =>
      rcases List.map_eq_nil_iff.mp none.symm with rfl
      exact Cursor.ext takes.ahead takes.ending.symm takes.lastStop.symm

theorem eq_skip {before after : Cursor} {lexemes : List Lexeme} {nodes : List Node}
    (piece : Piece before after lexemes nodes) : after = before.skip lexemes.length := by
  cases piece with
  | intro takes _ =>
      rw [List.length_map]
      exact takes.eq_skip

theorem head_eq {before after : Cursor} {lexeme : Lexeme} {lexemes : List Lexeme}
    {nodes : List Node} {token : Token} (piece : Piece before after (lexeme :: lexemes) nodes)
    (found : before.peek 0 = .ok token) : token.lexeme = lexeme := by
  generalize all : lexeme :: lexemes = spelled at piece
  cases piece with
  | @intro tokens _ takes _ =>
      cases tokens with
      | nil => cases all
      | cons first rest =>
          rw [Cursor.peek_of_ahead takes.ahead] at found
          cases found
          cases all
          rfl

theorem ne_nil {before after : Cursor} {lexemes : List Lexeme} {node : Node} {nodes : List Node}
    (piece : Piece before after lexemes (node :: nodes)) : lexemes ≠ [] := by
  cases piece with
  | intro _ among =>
      cases among with
      | cons covers _ => simp [covers.ne_nil]

/-- A node whose children lie in a piece covers it, if its range goes from the start of the piece
to the last token. -/
theorem whole {before after : Cursor} {lexemes : List Lexeme} {nodes : List Node} {node : Node}
    {start : Nat} (piece : Piece before after lexemes nodes) (starts : before.StartsAt start)
    (notEmpty : lexemes ≠ []) (children : node.children = nodes)
    (span : node.span = ⟨start, max after.lastStop start⟩) : Whole before after lexemes node := by
  cases piece with
  | @intro tokens _ takes among =>
      cases tokens with
      | nil => simp at notEmpty
      | cons first rest =>
          rcases starts with ⟨token, found, rfl⟩
          have atFirst : before.peek 0 = .ok first := Cursor.peek_of_ahead takes.ahead
          rw [atFirst] at found
          cases found
          have stop := takes.lastStop
          rw [stopAfter_cons] at stop
          rw [stop] at span
          exact .intro takes (.intro (span ▸ .closed) (children ▸ among))

end Piece

/-- Every successful run of the parser reads something that spells its value. -/
def Reads {α : Type} (parser : Parse α) (spelled : α → List Lexeme → Prop)
    (nodes : α → List Node) : Prop :=
  ∀ ⦃before value after⦄, parser before = .ok value after →
    ∃ lexemes, spelled value lexemes ∧ Piece before after lexemes (nodes value)

/-- A node that covers everything between two places, and is spelled by it. -/
def Formed (before after : Cursor) (spelled : List Lexeme → Prop) (node : Node) : Prop :=
  ∃ lexemes, spelled lexemes ∧ Whole before after lexemes node

def Forms {α : Type} (parser : Parse α) (spelled : α → List Lexeme → Prop)
    (node : α → Node) : Prop :=
  ∀ ⦃before value after⦄, parser before = .ok value after →
    Formed before after (spelled value) (node value)

theorem Forms.reads {α : Type} {parser : Parse α} {spelled : α → List Lexeme → Prop}
    {node : α → Node} (forms : Forms parser spelled node) :
    Reads parser spelled fun value => [node value] := by
  intro before value after parsed
  rcases forms parsed with ⟨lexemes, spelling, whole⟩
  exact ⟨lexemes, spelling, whole.piece⟩

end TypedScript
