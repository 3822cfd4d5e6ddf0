import TypedScript.Proofs.Angles.Basic
import TypedScript.Proofs.Reading.Expressions
import TypedScript.Proofs.Reading.Statements

/-!
Places of a text. A parser that succeeds has passed some of the tokens ahead, so it leads from one
place of a text to another, and what it yields may be said with regard to the whole text.
-/

namespace TypedScript

/-- Where it succeeds the parser has passed some of the tokens ahead, or none. -/
class Parse.Skips {α : Type} (parser : Parse α) : Prop where
  of_ok {before after : Cursor} {value : α} : parser before = .ok value after →
    ∃ count, after = before.skip count

namespace Parse

variable {α β : Type} {parser : Parse α}

theorem Skips.of_piece (pieces : ∀ {before after : Cursor} {value : α},
    parser before = .ok value after → ∃ lexemes nodes, Piece before after lexemes nodes) :
    Skips parser := by
  refine ⟨fun parsed => ?_⟩
  rcases pieces parsed with ⟨_, _, piece⟩
  cases piece with
  | intro takes _ => exact ⟨_, takes.eq_skip⟩

theorem Skips.of_reads {spelled : α → List Lexeme → Prop} {nodes : α → List Node}
    (reads : Reads parser spelled nodes) : Skips parser :=
  .of_piece fun parsed => (reads parsed).imp fun _ read => ⟨_, read.2⟩

theorem Skips.of_still (still : ∀ {before after : Cursor} {value : α},
    parser before = .ok value after → before = after) : Skips parser :=
  ⟨fun parsed => ⟨0, (still parsed).symm⟩⟩

instance : Skips current :=
  .of_still fun parsed => (current_eq_ok.mp parsed).2

instance : Skips currentStart :=
  .of_still fun parsed => (currentStart_eq_ok.mp parsed).2

instance {count : Nat} : Skips (kindAhead count) :=
  .of_still fun parsed => (kindAhead_eq_ok.mp parsed).2

instance {mark : Punctuator} : Skips (atMark mark) :=
  .of_still fun parsed => (atMark_eq_ok.mp parsed).2

instance : Skips (get : Parse Cursor) :=
  .of_still fun parsed => (get_eq_ok.mp parsed).2

instance {start : Nat} : Skips (spanFrom start) :=
  .of_still fun parsed => (spanFrom_eq_ok.mp parsed).2

instance : Skips take :=
  ⟨fun parsed => ⟨1, (take_eq_ok.mp parsed).2.symm⟩⟩

instance {count : Nat} : Skips (modify (·.skip count) : Parse PUnit) :=
  ⟨fun parsed => ⟨count, (modify_eq_ok.mp parsed).symm⟩⟩

instance {mark : Punctuator} : Skips (accept mark) :=
  .of_piece fun parsed => ⟨_, _, accept_piece parsed⟩

instance {word : String} : Skips (acceptWord word) :=
  .of_piece fun parsed => ⟨_, _, acceptWord_piece parsed⟩

instance {mark : Punctuator} : Skips (expect mark) :=
  .of_piece fun parsed => ⟨_, _, expect_piece parsed⟩

instance {word : Keyword} : Skips (expectKeyword word) :=
  .of_piece fun parsed => ⟨_, _, expectKeyword_piece parsed⟩

instance : Skips identifier :=
  .of_reads identifier_forms.reads

instance : Skips identifierName :=
  .of_reads identifierName_forms.reads

instance : Skips propertyKey :=
  .of_reads propertyKey_forms.reads

instance : Skips binaryOperator? :=
  .of_still fun parsed => (binaryOperator?_eq_ok parsed).1

instance : Skips atStatementEnd :=
  .of_still atStatementEnd_eq_ok

instance : Skips atLet :=
  .of_still fun parsed => (atLet_eq_ok parsed).1

instance : Skips statementEnd :=
  .of_piece fun parsed => (statementEnd_piece parsed).imp fun _ read => ⟨_, read.2⟩

instance : Skips specifiers :=
  .of_reads (specifiers_reads exportSpecifier_forms)

instance {word : String} : Skips (afterWord word moduleName) :=
  .of_reads (afterWord_reads moduleName_forms.reads)

end Parse

/-- From every place of the text the parser gets to another one, and yields only what has the
property. -/
structure YieldsIn (lexed : Lexed) {α : Type} (parser : Parse α) (holds : α → Prop) : Prop where
  of_ok {before after : Cursor} {value : α} : before.On lexed →
    parser before = .ok value after → holds value ∧ after.On lexed

namespace YieldsIn

open Parse

variable {lexed : Lexed} {α β : Type} {holds : α → Prop} {result : β → Prop} {parser : Parse α}
  {next : α → Parse β}

theorem of_yields [skips : Skips parser] (yields : Yields parser holds) :
    YieldsIn lexed parser holds := by
  refine ⟨fun on parsed => ⟨yields.of_ok parsed, ?_⟩⟩
  rcases skips.of_ok parsed with ⟨count, rfl⟩
  exact on.skip count

theorem bind (first : YieldsIn lexed parser holds)
    (later : ∀ value, holds value → YieldsIn lexed (next value) result) :
    YieldsIn lexed (parser >>= next) result := by
  refine ⟨fun on parsed => ?_⟩
  rcases bind_eq_ok.mp parsed with ⟨middle, between, read, parsed⟩
  rcases first.of_ok on read with ⟨satisfied, reached⟩
  exact (later middle satisfied).of_ok reached parsed

theorem andThen [Skips parser] (later : ∀ value, YieldsIn lexed (next value) result) :
    YieldsIn lexed (parser >>= next) result :=
  (of_yields .any).bind fun value _ => later value

theorem pure {value : α} (satisfied : holds value) : YieldsIn lexed (Pure.pure value) holds := by
  refine ⟨fun on parsed => ?_⟩
  rcases pure_eq_ok.mp parsed with ⟨rfl, rfl⟩
  exact ⟨satisfied, on⟩

theorem map {change : α → β} (yields : YieldsIn lexed parser holds)
    (implies : ∀ value, holds value → result (change value)) :
    YieldsIn lexed (change <$> parser) result := by
  refine ⟨fun on parsed => ?_⟩
  rcases map_eq_ok.mp parsed with ⟨inner, read, rfl⟩
  exact (yields.of_ok on read).imp_left (implies inner)

theorem present (yields : YieldsIn lexed parser holds) :
    YieldsIn lexed (some <$> parser) fun found => ∀ value ∈ found, holds value := by
  refine yields.map fun value satisfied other member => ?_
  cases member
  exact satisfied

theorem absent :
    YieldsIn lexed (Pure.pure none) fun found : Option α => ∀ value ∈ found, holds value :=
  pure (by simp)

theorem unexpected {expected : Expected} : YieldsIn lexed (unexpected expected) holds :=
  ⟨fun _ parsed => absurd parsed unexpected_ne_ok⟩

theorem afterMark (mark : Punctuator) (yields : YieldsIn lexed parser holds) :
    YieldsIn lexed (afterMark mark parser) fun found => ∀ value ∈ found, holds value := by
  apply andThen
  intro found
  split
  · exact yields.present
  · exact absent

theorem speculate {isFinal : SyntaxError → Bool} {attempt : Parse (Option α)}
    (yields : YieldsIn lexed attempt fun found => ∀ value ∈ found, holds value) :
    YieldsIn lexed (speculate isFinal attempt) fun found => ∀ value ∈ found, holds value := by
  refine ⟨fun on parsed => ?_⟩
  rcases speculate_eq_ok parsed with ⟨value, rfl, read⟩ | ⟨rfl, rfl⟩
  · exact yields.of_ok on read
  · exact ⟨by simp, on⟩

theorem repeated {turn : Parse (Turn α)} (yields : YieldsIn lexed turn (Turn.Holds holds)) :
    YieldsIn lexed (repeated turn) fun items => ∀ item ∈ items, holds item := by
  refine ⟨fun {before after items} on parsed => ?_⟩
  fun_induction Parse.repeated turn before generalizing items with
  | case1 => cases parsed
  | case2 _ _ run =>
      cases parsed
      exact ⟨by simp, (yields.of_ok on run).2⟩
  | case3 _ item _ run =>
      cases parsed
      rcases yields.of_ok on run with ⟨satisfied, reached⟩
      exact ⟨List.forall_mem_singleton.mpr satisfied, reached⟩
  | case4 => cases parsed
  | case5 _ item _ run _ _ _ later induction =>
      cases parsed
      rcases yields.of_ok on run with ⟨satisfied, reached⟩
      rcases induction reached later with ⟨others, reached⟩
      exact ⟨List.forall_mem_cons.mpr ⟨satisfied, others⟩, reached⟩
  | case6 _ item _ run _ =>
      cases parsed
      rcases yields.of_ok on run with ⟨satisfied, reached⟩
      exact ⟨List.forall_mem_singleton.mpr satisfied, reached⟩

theorem commaList (closing : Punctuator) (yields : YieldsIn lexed parser holds) :
    YieldsIn lexed (commaList closing parser) fun items => ∀ item ∈ items, holds item := by
  apply repeated
  apply andThen
  intro found
  split
  · exact pure trivial
  · apply yields.bind
    intro item satisfied
    apply andThen
    intro more
    split
    · exact pure satisfied
    · exact pure satisfied

end YieldsIn

end TypedScript
