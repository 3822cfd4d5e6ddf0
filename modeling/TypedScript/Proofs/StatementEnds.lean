import Mathlib.Data.List.Chain
import TypedScript.Proofs.EntryPoints
import TypedScript.Proofs.Shape.Programs
import TypedScript.Proofs.Skipping
import TypedScript.Proofs.TokensWithin

/-!
What parts statements. Main statement: between two statements of a program there is no token, and
the first one ends with a semicolon or with a block of its own, or the second one begins on a new
line; and what a statement returns begins on the line of the word before it.
-/

namespace TypedScript

/-! Statements without semicolons. -/

namespace Statement

/-- Whether the statement ends with a block of its own: an interface, or a function with a body. -/
def isBlock : Statement → Bool
  | .interface _ => true
  | .function declaration => declaration.body.isSome
  | _ => false

def endsInBlock : Statement → Bool
  | .exporting _ declaration => declaration.isBlock
  | statement => statement.isBlock

def isDeclaration : Statement → Bool
  | .interface _ | .typeAlias _ | .function _ | .binding _ => true
  | _ => false

end Statement

/-- Nothing stands between two statements of the text, and they do not run into each other. -/
def Lexed.Parts (lexed : Lexed) (first second : Statement) : Prop :=
  ∃ earlier last next later, lexed.tokens = earlier ++ last :: next :: later ∧
    (lexed.within first.span).getLast? = some last ∧
    (lexed.within second.span).head? = some next ∧
    (last.isMark .semicolon = true ∨ next.afterLineBreak = true ∨ first.endsInBlock = true)

def Node.ReturnsInLine (lexed : Lexed) : Node → Prop
  | .statement (.returning _ (some value)) =>
      ∃ first, (lexed.within value.span).head? = some first ∧ first.afterLineBreak = false
  | _ => True

namespace Node

variable {lexed : Lexed} {node : Node}

def holdsStatements : Node → Bool
  | .program _ | .statement _ => true
  | _ => false

theorem holdsStatements_of_mem_children (noStatements : node.holdsStatements = false) :
    ∀ child ∈ node.children, child.holdsStatements = false := by
  intro child member
  cases node with
  | program => cases noStatements
  | statement => cases noStatements
  | type content => cases content <;> grind [children, TypeExpr.children, holdsStatements]
  | expression content =>
      cases content with
      | arrow _ _ _ body => cases body <;> grind [children, Expression.children, holdsStatements]
      | _ => grind [children, Expression.children, holdsStatements]
  | typeMember content => cases content <;> grind [children, TypeMember.children, holdsStatements]
  | typeParameter => grind [children, TypeParameter.children, holdsStatements]
  | parameter => grind [children, Parameter.children, holdsStatements]
  | objectProperty content => cases content <;> grind [children, holdsStatements]
  | propertyKey content => cases content <;> grind [children, holdsStatements]
  | _ => grind [children, holdsStatements]

theorem returnsInLine_of_no_statements (noStatements : node.holdsStatements = false) :
    node.Everywhere (ReturnsInLine lexed) := by
  induction node using Node.induction with
  | step node induction =>
      refine everywhere_iff.mpr ⟨?_, fun child member => ?_⟩
      · cases node with
        | statement => cases noStatements
        | _ => trivial
      · exact induction child member (holdsStatements_of_mem_children noStatements child member)

theorem returnsInLine_of_own {statement : Statement}
    (own : (Node.statement statement).ReturnsInLine lexed)
    (noExport : ∀ span declaration, statement ≠ .exporting span declaration) :
    (Node.statement statement).Everywhere (ReturnsInLine lexed) := by
  refine everywhere_iff.mpr ⟨own, fun child member => returnsInLine_of_no_statements ?_⟩
  cases statement with
  | exporting span declaration => exact absurd rfl (noExport span declaration)
  | _ => grind [children, Statement.children, holdsStatements]

theorem returnsInLine_of_declaration {statement : Statement}
    (isDeclaration : statement.isDeclaration = true) :
    (Node.statement statement).Everywhere (ReturnsInLine lexed) := by
  refine returnsInLine_of_own ?_ ?_
  · cases statement with
    | returning => cases isDeclaration
    | _ => trivial
  · rintro span declaration rfl
    cases isDeclaration

end Node

/-! Places where a statement may end. -/

/-- A semicolon has just been passed, or a closing brace, a new line or the end of the text comes
next. -/
def Cursor.AtEnd (lexed : Lexed) (cursor : Cursor) : Prop :=
  (∃ earlier last, lexed.tokens = earlier ++ last :: cursor.ahead ∧
    last.isMark .semicolon = true) ∨
  ∃ token, cursor.peek 0 = .ok token ∧
    (token.isMark .closeBrace = true ∨ token.kind = .endOfFile ∨ token.afterLineBreak = true)

theorem Cursor.On.atEnd_next {lexed : Lexed} {cursor : Cursor} {token : Token}
    (on : cursor.On lexed) (peeked : cursor.peek 0 = .ok token)
    (isSemicolon : token.isMark .semicolon = true) : cursor.next.AtEnd lexed := by
  rcases ahead_of_peek peeked (Token.isMark_ne_end isSemicolon) with ⟨rest, ahead⟩
  rcases on.split with ⟨earlier, split, _⟩
  rw [ahead] at split
  exact .inl ⟨earlier, token, by rw [(next_of_ahead ahead).1, split], isSemicolon⟩

structure Statement.Declares (lexed : Lexed) (statement : Statement) (after : Cursor) : Prop where
  isDeclaration : statement.isDeclaration = true
  ends : statement.isBlock = true ∨ after.AtEnd lexed

structure Statement.Stands (lexed : Lexed) (statement : Statement) (after : Cursor) : Prop where
  ends : statement.endsInBlock = true ∨ after.AtEnd lexed
  returns : (Node.statement statement).Everywhere (Node.ReturnsInLine lexed)

theorem Statement.Declares.stands {lexed : Lexed} {statement : Statement} {after : Cursor}
    (declares : statement.Declares lexed after) : statement.Stands lexed after := by
  rcases declares with ⟨isDeclaration, ends⟩
  refine ⟨?_, Node.returnsInLine_of_declaration isDeclaration⟩
  cases statement with
  | exporting => cases isDeclaration
  | _ => exact ends

/-- From every place of the text the parser yields only what has the property together with the
place behind it. -/
structure LeavesIn (lexed : Lexed) {α : Type} (parser : Parse α) (holds : α → Cursor → Prop) :
    Prop where
  of_ok {before after : Cursor} {value : α} : before.On lexed →
    parser before = .ok value after → holds value after

namespace LeavesIn

open Parse

variable {lexed : Lexed} {α β : Type} {holds : α → Cursor → Prop} {result : β → Cursor → Prop}
  {parser : Parse α} {next : α → Parse β}

theorem andThen [skips : Skips parser] (later : ∀ value, LeavesIn lexed (next value) result) :
    LeavesIn lexed (parser >>= next) result := by
  refine ⟨fun on parsed => ?_⟩
  rcases bind_eq_ok.mp parsed with ⟨middle, between, read, parsed⟩
  rcases skips.of_ok read with ⟨count, rfl⟩
  exact (later middle).of_ok (on.skip count) parsed

theorem unexpected {expected : Expected} : LeavesIn lexed (unexpected expected) holds :=
  ⟨fun _ parsed => absurd parsed unexpected_ne_ok⟩

theorem present (leaves : LeavesIn lexed parser holds) :
    LeavesIn lexed (some <$> parser) fun found after => ∀ value ∈ found, holds value after := by
  refine ⟨fun on parsed => ?_⟩
  rcases map_eq_ok.mp parsed with ⟨value, read, rfl⟩
  rintro _ ⟨⟩
  exact leaves.of_ok on read

theorem absent :
    LeavesIn lexed (pure none) fun found after => ∀ value ∈ found, holds value after := by
  refine ⟨fun _ parsed => ?_⟩
  rcases pure_eq_ok.mp parsed with ⟨rfl, rfl⟩
  simp

theorem built {start : Nat} {build : α → Span → β} (leaves : LeavesIn lexed parser holds)
    (implies : ∀ value after span, holds value after → result (build value span) after) :
    LeavesIn lexed (parser >>= fun value => spanFrom start >>= fun span => pure (build value span))
      result := by
  refine ⟨fun on parsed => ?_⟩
  simp only [bind_eq_ok, spanFrom_eq_ok, pure_eq_ok] at parsed
  rcases parsed with ⟨value, _, read, span, _, ⟨_, rfl⟩, rfl, rfl⟩
  exact implies _ _ _ (leaves.of_ok on read)

end LeavesIn

namespace Parse

variable {lexed : Lexed} {nesting : Nesting} {before after : Cursor}

theorem statementEnd_ends : LeavesIn lexed statementEnd fun _ after => after.AtEnd lexed := by
  refine ⟨fun on parsed => ?_⟩
  simp only [statementEnd, accept, bind_eq_ok, atMark_eq_ok] at parsed
  rcases parsed with ⟨found, between, ⟨_, _, ⟨⟨token, peeked, rfl⟩, rfl⟩, accepted⟩, parsed⟩
  split at accepted
  · next isSemicolon =>
      simp only [bind_eq_ok, take_eq_ok, pure_eq_ok] at accepted
      rcases accepted with ⟨_, _, ⟨_, rfl⟩, rfl, rfl⟩
      rcases pure_eq_ok.mp parsed with ⟨_, rfl⟩
      exact on.atEnd_next peeked isSemicolon
  · next noSemicolon =>
      rcases pure_eq_ok.mp accepted with ⟨rfl, rfl⟩
      simp only [Bool.false_eq_true, if_false, atStatementEnd, bind_eq_ok, current_eq_ok,
        pure_eq_ok] at parsed
      rcases parsed with ⟨_, _, ⟨_, _, ⟨again, rfl⟩, rfl, rfl⟩, parsed⟩
      cases peeked.symm.trans again
      split at parsed
      · next ends =>
          rcases pure_eq_ok.mp parsed with ⟨_, rfl⟩
          refine .inr ⟨token, peeked, ?_⟩
          simpa [noSemicolon, or_assoc] using ends
      · exact absurd parsed unexpected_ne_ok

/-! Declarations. -/

instance : Skips moduleName :=
  .of_reads moduleName_forms.reads

instance : Skips importBindings := by
  refine .of_piece fun parsed => ?_
  rcases importBindings_eq_ok parsed with ⟨_, rfl⟩ | ⟨lexemes, _, piece⟩
  · exact ⟨_, _, .nil _⟩
  · exact ⟨_, _, piece⟩

theorem interfaceDeclaration_declares (reading : nesting.Reading) :
    LeavesIn lexed (interfaceDeclaration nesting) (Statement.Declares lexed) := by
  have : Skips (typeParameters nesting) := .of_reads (typeParameters_reads reading)
  have : Skips (extendedTypes nesting) := .of_reads (extendedTypes_reads reading)
  have members : LeavesIn lexed (typeMembers nesting) fun _ _ => True := ⟨fun _ _ => trivial⟩
  apply LeavesIn.andThen
  intro start
  apply LeavesIn.andThen
  intro word
  apply LeavesIn.andThen
  intro name
  apply LeavesIn.andThen
  intro typeParameters
  apply LeavesIn.andThen
  intro extended
  exact members.built fun _ _ _ _ => ⟨rfl, .inl rfl⟩

theorem typeAlias_declares (reading : nesting.Reading) :
    LeavesIn lexed (typeAlias nesting) (Statement.Declares lexed) := by
  have : Skips (typeParameters nesting) := .of_reads (typeParameters_reads reading)
  have : Skips nesting.type := .of_reads reading.type
  apply LeavesIn.andThen
  intro start
  apply LeavesIn.andThen
  intro word
  apply LeavesIn.andThen
  intro name
  apply LeavesIn.andThen
  intro typeParameters
  apply LeavesIn.andThen
  intro equals
  apply LeavesIn.andThen
  intro aliased
  exact statementEnd_ends.built fun _ _ _ ends => ⟨rfl, .inr ends⟩

theorem bodyOrEnd_ends :
    LeavesIn lexed bodyOrEnd fun body after => body.isSome = true ∨ after.AtEnd lexed := by
  apply LeavesIn.andThen
  intro opens
  split
  · refine ⟨fun _ parsed => ?_⟩
    rcases map_eq_ok.mp parsed with ⟨body, _, rfl⟩
    exact .inl rfl
  · apply LeavesIn.andThen
    intro ends
    split
    · refine ⟨fun on parsed => ?_⟩
      simp only [bind_eq_ok, pure_eq_ok] at parsed
      rcases parsed with ⟨_, _, ended, _, rfl⟩
      exact .inr (statementEnd_ends.of_ok on ended)
    · exact .unexpected

theorem functionDeclaration_declares (reading : nesting.Reading) :
    LeavesIn lexed (functionDeclaration nesting) (Statement.Declares lexed) := by
  have : Skips (typeParameters nesting) := .of_reads (typeParameters_reads reading)
  have : Skips (parameters nesting true) := .of_reads (parameters_reads reading true)
  have : Skips (declaredType? nesting) := .of_reads (declaredType?_reads reading)
  apply LeavesIn.andThen
  intro start
  apply LeavesIn.andThen
  intro word
  apply LeavesIn.andThen
  intro name
  apply LeavesIn.andThen
  intro typeParameters
  apply LeavesIn.andThen
  intro parameters
  apply LeavesIn.andThen
  intro result
  exact bodyOrEnd_ends.built fun _ _ _ ends => ⟨rfl, ends⟩

theorem variableDeclaration_declares (reading : nesting.Reading) {kind : VariableKind} :
    LeavesIn lexed (variableDeclaration nesting kind) (Statement.Declares lexed) := by
  have : Skips (declaredType? nesting) := .of_reads (declaredType?_reads reading)
  have : Skips (variableValue? nesting kind) := .of_reads (variableValue?_reads reading kind)
  apply LeavesIn.andThen
  intro start
  apply LeavesIn.andThen
  intro word
  apply LeavesIn.andThen
  intro name
  apply LeavesIn.andThen
  intro declaredType
  apply LeavesIn.andThen
  intro initializer
  exact statementEnd_ends.built fun _ _ _ ends => ⟨rfl, .inr ends⟩

theorem declaration?_declares (reading : nesting.Reading) :
    LeavesIn lexed (declaration? nesting) fun found after =>
      ∀ statement ∈ found, statement.Declares lexed after := by
  apply LeavesIn.andThen
  intro token
  split
  · exact (interfaceDeclaration_declares reading).present
  · exact (typeAlias_declares reading).present
  · exact (functionDeclaration_declares reading).present
  · exact (variableDeclaration_declares reading).present
  · apply LeavesIn.andThen
    intro isLet
    split
    · exact (variableDeclaration_declares reading).present
    · exact .absent
  · exact .absent

/-! All statements. -/

theorem importDeclaration_stands :
    LeavesIn lexed importDeclaration (Statement.Stands lexed) := by
  apply LeavesIn.andThen
  intro start
  apply LeavesIn.andThen
  intro word
  apply LeavesIn.andThen
  intro clause
  apply LeavesIn.andThen
  intro source
  exact statementEnd_ends.built fun _ _ _ ends =>
    ⟨.inr ends, Node.returnsInLine_of_own trivial nofun⟩

theorem exportDeclaration_stands (reading : nesting.Reading) :
    LeavesIn lexed (exportDeclaration nesting) (Statement.Stands lexed) := by
  have : Skips nesting.expression := .of_reads reading.expression.reads
  apply LeavesIn.andThen
  intro start
  apply LeavesIn.andThen
  intro word
  apply LeavesIn.andThen
  intro hasNames
  split
  · apply LeavesIn.andThen
    intro specifiers
    apply LeavesIn.andThen
    intro source
    exact statementEnd_ends.built fun _ _ _ ends =>
      ⟨.inr ends, Node.returnsInLine_of_own trivial nofun⟩
  · apply LeavesIn.andThen
    intro isDefault
    split
    · apply LeavesIn.andThen
      intro value
      exact statementEnd_ends.built fun _ _ _ ends =>
        ⟨.inr ends, Node.returnsInLine_of_own trivial nofun⟩
    · refine ⟨fun on parsed => ?_⟩
      rcases bind_eq_ok.mp parsed with ⟨found, between, read, parsed⟩
      cases found with
      | none => exact absurd parsed unexpected_ne_ok
      | some declaration =>
          simp only [bind_eq_ok, spanFrom_eq_ok, pure_eq_ok] at parsed
          rcases parsed with ⟨_, _, ⟨_, rfl⟩, rfl, rfl⟩
          have declares := (declaration?_declares reading).of_ok on read declaration rfl
          refine ⟨declares.ends, Node.everywhere_iff.mpr ⟨trivial, fun child member => ?_⟩⟩
          rw [List.mem_singleton.mp member]
          exact Node.returnsInLine_of_declaration declares.isDeclaration

theorem returned?_inLine (reading : nesting.Reading) :
    YieldsIn lexed (returned? nesting) fun found => ∀ value ∈ found,
      ∃ first, (lexed.within value.span).head? = some first ∧ first.afterLineBreak = false := by
  refine ⟨fun on parsed => ?_⟩
  simp only [returned?, atStatementEnd, bind_eq_ok, current_eq_ok, pure_eq_ok] at parsed
  rcases parsed with ⟨_, _, ⟨token, _, ⟨peeked, rfl⟩, rfl, rfl⟩, parsed⟩
  split at parsed
  · rcases pure_eq_ok.mp parsed with ⟨rfl, rfl⟩
    exact ⟨by simp, on⟩
  · next noEnd =>
      rcases map_eq_ok.mp parsed with ⟨value, read, rfl⟩
      rcases reading.expression read with ⟨_, _, whole⟩
      have sameLine : token.afterLineBreak = false := by
        simp only [Bool.or_eq_true, not_or, Bool.not_eq_true] at noEnd
        exact noEnd.2
      refine ⟨?_, on.piece whole.piece⟩
      rintro _ ⟨⟩
      exact ⟨token, on.head?_within peeked whole, sameLine⟩

theorem returnStatement_stands (reading : nesting.Reading) :
    LeavesIn lexed (returnStatement nesting) (Statement.Stands lexed) := by
  apply LeavesIn.andThen
  intro start
  apply LeavesIn.andThen
  intro word
  refine ⟨fun on parsed => ?_⟩
  simp only [bind_eq_ok, spanFrom_eq_ok, pure_eq_ok] at parsed
  rcases parsed with ⟨found, _, read, _, _, ended, _, _, ⟨_, rfl⟩, rfl, rfl⟩
  rcases (returned?_inLine reading).of_ok on read with ⟨inLine, reached⟩
  refine ⟨.inr (statementEnd_ends.of_ok reached ended), Node.returnsInLine_of_own ?_ nofun⟩
  cases found with
  | none => trivial
  | some value => exact inLine value rfl

theorem emptyStatement_stands {token : Token} (peeked : before.peek 0 = .ok token)
    (kind : token.kind = .punctuator .semicolon) (on : before.On lexed) {value : Statement}
    (parsed : emptyStatement before = .ok value after) : value.Stands lexed after := by
  simp only [emptyStatement, bind_eq_ok, currentStart_eq_ok, take_eq_ok, spanFrom_eq_ok, pure_eq_ok]
    at parsed
  rcases parsed with ⟨_, _, ⟨_, rfl⟩, _, _, ⟨_, rfl⟩, _, _, ⟨_, rfl⟩, rfl, rfl⟩
  exact ⟨.inr (on.atEnd_next peeked (Token.isMark_iff.mpr kind)),
    Node.returnsInLine_of_own trivial (by simp)⟩

theorem expressionStatement_stands (reading : nesting.Reading) :
    LeavesIn lexed (expressionStatement nesting) (Statement.Stands lexed) := by
  have : Skips nesting.expression := .of_reads reading.expression.reads
  apply LeavesIn.andThen
  intro token
  split
  · apply LeavesIn.andThen
    intro value
    exact statementEnd_ends.built fun _ _ _ ends =>
      ⟨.inr ends, Node.returnsInLine_of_own trivial nofun⟩
  · exact .unexpected

theorem statement_stands (reading : nesting.Reading) :
    LeavesIn lexed (statement nesting) (Statement.Stands lexed) := by
  refine ⟨fun {before after value} on parsed => ?_⟩
  simp only [statement, bind_eq_ok, current_eq_ok] at parsed
  rcases parsed with ⟨token, _, ⟨peeked, rfl⟩, parsed⟩
  rcases exists_branch parsed with ⟨branch, chosen, parsed⟩
  split at chosen <;> subst chosen
  · exact importDeclaration_stands.of_ok on parsed
  · exact (exportDeclaration_stands reading).of_ok on parsed
  · exact (returnStatement_stands reading).of_ok on parsed
  · next kind => exact emptyStatement_stands peeked kind on parsed
  · rcases bind_eq_ok.mp parsed with ⟨found, between, read, parsed⟩
    rcases declaration?_eq_ok reading read with ⟨declaration, rfl, _⟩ | ⟨rfl, rfl⟩
    · rcases pure_eq_ok.mp parsed with ⟨rfl, rfl⟩
      exact ((declaration?_declares reading).of_ok on read declaration rfl).stands
    · exact (expressionStatement_stands reading).of_ok on parsed

/-- No statement begins with a closing brace. So although a statement may end before one, none
follows there. -/
theorem statement_not_closeBrace {token : Token} (peeked : before.peek 0 = .ok token)
    {value : Statement} (parsed : statement nesting before = .ok value after) :
    token.isMark .closeBrace = false := by
  rw [← Bool.not_eq_true, Token.isMark_iff]
  intro kind
  simp only [statement, bind_eq_ok, current_eq_ok] at parsed
  rcases parsed with ⟨_, _, ⟨again, rfl⟩, parsed⟩
  cases peeked.symm.trans again
  simp only [kind, declaration?, bind_eq_ok, current_eq_ok] at parsed
  rcases parsed with ⟨_, _, ⟨_, _, ⟨again, rfl⟩, parsed⟩, expressionParsed⟩
  cases peeked.symm.trans again
  simp only [kind, pure_eq_ok] at parsed
  rcases parsed with ⟨rfl, rfl⟩
  simp only [expressionStatement, bind_eq_ok, current_eq_ok] at expressionParsed
  rcases expressionParsed with ⟨_, _, ⟨again, rfl⟩, parsed⟩
  cases peeked.symm.trans again
  rw [kind, if_neg (by decide)] at parsed
  exact absurd parsed unexpected_ne_ok

/-- What holds of statements that have been read from some place of the text on. The first of them
begins with the token at hand there, and that token ends no statement before it. -/
structure PartedFrom (lexed : Lexed) (before : Cursor) (list : List Statement) : Prop where
  parts : list.IsChain lexed.Parts
  returns : ∀ statement ∈ list, (Node.statement statement).Everywhere (Node.ReturnsInLine lexed)
  opens : ∀ first ∈ list.head?, ∃ token, before.peek 0 = .ok token ∧ token.kind ≠ .endOfFile ∧
    token.isMark .closeBrace = false ∧ (lexed.within first.span).head? = some token

theorem parts_of_stands {first second : Statement} {lexemes : List Lexeme} {token : Token}
    (on : before.On lexed) (whole : Whole before after lexemes (.statement first))
    (stands : first.Stands lexed after) (peeked : after.peek 0 = .ok token)
    (more : token.kind ≠ .endOfFile) (noBrace : token.isMark .closeBrace = false)
    (isFirst : (lexed.within second.span).head? = some token) : lexed.Parts first second := by
  have wholeRead := whole
  cases whole with
  | @intro own _ takes covers =>
      have within : lexed.within first.span = own := on.within takes wholeRead
      rcases Cursor.ahead_of_peek peeked more with ⟨rest, ahead⟩
      rcases on.split with ⟨earlier, split, _⟩
      rcases List.eq_nil_or_concat own with rfl | ⟨init, last, rfl⟩
      · exact absurd rfl covers.ne_nil
      · rw [List.concat_eq_append] at takes within
        rw [takes.ahead, List.append_assoc, List.singleton_append, ← List.append_assoc] at split
        refine ⟨earlier ++ init, last, token, rest, by rw [split, ahead], ?_, isFirst, ?_⟩
        · rw [within, List.getLast?_concat]
        · rcases stands.ends with
            isBlock | ⟨_, semicolon, otherSplit, isSemicolon⟩ | ⟨next, found, ends⟩
          · exact .inr (.inr isBlock)
          · have same := split.symm.trans otherSplit
            rw [List.append_cons, List.append_cons _ semicolon] at same
            cases (List.append_inj' (List.append_cancel_right same) rfl).2
            exact .inl isSemicolon
          · cases peeked.symm.trans found
            rcases ends with isBrace | isEnd | onNewLine
            · rw [noBrace] at isBrace
              cases isBrace
            · exact absurd isEnd more
            · exact .inr (.inl onNewLine)

theorem statements_parted_from (reading : nesting.Reading) (on : before.On lexed)
    {list : List Statement} (parsed : statements nesting before = .ok list after) :
    PartedFrom lexed before list := by
  refine repeated_induction (motive := fun list before _ => before.On lexed →
    PartedFrom lexed before list) ?_ parsed on
  intro before turned after parsed
  simp only [statementTurn, bind_eq_ok, current_eq_ok] at parsed
  rcases parsed with ⟨token, _, ⟨peeked, rfl⟩, parsed⟩
  split at parsed
  · rcases pure_eq_ok.mp parsed with ⟨rfl, _⟩
    exact fun _ => ⟨.nil, by simp, by simp⟩
  · next more =>
      rcases map_eq_ok.mp parsed with ⟨value, read, rfl⟩
      rcases statement_forms reading read with ⟨_, _, whole⟩
      refine ⟨whole.length_lt, fun others later rest on => ?_⟩
      have stands := (statement_stands reading).of_ok on read
      rcases rest (on.piece whole.piece) with ⟨chain, returns, opens⟩
      refine ⟨List.isChain_cons.mpr ⟨fun second isSecond => ?_, chain⟩,
        List.forall_mem_cons.mpr ⟨stands.returns, returns⟩, ?_⟩
      · rcases opens second isSecond with ⟨next, found, more, noBrace, isFirst⟩
        exact parts_of_stands on whole stands found more noBrace isFirst
      · rintro _ ⟨⟩
        exact ⟨token, peeked, more, statement_not_closeBrace peeked read,
          on.head?_within peeked whole⟩

end Parse

/-- Where a program has one statement after another, nothing stands between them, and a semicolon, a
new line or the block that the first one ends with parts them. What a statement returns begins on
the line of the word before it. -/
theorem statements_parted (options : ParseOptions) (source : String) (program : Program)
    (parsed : parseProgram options source = .ok program) :
    (∀ earlier first second later, program.statements = earlier ++ first :: second :: later →
      (lex options.keywords source).Parts first second) ∧
    (Node.program program).Everywhere (Node.ReturnsInLine (lex options.keywords source)) := by
  have reading := Nesting.ofRoom_reading (.ofLimit options.nestingLimit) options.nestingLimit
  have on : (Cursor.ofLexed (lex options.keywords source)).On (lex options.keywords source) :=
    ⟨lex_inOrder _ _, 0, rfl⟩
  unfold parseProgram at parsed
  cases result : Parse.run options source Parse.statements with
  | error =>
      rw [result] at parsed
      cases parsed
  | ok list =>
      rw [result] at parsed
      cases parsed
      rcases Parse.run_eq_ok result with ⟨after, read⟩
      rcases Parse.statements_parted_from reading on read with ⟨chain, returns, _⟩
      refine ⟨fun _ _ _ _ split => ?_, Node.everywhere_iff.mpr ⟨trivial, fun child member => ?_⟩⟩
      · exact List.isChain_iff_forall_rel_of_append_cons_cons.mp chain split
      · rcases List.mem_map.mp member with ⟨statement, isStatement, rfl⟩
        exact returns statement isStatement

theorem statements_parted_mixed :
    ∃ program,
      parseProgram .default "interface A \x7b \x7d return b; function f()\nlet c" = .ok program ∧
      (∀ earlier first second later, program.statements = earlier ++ first :: second :: later →
        (lex .full "interface A \x7b \x7d return b; function f()\nlet c").Parts first second) ∧
      (Node.program program).Everywhere
        (Node.ReturnsInLine (lex .full "interface A \x7b \x7d return b; function f()\nlet c")) := by
  have accepted : (parseProgram .default
      "interface A \x7b \x7d return b; function f()\nlet c").isOk = true := by decide +kernel
  rcases exists_of_isOk accepted with ⟨program, parsed⟩
  exact ⟨program, parsed, statements_parted .default _ program parsed⟩

end TypedScript
