import TypedScript.Parser.Expressions
import TypedScript.Proofs.Acceptance.Lexemes
import TypedScript.Proofs.Printing
import TypedScript.Proofs.Relocation

/-!
Rules for types accept what is printed for them, one rule after another: if the rules one level
deeper accept the parts of a type, then the rule of the type accepts the whole.
-/

namespace TypedScript

/-- Sends all offsets to one, so that a tree has no ranges. -/
abbrev nowhere : Nat → Nat :=
  fun _ => 0

/-! What may follow a type. -/

/-- The tokens that go on a type which is no list and no array. An arrow does so after
parentheses. -/
def afterPrimary : List TokenKind :=
  [.punctuator .dot, .punctuator .lessThan, .punctuator .arrow]

def afterPostfix : List TokenKind :=
  .punctuator .openBracket :: afterPrimary

def afterIntersection : List TokenKind :=
  .punctuator .ampersand :: afterPostfix

def afterType : List TokenKind :=
  .punctuator .bar :: afterIntersection

/-! How a type begins. -/

/-- The tokens that a type begins with, if it begins with no mark that may be left out. -/
def startsPrimary : TokenKind → Bool
  | .identifier | .numericLiteral | .stringLiteral => true
  | .punctuator mark => (mark matches .openParen | .openBrace | .openBracket | .lessThan)
  | _ => false

def afterName : List Punctuator :=
  [.dot, .lessThan, .openBracket, .ampersand, .bar]

/-- The lexemes begin a type, which cannot be taken for the parameters of a function. -/
inductive Leads : List Lexeme → Prop
  | name {text} : Leads [.word text]
  | longer {text mark lexemes} :
      mark ∈ afterName → Leads (.word text :: .mark mark :: lexemes)
  | other {lexeme lexemes} :
      startsPrimary lexeme.kind = true → lexeme.kind ≠ .identifier → Leads (lexeme :: lexemes)

namespace Leads

variable {lexemes : List Lexeme}

theorem append (leads : Leads lexemes) {mark : Punctuator} (follows : mark ∈ afterName)
    (more : List Lexeme) : Leads (lexemes ++ .mark mark :: more) := by
  cases leads with
  | name => exact .longer follows
  | longer follows => exact .longer follows
  | other starts noName => exact .other starts noName

theorem starts (leads : Leads lexemes) (more : List Lexeme) :
    startsPrimary (kindAt (lexemes ++ more) 0) = true := by
  cases leads with
  | name => rfl
  | longer => rfl
  | other starts => exact starts

theorem ne_mark (leads : Leads lexemes) (more : List Lexeme) {mark : Punctuator}
    (noStart : startsPrimary (.punctuator mark) = false) :
    kindAt (lexemes ++ more) 0 ≠ .punctuator mark := by
  intro same
  have starts := leads.starts more
  rw [same, noStart] at starts
  cases starts

theorem startsType (leads : Leads lexemes) (more : List Lexeme) :
    (kindAt (lexemes ++ more) 0).startsType = true := by
  have starts := leads.starts more
  revert starts
  generalize kindAt (lexemes ++ more) 0 = kind
  intro starts
  unfold startsPrimary at starts
  split at starts
  · rfl
  · rfl
  · rfl
  · next mark => cases mark <;> simp_all [TokenKind.startsType]
  · cases starts

end Leads

theorem Identifier.intercalate_parts (name : Identifier) :
    String.intercalate "." name.parts = name.text := by
  have identity : String.toList ∘ String.ofList = id := funext fun _ => String.toList_ofList
  apply String.toList_injective
  rw [String.toList_intercalate, parts, List.map_map, identity, List.map_id]
  exact List.intercalate_splitOn '.'

namespace Parse

variable {keywords : KeywordSet} {more : List Lexeme}

/-! Names. -/

theorem isName_name (keywords : KeywordSet) (text : String) :
    (Lexeme.name keywords text).kind.isName = true := by
  rw [Lexeme.name, Scan.nameKind]
  split <;> rfl

theorem name_eq_word {text : String} (plain : IsPlainName keywords text) :
    Lexeme.name keywords text = .word text := by
  rw [Lexeme.name, Scan.nameKind, String.ofList_toList, plain.2, Lexeme.word]

theorem nameParts_accepts (parts : List String) (noDot : kindAt more 0 ≠ .punctuator .dot) :
    Accepts (repeated namePart)
      (parts.flatMap (fun part => [.mark .dot, .name keywords part]) ++ more) more (· = parts) := by
  have accepts := @repeated_accepts String String more namePart
    (fun part => [.mark .dot, .name keywords part]) id parts (by simp) ?_ ?_
  · simpa using accepts
  · apply (atMark_accepts .dot).bindEq
    exact .ifFalse (by simpa using noDot) (.pure rfl)
  · intro part others _
    apply (atMark_accepts .dot).bindEq
    apply (kindAhead_accepts 1).bindEq
    apply Accepts.ifTrue (isName_name keywords part)
    apply take_accepts.bind
    intro _ _
    apply take_accepts.bind
    intro token same
    exact .pure ⟨token.text, rfl, congrArg Lexeme.text same⟩

end Parse

/-- The rules one level deeper accept the type, whatever follows it. -/
def Nesting.Takes (keywords : KeywordSet) (nesting : Nesting) (type : TypeExpr) : Prop :=
  Leads (type.lexemes keywords) ∧
    ∀ more, kindAt more 0 ∉ afterType →
      Accepts nesting.type (type.lexemes keywords ++ more) more
        (·.relocate nowhere = type.relocate nowhere)

namespace Parse

variable {keywords : KeywordSet} {nesting : Nesting} {more : List Lexeme} {type : TypeExpr}

theorem requiredType_accepts (takes : nesting.Takes keywords type)
    (ends : kindAt more 0 ∉ afterType) :
    Accepts (requiredType nesting) (type.lexemes keywords ++ more) more
      (·.relocate nowhere = type.relocate nowhere) := by
  have starts : Accepts requireTypeStart (type.lexemes keywords ++ more)
      (type.lexemes keywords ++ more) fun _ => True := by
    apply current_accepts.bind
    intro token kind
    refine .ifFalse ?_ (.pure trivial)
    simp [kind, takes.1.startsType more]
  exact starts.bind fun _ _ => takes.2 more ends

/-! Lists in angle brackets. -/

theorem typeArguments_accepts {first : TypeExpr} {others : List TypeExpr}
    (takes : ∀ argument ∈ first :: others, nesting.Takes keywords argument) :
    Accepts (typeArguments nesting)
      (Lexeme.bracketed ((first :: others).map (·.lexemes keywords)) ++ more) more
      (List.map (TypeExpr.relocate nowhere) · =
        (first :: others).map (TypeExpr.relocate nowhere)) := by
  have turn : ∀ argument ∈ first :: others, ∀ rest, kindAt rest 0 ∉ afterType →
      ∀ {after holds}, (∀ value : TypeExpr, value.relocate nowhere = argument.relocate nowhere →
        Accepts (commaTurn value) rest after holds) →
      Accepts (requiredType nesting >>= commaTurn) (argument.lexemes keywords ++ rest) after
        holds := fun argument member rest ends _ _ goesOn =>
    (requiredType_accepts (takes argument member) ends).bind goesOn
  have items := @repeated_separated TypeExpr TypeExpr (.mark .greaterThan :: more) .comma
    (requiredType nesting >>= commaTurn) (·.lexemes keywords) (TypeExpr.relocate nowhere) first
    others ?_ ?_
  · simp only [List.map_cons, Lexeme.bracketed, Lexeme.separated, List.flatMap_map,
      List.cons_append, List.append_assoc, List.nil_append]
    apply expect_accepts.bind
    intro _ _
    apply items.bind
    intro arguments same
    apply expect_accepts.bind
    intro _ _
    exact .pure same
  · intro argument member
    apply turn argument member _ (kindAt_notMem (by decide) _)
    intro value same
    apply (accept_passes (kindAt_ne (by decide) _)).bindEq
    exact .pure ⟨value, rfl, same⟩
  · intro argument member next _ rest
    apply turn argument member _ (kindAt_notMem (by decide) _)
    intro value same
    apply accept_accepts.bindEq
    exact .pure ⟨value, rfl, same⟩

theorem typeArguments?_accepts {arguments : Option (List TypeExpr)}
    (notEmpty : arguments ≠ some [])
    (takes : ∀ argument ∈ arguments.getD [], nesting.Takes keywords argument)
    (noAngle : kindAt more 0 ≠ .punctuator .lessThan) :
    Accepts (typeArguments? nesting)
      (Lexeme.bracketed ((arguments.getD []).map (·.lexemes keywords)) ++ more) more
      (Option.map (List.map (TypeExpr.relocate nowhere)) · =
        arguments.map (List.map (TypeExpr.relocate nowhere))) := by
  cases arguments with
  | none =>
      apply (atMark_accepts .lessThan).bindEq
      exact .ifFalse (by simpa [Lexeme.bracketed] using noAngle) (.pure rfl)
  | some types =>
      cases types with
      | nil => exact absurd rfl notEmpty
      | cons first others =>
          apply (atMark_accepts .lessThan).bindEq
          refine .ifTrue rfl ((typeArguments_accepts takes).map ?_)
          intro values same
          rw [Option.map_some, Option.map_some, same]

/-! References, primitive types and literals. -/

theorem typeReference_accepts {span : Span} {name : Identifier}
    {arguments : Option (List TypeExpr)} (names : name.NamesType keywords)
    (notEmpty : arguments ≠ some [])
    (takes : ∀ argument ∈ arguments.getD [], nesting.Takes keywords argument)
    (ends : kindAt more 0 ∉ afterPrimary) :
    Accepts (typeReference nesting)
      ((TypeExpr.named span name arguments).lexemes keywords ++ more) more
      (·.relocate nowhere = (TypeExpr.named span name arguments).relocate nowhere) := by
  rcases names with ⟨first, others, parts, plain, _⟩
  have noAngle : kindAt more 0 ≠ .punctuator .lessThan := by
    intro same
    exact ends (by rw [same]; decide)
  have noDot : kindAt (Lexeme.bracketed ((arguments.getD []).map (·.lexemes keywords)) ++ more) 0 ≠
      .punctuator .dot := by
    cases (arguments.getD []).map (·.lexemes keywords) with
    | nil =>
        intro same
        exact ends (by rw [← List.nil_append more]; exact same ▸ by decide)
    | cons => exact kindAt_ne (by decide) _
  simp only [TypeExpr.lexemes, parts, argumentLexemes_eq, List.map_cons, Lexeme.separated,
    name_eq_word plain, List.flatMap_map, List.cons_append, List.nil_append, List.append_assoc]
  apply currentStart_accepts.bind
  intro start _
  apply first_accepts.bind
  rintro token ⟨same, _⟩
  apply Accepts.ifTrue (congrArg Lexeme.kind same)
  apply take_accepts.bind
  intro firstToken firstSame
  apply (nameParts_accepts others noDot).bindEq
  have spans (lexemes : List Lexeme) :
      Accepts (nameSpan start firstToken others) lexemes lexemes fun _ => True := by
    unfold nameSpan
    split
    · exact .pure trivial
    · exact spanFrom_accepts start
  apply (spans _).bind
  intro nameSpan _
  apply (typeArguments?_accepts notEmpty takes noAngle).bind
  intro values sameValues
  apply (spanFrom_accepts start).bind
  intro whole _
  refine .pure ?_
  have text : firstToken.text = first := congrArg Lexeme.text firstSame
  simp only [TypeExpr.relocate, relocateTypes?_eq, sameValues, Identifier.relocate, Span.relocate,
    text, ← parts, name.intercalate_parts]

theorem nameType_accepts_reference {span : Span} {name : Identifier}
    {arguments : Option (List TypeExpr)} (names : name.NamesType keywords)
    (notEmpty : arguments ≠ some [])
    (takes : ∀ argument ∈ arguments.getD [], nesting.Takes keywords argument)
    (ends : kindAt more 0 ∉ afterPrimary) :
    Accepts (nameType nesting)
      ((TypeExpr.named span name arguments).lexemes keywords ++ more) more
      (·.relocate nowhere = (TypeExpr.named span name arguments).relocate nowhere) := by
  have reference := @typeReference_accepts _ _ _ span _ _ names notEmpty takes ends
  rcases names with ⟨first, others, parts, plain, noLiteral, noPrimitive, _⟩
  simp only [TypeExpr.lexemes, parts, argumentLexemes_eq, List.map_cons, Lexeme.separated,
    name_eq_word plain, List.flatMap_map, List.cons_append, List.nil_append, List.append_assoc]
    at reference ⊢
  apply first_accepts.bind
  rintro token ⟨same, _⟩
  have kind : token.kind = .identifier := congrArg Lexeme.kind same
  have text : token.text = first := congrArg Lexeme.text same
  simp only [List.mem_cons, List.not_mem_nil, or_false, not_or] at noLiteral
  refine .ifFalse (by simp [literalOf?, kind, text, noLiteral]) ?_
  rw [text]
  cases found : Primitive.ofSpelling? first with
  | none => exact reference
  | some primitive =>
      cases others with
      | nil => cases (noPrimitive rfl).symm.trans found
      | cons second others =>
          apply (kindAhead_accepts 1).bindEq
          exact .ifTrue rfl reference

theorem nameType_accepts_primitive {span : Span} {primitive : Primitive}
    (ends : kindAt more 0 ∉ afterPrimary) :
    Accepts (nameType nesting) ((TypeExpr.primitive span primitive).lexemes keywords ++ more) more
      (·.relocate nowhere = (TypeExpr.primitive span primitive).relocate nowhere) := by
  rw [TypeExpr.lexemes, List.cons_append, List.nil_append]
  apply first_accepts.bind
  rintro token ⟨same, _⟩
  have kind : token.kind = .identifier := congrArg Lexeme.kind same
  have text : token.text = primitive.spelling := congrArg Lexeme.text same
  have noLiteral : literalOf? token = none := by
    cases primitive <;> simp [literalOf?, kind, text, Primitive.spelling]
  have found : Primitive.ofSpelling? primitive.spelling = some primitive := by
    cases primitive <;> decide
  refine .ifFalse (by simp [noLiteral]) ?_
  rw [text, found]
  apply (kindAhead_accepts 1).bindEq
  refine .ifFalse (fun isDot => ends (isDot ▸ by decide)) ?_
  apply take_accepts.bind
  intro _ _
  apply (spanFrom_accepts _).bind
  intro _ _
  exact .pure (by simp [TypeExpr.relocate, Span.relocate])

theorem primaryType_accepts_name {text : String} {lexemes : List Lexeme}
    {holds : TypeExpr → Prop}
    (accepts : Accepts (nameType nesting) (.word text :: lexemes) more holds) :
    Accepts (primaryType nesting) (.word text :: lexemes) more holds := by
  apply first_accepts.bind
  rintro token ⟨same, _⟩
  rw [show token.kind = .identifier from congrArg Lexeme.kind same]
  exact accepts

theorem primaryType_accepts_named {span : Span} {name : Identifier}
    {arguments : Option (List TypeExpr)} (names : name.NamesType keywords)
    (notEmpty : arguments ≠ some [])
    (takes : ∀ argument ∈ arguments.getD [], nesting.Takes keywords argument)
    (ends : kindAt more 0 ∉ afterPrimary) :
    Accepts (primaryType nesting)
      ((TypeExpr.named span name arguments).lexemes keywords ++ more) more
      (·.relocate nowhere = (TypeExpr.named span name arguments).relocate nowhere) := by
  have accepts := @nameType_accepts_reference _ _ _ span _ _ names notEmpty takes ends
  rcases names with ⟨first, others, parts, plain, _⟩
  simp only [TypeExpr.lexemes, parts, List.map_cons, Lexeme.separated, name_eq_word plain,
    List.cons_append, List.append_assoc] at accepts ⊢
  exact primaryType_accepts_name accepts

theorem primaryType_accepts_primitive {span : Span} {primitive : Primitive}
    (ends : kindAt more 0 ∉ afterPrimary) :
    Accepts (primaryType nesting)
      ((TypeExpr.primitive span primitive).lexemes keywords ++ more) more
      (·.relocate nowhere = (TypeExpr.primitive span primitive).relocate nowhere) := by
  have accepts := @nameType_accepts_primitive keywords nesting more span primitive ends
  rw [TypeExpr.lexemes, List.cons_append] at accepts ⊢
  exact primaryType_accepts_name accepts

theorem literalOf?_of_lexeme {token : Token} {value : LiteralValue}
    (same : token.lexeme = value.lexeme) : literalOf? token = some ⟨token.span, value⟩ := by
  have kind : token.kind = value.lexeme.kind := congrArg Lexeme.kind same
  have text : token.text = value.lexeme.text := congrArg Lexeme.text same
  have denotes : token.stringValue? = value.lexeme.value? := congrArg Lexeme.value? same
  cases value with
  | string value => simp [literalOf?, kind, denotes, LiteralValue.lexeme, Lexeme.string]
  | number digits => simp [literalOf?, kind, text, LiteralValue.lexeme]
  | boolean value =>
      cases value with
      | true => simp [literalOf?, kind, text, LiteralValue.lexeme, Lexeme.word]
      | false => simp [literalOf?, kind, text, LiteralValue.lexeme, Lexeme.word]
  | null => simp [literalOf?, kind, text, LiteralValue.lexeme, Lexeme.word]

theorem literalType_accepts {span : Span} {constant : Literal} :
    Accepts literalType ((TypeExpr.literal span constant).lexemes keywords ++ more) more
      (·.relocate nowhere = (TypeExpr.literal span constant).relocate nowhere) := by
  rw [TypeExpr.lexemes, List.cons_append, List.nil_append]
  apply take_accepts.bind
  intro token same
  rw [literalOf?_of_lexeme same]
  apply (spanFrom_accepts _).bind
  intro _ _
  exact .pure (by simp [TypeExpr.relocate, Span.relocate, Literal.relocate])

theorem literal_kind (value : LiteralValue) :
    value.lexeme.kind = .stringLiteral ∨ value.lexeme.kind = .numericLiteral ∨
      value.lexeme.kind = .identifier := by
  cases value with
  | string => exact .inl rfl
  | number => exact .inr (.inl rfl)
  | boolean value => cases value <;> exact .inr (.inr rfl)
  | null => exact .inr (.inr rfl)

theorem primaryType_accepts_literal {span : Span} {constant : Literal} :
    Accepts (primaryType nesting) ((TypeExpr.literal span constant).lexemes keywords ++ more) more
      (·.relocate nowhere = (TypeExpr.literal span constant).relocate nowhere) := by
  have literal := @literalType_accepts keywords more span constant
  rw [TypeExpr.lexemes, List.cons_append, List.nil_append] at literal ⊢
  apply first_accepts.bind
  rintro token ⟨same, _⟩
  have kind : token.kind = constant.value.lexeme.kind := congrArg Lexeme.kind same
  rw [kind]
  rcases literal_kind constant.value with isString | isNumber | isWord
  · rw [isString]
    exact literal
  · rw [isNumber]
    exact literal
  · rw [isWord]
    apply first_accepts.bind
    rintro token ⟨same, _⟩
    exact .ifTrue (by rw [literalOf?_of_lexeme same]; rfl) literal

/-! Parentheses and tuples. -/

theorem atFunctionType_rejects {lexemes : List Lexeme} (leads : Leads lexemes)
    (noArrow : kindAt more 0 ≠ .punctuator .arrow) :
    Accepts atFunctionType (.mark .openParen :: (lexemes ++ .mark .closeParen :: more))
      (.mark .openParen :: (lexemes ++ .mark .closeParen :: more)) (· = false) := by
  apply (kindAhead_accepts 1).bindEq
  cases leads with
  | name =>
      apply (kindAhead_accepts 2).bindEq
      apply (kindAhead_accepts 3).bindEq
      exact .pure (decide_eq_false noArrow)
  | @longer text mark lexemes follows =>
      apply (kindAhead_accepts 2).bindEq
      simp only [afterName, List.mem_cons, List.not_mem_nil, or_false] at follows
      rcases follows with rfl | rfl | rfl | rfl | rfl
      all_goals exact .pure rfl
  | @other lexeme lexemes starts noName =>
      rw [List.cons_append, kindAt_cons_succ, kindAt_cons_zero]
      generalize lexeme.kind = kind at starts noName
      cases kind with
      | identifier => exact absurd rfl noName
      | punctuator mark =>
          cases mark with
          | closeParen => cases starts
          | dotDotDot => cases starts
          | _ => exact .pure rfl
      | _ => exact .pure rfl

theorem primaryType_accepts_parenthesized {span : Span} {inner : TypeExpr}
    (takes : nesting.Takes keywords inner) (ends : kindAt more 0 ∉ afterPrimary) :
    Accepts (primaryType nesting)
      ((TypeExpr.parenthesized span inner).lexemes keywords ++ more) more
      (·.relocate nowhere = (TypeExpr.parenthesized span inner).relocate nowhere) := by
  rw [TypeExpr.lexemes, List.cons_append, List.append_assoc, List.singleton_append]
  apply first_accepts.bind
  rintro token ⟨same, _⟩
  have kind : token.kind = .punctuator .openParen := congrArg Lexeme.kind same
  rw [kind]
  have noArrow : kindAt more 0 ≠ .punctuator .arrow := fun isArrow => ends (isArrow ▸ by decide)
  apply (atFunctionType_rejects takes.1 noArrow).bindEq
  refine .ifFalse Bool.false_ne_true ?_
  apply currentStart_accepts.bind
  intro start _
  apply expect_accepts.bind
  intro _ _
  apply (takes.2 _ (kindAt_notMem (by decide) _)).bind
  intro value sameValue
  apply expect_accepts.bind
  intro _ _
  apply (spanFrom_accepts start).bind
  intro _ _
  exact .pure (by simp [TypeExpr.relocate, Span.relocate, sameValue])

theorem commaList_accepts {α β : Type} {closing : Punctuator} {item : Parse α}
    {print : α → List Lexeme} {view : α → β} {values : List α} (noComma : closing ≠ .comma)
    (each : ∀ value ∈ values, ∀ mark rest, mark = .comma ∨ mark = closing →
      Accepts item (print value ++ .mark mark :: rest) (.mark mark :: rest)
        (view · = view value))
    (starts : ∀ value ∈ values, ∀ rest, kindAt (print value ++ rest) 0 ≠ .punctuator closing) :
    Accepts (commaList closing item)
      (Lexeme.separated .comma (values.map print) ++ .mark closing :: more)
      (.mark closing :: more) (List.map view · = values.map view) := by
  cases values with
  | nil =>
      have stops : Accepts (listTurn closing item) (.mark closing :: more) (.mark closing :: more)
          (· = .stop) := by
        apply (atMark_accepts closing).bindEq
        exact .ifTrue (by simp [Lexeme.mark]) (.pure rfl)
      apply (repeated_stops stops).imp
      rintro _ rfl
      rfl
  | cons first others =>
      have items := @repeated_separated α β (.mark closing :: more) .comma (listTurn closing item)
        print view first others ?_ ?_
      · simp only [List.map_cons, Lexeme.separated, List.flatMap_map, List.append_assoc] at items ⊢
        exact items
      · intro value member
        apply (atMark_accepts closing).bindEq
        refine .ifFalse (by simpa using starts value member _) ?_
        apply (each value member closing more (.inr rfl)).bind
        intro found same
        apply (accept_passes (kindAt_ne noComma _)).bindEq
        exact .pure ⟨found, rfl, same⟩
      · intro value member next _ rest
        apply (atMark_accepts closing).bindEq
        refine .ifFalse (by simpa using starts value member _) ?_
        apply (each value member .comma _ (.inl rfl)).bind
        intro found same
        apply accept_accepts.bindEq
        exact .pure ⟨found, rfl, same⟩

theorem primaryType_accepts_tuple {span : Span} {elements : List TypeExpr}
    (takes : ∀ element ∈ elements, nesting.Takes keywords element) :
    Accepts (primaryType nesting) ((TypeExpr.tuple span elements).lexemes keywords ++ more) more
      (·.relocate nowhere = (TypeExpr.tuple span elements).relocate nowhere) := by
  rw [TypeExpr.lexemes, typeLexemes_eq, List.cons_append, List.append_assoc, List.singleton_append]
  apply first_accepts.bind
  rintro token ⟨same, _⟩
  have kind : token.kind = .punctuator .openBracket := congrArg Lexeme.kind same
  rw [kind]
  apply currentStart_accepts.bind
  intro start _
  apply expect_accepts.bind
  intro _ _
  have items : Accepts (commaList .closeBracket (requiredType nesting))
      (Lexeme.separated .comma (elements.map (·.lexemes keywords)) ++ .mark .closeBracket :: more)
      (.mark .closeBracket :: more)
      (List.map (TypeExpr.relocate nowhere) · = elements.map (TypeExpr.relocate nowhere)) := by
    apply commaList_accepts (by decide)
    · rintro element member mark rest (rfl | rfl)
      · exact requiredType_accepts (takes element member) (kindAt_notMem (by decide) _)
      · exact requiredType_accepts (takes element member) (kindAt_notMem (by decide) _)
    · intro element member rest
      exact (takes element member).1.ne_mark rest rfl
  apply items.bind
  intro values sameValues
  apply expect_accepts.bind
  intro _ _
  apply (spanFrom_accepts start).bind
  intro _ _
  exact .pure (by simp [TypeExpr.relocate, Span.relocate, sameValues])

/-! Arrays. -/

theorem arraySuffixes_accepts_none {start : Nat} {element : TypeExpr} {holds : TypeExpr → Prop}
    (noBracket : kindAt more 0 ≠ .punctuator .openBracket) (satisfied : holds element) :
    Accepts (arraySuffixes nesting start element) more more holds := by
  apply current_accepts.bind
  intro token kind
  exact .ifFalse (by simp [Token.isMark, kind, noBracket]) (.pure satisfied)

theorem arraySuffixes_accepts_more {rules : Rules} {room : Nat} {rest : List Lexeme}
    {holds : TypeExpr → Prop} {start : Nat} {element : TypeExpr}
    (accepts : ∀ span, Accepts (arraySuffixes (.ofRoom rules room) start (.array span element)) rest
      more holds) :
    Accepts (arraySuffixes (.ofRoom rules (room + 1)) start element)
      (.mark .openBracket :: .mark .closeBracket :: rest) more holds := by
  apply first_accepts.bind
  rintro token ⟨same, sameLine⟩
  have kind : token.kind = .punctuator .openBracket := congrArg Lexeme.kind same
  refine .ifTrue (by simp [Token.isMark, kind, sameLine]) ?_
  apply (kindAhead_accepts 1).bindEq
  refine .ifTrue rfl ?_
  apply take_accepts.bind
  intro _ _
  apply take_accepts.bind
  intro _ _
  apply (spanFrom_accepts start).bind
  intro span _
  exact accepts span

/-! Unions and intersections. -/

section ListTypes

variable {mark : Punctuator} {build : Span → List TypeExpr → TypeExpr} {member : Parse TypeExpr}

theorem listType_accepts_single {lexemes : List Lexeme} {holds : TypeExpr → Prop}
    (noStart : kindAt lexemes 0 ≠ .punctuator mark) (noMore : kindAt more 0 ≠ .punctuator mark)
    (accepts : Accepts member lexemes more holds) :
    Accepts (listType mark build member) lexemes more holds := by
  apply currentStart_accepts.bind
  intro start _
  apply (accept_passes noStart).bindEq
  apply accepts.bind
  intro value satisfied
  apply (atMark_accepts mark).bindEq
  exact .ifFalse (by simpa using noMore) (.pure satisfied)

theorem listType_accepts {first second : TypeExpr} {others : List TypeExpr}
    {print : TypeExpr → List Lexeme} {holds : TypeExpr → Prop}
    (noStart : ∀ rest, kindAt (print first ++ rest) 0 ≠ .punctuator mark)
    (noMore : kindAt more 0 ≠ .punctuator mark)
    (each : ∀ type later, type :: later <:+ first :: second :: others →
      Accepts member (print type ++ (later.flatMap (.mark mark :: print ·) ++ more))
        (later.flatMap (.mark mark :: print ·) ++ more)
        (·.relocate nowhere = type.relocate nowhere))
    (builds : ∀ span values, values.map (TypeExpr.relocate nowhere) =
      (first :: second :: others).map (TypeExpr.relocate nowhere) → holds (build span values)) :
    Accepts (listType mark build member)
      (Lexeme.separated mark ((first :: second :: others).map print) ++ more) more holds := by
  simp only [List.map_cons, Lexeme.separated]
  rw [← List.map_cons, List.flatMap_map, List.append_assoc]
  apply currentStart_accepts.bind
  intro start _
  apply (accept_passes (noStart _)).bindEq
  apply (each first (second :: others) (List.suffix_refl _)).bind
  intro value same
  apply (atMark_accepts mark).bindEq
  refine .ifTrue (by simp [Lexeme.mark]) ?_
  have rest := @repeated_accepts TypeExpr TypeExpr more (markTurn mark member)
    (.mark mark :: print ·) (TypeExpr.relocate nowhere) (second :: others) (by simp) ?_ ?_
  · apply rest.bind
    intro values sameValues
    apply (spanFrom_accepts start).bind
    intro span _
    refine .pure (builds span (value :: values) ?_)
    rw [List.map_cons, same, sameValues, ← List.map_cons]
  · apply (accept_passes noMore).bindEq
    exact .pure rfl
  · intro type later suffix
    rw [List.cons_append]
    apply accept_accepts.bindEq
    refine (each type later (suffix.trans (List.suffix_cons _ _))).map ?_
    intro item sameItem
    exact ⟨item, rfl, sameItem⟩

end ListTypes

end Parse

end TypedScript
