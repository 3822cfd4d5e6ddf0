import TypedScript.Parser.Entry
import TypedScript.Proofs.Depth.Programs
import TypedScript.Proofs.Shape.Expressions

/-!
The shape of whole trees. Main statements: in every tree that reading a text gives, types are in
canonical shape, and expressions are grouped by how tightly operators bind.
-/

namespace TypedScript

open Node

attribute [local grind =] Node.children Statement.children

attribute [local grind .] shaped_identifier shaped_moduleName shaped_functionBody

namespace Parse

variable {nesting : Nesting}

/-! Imports and exports of names. -/

theorem shaped_importSpecifier (specifier : Specifier) : Shaped .importSpecifier specifier := by
  refine shaped_plain rfl fun child member => ?_
  grind

theorem shaped_exportSpecifier (specifier : Specifier) : Shaped .exportSpecifier specifier := by
  refine shaped_plain rfl fun child member => ?_
  grind

theorem importDeclaration_shaped : Yields importDeclaration (Shaped .statement) := by
  apply Yields.andThen
  intro start
  apply Yields.andThen
  intro word
  apply Yields.andThen
  intro clause
  apply Yields.andThen
  intro source
  apply Yields.andThen
  intro ended
  apply Yields.andThen
  intro span
  apply Yields.pure
  refine shaped_plain rfl fun child member => ?_
  grind [shaped_importSpecifier]

theorem exportedNames_shaped {start : Nat} : Yields (exportedNames start) (Shaped .statement) := by
  apply Yields.andThen
  intro specifiers
  apply Yields.andThen
  intro source
  apply Yields.andThen
  intro ended
  apply Yields.andThen
  intro span
  apply Yields.pure
  refine shaped_plain rfl fun child member => ?_
  grind [shaped_exportSpecifier]

/-! Declarations. -/

theorem extendedTypes_shaped (shaping : nesting.Shaping) :
    Yields (extendedTypes nesting) fun extended => ∀ type ∈ extended, Shaped .type type := by
  apply Yields.andThen
  intro found
  split
  · have references : Yields (typeReference nesting) (Shaped .type) :=
      (typeReference_shaped shaping).imp fun _ => ShapedElement.shaped
    exact .repeated (references.bind fun _ => Yields.commaTurn)
  · exact .pure (by simp)

theorem interfaceDeclaration_shaped (shaping : nesting.Shaping) :
    Yields (interfaceDeclaration nesting) (Shaped .statement) := by
  apply Yields.andThen
  intro start
  apply Yields.andThen
  intro word
  apply Yields.andThen
  intro name
  apply (typeParameters_shaped shaping).bind
  intro typeParameters typeParametersShaped
  apply (extendedTypes_shaped shaping).bind
  intro extended extendedShaped
  apply (typeMembers_shaped shaping).bind
  intro members membersShaped
  apply Yields.andThen
  intro span
  apply Yields.pure
  refine shaped_plain rfl fun child member => ?_
  grind

theorem typeAlias_shaped (shaping : nesting.Shaping) :
    Yields (typeAlias nesting) (Shaped .statement) := by
  apply Yields.andThen
  intro start
  apply Yields.andThen
  intro word
  apply Yields.andThen
  intro name
  apply (typeParameters_shaped shaping).bind
  intro typeParameters typeParametersShaped
  apply Yields.andThen
  intro equals
  apply shaping.type.bind
  intro aliased aliasedShaped
  apply Yields.andThen
  intro ended
  apply Yields.andThen
  intro span
  apply Yields.pure
  refine shaped_plain rfl fun child member => ?_
  grind

theorem functionDeclaration_shaped (shaping : nesting.Shaping) :
    Yields (functionDeclaration nesting) (Shaped .statement) := by
  apply Yields.andThen
  intro start
  apply Yields.andThen
  intro word
  apply Yields.andThen
  intro name
  apply (typeParameters_shaped shaping).bind
  intro typeParameters typeParametersShaped
  apply (parameters_shaped shaping true).bind
  intro parameters parametersShaped
  apply (declaredType?_shaped shaping).bind
  intro result resultShaped
  apply Yields.andThen
  intro body
  apply Yields.andThen
  intro span
  apply Yields.pure
  refine shaped_plain rfl fun child member => ?_
  grind

theorem variableDeclaration_shaped (shaping : nesting.Shaping) {kind : VariableKind} :
    Yields (variableDeclaration nesting kind) (Shaped .statement) := by
  have initializers : Yields (variableValue? nesting kind) fun found =>
      ∀ value ∈ found, Shaped .expression value := by
    apply Yields.andThen
    intro found
    split
    · exact shaping.expression.present
    · split
      · exact .unexpected
      · exact .absent
  apply Yields.andThen
  intro start
  apply Yields.andThen
  intro word
  apply Yields.andThen
  intro name
  apply (declaredType?_shaped shaping).bind
  intro declaredType typeShaped
  apply initializers.bind
  intro initializer initializerShaped
  apply Yields.andThen
  intro ended
  apply Yields.andThen
  intro span
  apply Yields.pure
  refine shaped_plain rfl fun child member => ?_
  grind

theorem declaration?_shaped (shaping : nesting.Shaping) :
    Yields (declaration? nesting) fun found =>
      ∀ statement ∈ found, Shaped .statement statement := by
  apply Yields.andThen
  intro token
  split
  · exact (interfaceDeclaration_shaped shaping).present
  · exact (typeAlias_shaped shaping).present
  · exact (functionDeclaration_shaped shaping).present
  · exact (variableDeclaration_shaped shaping).present
  · apply Yields.andThen
    intro isLet
    split
    · exact (variableDeclaration_shaped shaping).present
    · exact .absent
  · exact .absent

/-! All statements. -/

theorem exportDeclaration_shaped (shaping : nesting.Shaping) :
    Yields (exportDeclaration nesting) (Shaped .statement) := by
  apply Yields.andThen
  intro start
  apply Yields.andThen
  intro word
  apply Yields.andThen
  intro hasNames
  split
  · exact exportedNames_shaped
  · apply Yields.andThen
    intro isDefault
    split
    · apply shaping.expression.bind
      intro value shaped
      apply Yields.andThen
      intro ended
      apply Yields.andThen
      intro span
      apply Yields.pure
      refine shaped_plain rfl fun child member => ?_
      grind
    · apply (declaration?_shaped shaping).bind
      intro found shaped
      split
      · next declaration =>
          have declarationShaped := shaped declaration rfl
          apply Yields.andThen
          intro span
          apply Yields.pure
          refine shaped_plain rfl fun child member => ?_
          grind
      · exact .unexpected

theorem returnStatement_shaped (shaping : nesting.Shaping) :
    Yields (returnStatement nesting) (Shaped .statement) := by
  have returned : Yields (returned? nesting) fun found =>
      ∀ value ∈ found, Shaped .expression value := by
    apply Yields.andThen
    intro ended
    split
    · exact .absent
    · exact shaping.expression.present
  apply Yields.andThen
  intro start
  apply Yields.andThen
  intro word
  apply returned.bind
  intro value shaped
  apply Yields.andThen
  intro ended
  apply Yields.andThen
  intro span
  apply Yields.pure
  refine shaped_plain rfl fun child member => ?_
  grind

theorem emptyStatement_shaped : Yields emptyStatement (Shaped .statement) := by
  apply Yields.andThen
  intro start
  apply Yields.andThen
  intro semicolon
  apply Yields.andThen
  intro span
  exact .pure (shaped_leaf rfl rfl)

theorem expressionStatement_shaped (shaping : nesting.Shaping) :
    Yields (expressionStatement nesting) (Shaped .statement) := by
  apply Yields.andThen
  intro token
  split
  · apply shaping.expression.bind
    intro value shaped
    apply Yields.andThen
    intro ended
    apply Yields.andThen
    intro span
    apply Yields.pure
    refine shaped_plain rfl fun child member => ?_
    grind
  · exact .unexpected

theorem statement_shaped (shaping : nesting.Shaping) :
    Yields (statement nesting) (Shaped .statement) := by
  apply Yields.andThen
  intro token
  split
  · exact importDeclaration_shaped
  · exact exportDeclaration_shaped shaping
  · exact returnStatement_shaped shaping
  · exact emptyStatement_shaped
  · apply (declaration?_shaped shaping).bind
    intro found shaped
    split
    · next declaration => exact .pure (shaped declaration rfl)
    · exact expressionStatement_shaped shaping

theorem statements_shaped (shaping : nesting.Shaping) :
    Yields (statements nesting) fun list =>
      ∀ statement ∈ list, Shaped .statement statement := by
  apply Yields.repeated
  apply Yields.andThen
  intro token
  split
  · exact .pure trivial
  · exact (statement_shaped shaping).map fun _ shaped => shaped

end Parse

/-! Whole texts. -/

def Fragment.node : Fragment → Node
  | .type content => .type content
  | .expression content => .expression content

/-- A property of all nodes in every tree that can be read from a text, as a whole or in parts. -/
structure InAllTrees (options : ParseOptions) (source : String) (holds : Node → Prop) : Prop where
  program {program : Program} : parseProgram options source = .ok program →
    (Node.program program).Everywhere holds
  type {type : TypeExpr} : parseType options source = .ok type → (Node.type type).Everywhere holds
  expression {value : Expression} : parseExpression options source = .ok value →
    (Node.expression value).Everywhere holds
  fragment {kinds : List Fragment.Kind} {fragment : Fragment} :
    .ok fragment ∈ parseFragments options source kinds → fragment.node.Everywhere holds

theorem InAllTrees.imp {options : ParseOptions} {source : String} {holds weaker : Node → Prop}
    (inTrees : InAllTrees options source holds) (implies : ∀ node, holds node → weaker node) :
    InAllTrees options source weaker where
  program parsed below member := implies below (inTrees.program parsed below member)
  type parsed below member := implies below (inTrees.type parsed below member)
  expression parsed below member := implies below (inTrees.expression parsed below member)
  fragment parsed below member := implies below (inTrees.fragment parsed below member)

section Entries

variable {options : ParseOptions} {source : String}

theorem parseProgram_shaped {program : Program}
    (parsed : parseProgram options source = .ok program) : Shaped .program program := by
  rcases parseProgram_iff.mp parsed with ⟨list, after, read, rfl⟩
  have shaped := (Parse.statements_shaped (Nesting.ofRoom_shaping _ _)).of_ok read
  refine shaped_plain rfl fun child member => ?_
  grind

theorem Fragment.parser_shaped {nesting : Nesting} (shaping : nesting.Shaping) (kind : Kind) :
    Yields (parser nesting kind) fun fragment => fragment.node.Everywhere WellShaped := by
  cases kind with
  | type => exact shaping.type.map fun _ shaped => shaped
  | expression => exact shaping.expression.map fun _ shaped => shaped

theorem Fragment.parseFrom_shaped {nesting : Nesting} (shaping : nesting.Shaping)
    {kinds : List Kind} {cursor : Cursor} {fragment : Fragment}
    (member : .ok fragment ∈ parseFrom nesting cursor kinds) :
    fragment.node.Everywhere WellShaped := by
  induction kinds generalizing cursor with
  | nil => cases member
  | cons kind kinds induction =>
      rw [parseFrom] at member
      split at member
      · next read =>
          rcases List.mem_cons.mp member with same | later
          · cases same
            exact (parser_shaped shaping kind).of_ok read
          · exact induction later
      · rcases List.mem_cons.mp member with same | later
        · cases same
        · exact induction later

theorem trees_shaped (options : ParseOptions) (source : String) :
    InAllTrees options source WellShaped where
  program := parseProgram_shaped
  type parsed := by
    have shaped := Parse.run_keeps parsed (Parse.whole_keeps (Nesting.ofRoom_shaping _ _).type)
    exact shaped
  expression parsed := by
    have shaped := Parse.run_keeps parsed
      (Parse.whole_keeps (Nesting.ofRoom_shaping _ _).expression)
    exact shaped
  fragment member := Fragment.parseFrom_shaped (Nesting.ofRoom_shaping _ _) member

end Entries

/-- Every type of every tree is in canonical shape, and no list of type arguments is empty. -/
theorem types_canonical (options : ParseOptions) (source : String) :
    (∀ program, parseProgram options source = .ok program →
      (Node.program program).Everywhere Node.Canonical) ∧
    (∀ type, parseType options source = .ok type → (Node.type type).Everywhere Node.Canonical) ∧
    (∀ value, parseExpression options source = .ok value →
      (Node.expression value).Everywhere Node.Canonical) ∧
    ∀ kinds fragment, .ok fragment ∈ parseFragments options source kinds →
      fragment.node.Everywhere Node.Canonical := by
  have trees := (trees_shaped options source).imp fun _ => WellShaped.canonical
  exact ⟨fun _ => trees.program, fun _ => trees.type, fun _ => trees.expression,
    fun _ _ => trees.fragment⟩

theorem types_canonical_lists :
    (∃ program, parseProgram .default "let f: A<B>[] | () => C = g<D>(e);" = .ok program ∧
      (Node.program program).Everywhere Node.Canonical) ∧
    (∃ type, parseType .default "| A & B[] | C & () => D | E" = .ok type ∧
      (Node.type type).Everywhere Node.Canonical) ∧
    (∃ value, parseExpression .default "(a: A & () => B | C): D => new E<F>" = .ok value ∧
      (Node.expression value).Everywhere Node.Canonical) ∧
    ∃ fragment, .ok fragment ∈ parseFragments .default "A | B & C ]" [.type, .type] ∧
      fragment.node.Everywhere Node.Canonical := by
  have programAccepted :
      (parseProgram .default "let f: A<B>[] | () => C = g<D>(e);").isOk = true := by
    decide +kernel
  have typeAccepted : (parseType .default "| A & B[] | C & () => D | E").isOk = true := by
    decide +kernel
  have valueAccepted :
      (parseExpression .default "(a: A & () => B | C): D => new E<F>").isOk = true := by
    decide +kernel
  have fragmentAccepted :
      (parseFragments .default "A | B & C ]" [.type, .type]).any Except.isOk = true := by
    decide +kernel
  rcases exists_of_isOk programAccepted with ⟨program, programParsed⟩
  rcases exists_of_isOk typeAccepted with ⟨type, typeParsed⟩
  rcases exists_of_isOk valueAccepted with ⟨value, valueParsed⟩
  rcases List.any_eq_true.mp fragmentAccepted with ⟨result, member, isOk⟩
  rcases exists_of_isOk isOk with ⟨fragment, rfl⟩
  exact ⟨⟨program, programParsed, (types_canonical _ _).1 program programParsed⟩,
    ⟨type, typeParsed, (types_canonical _ _).2.1 type typeParsed⟩,
    ⟨value, valueParsed, (types_canonical _ _).2.2.1 value valueParsed⟩,
    ⟨fragment, member, (types_canonical _ _).2.2.2 _ fragment member⟩⟩

/-- Every expression of every tree is grouped by how tightly its operators bind. -/
theorem expressions_grouped (options : ParseOptions) (source : String) :
    (∀ program, parseProgram options source = .ok program →
      (Node.program program).Everywhere Node.Grouped) ∧
    (∀ type, parseType options source = .ok type → (Node.type type).Everywhere Node.Grouped) ∧
    (∀ value, parseExpression options source = .ok value →
      (Node.expression value).Everywhere Node.Grouped) ∧
    ∀ kinds fragment, .ok fragment ∈ parseFragments options source kinds →
      fragment.node.Everywhere Node.Grouped := by
  have trees := (trees_shaped options source).imp fun _ => WellShaped.grouped
  exact ⟨fun _ => trees.program, fun _ => trees.type, fun _ => trees.expression,
    fun _ _ => trees.fragment⟩

theorem expressions_grouped_operators :
    (∃ program, parseProgram .default "a = b * -c + d >= e ? f : g;" = .ok program ∧
      (Node.program program).Everywhere Node.Grouped) ∧
    (∃ type, parseType .default "(A | B)[]" = .ok type ∧
      (Node.type type).Everywhere Node.Grouped) ∧
    (∃ value, parseExpression .default "a < b - c - (d = e)[f](g) || new h.i<J>(k)" = .ok value ∧
      (Node.expression value).Everywhere Node.Grouped) ∧
    ∃ fragment, .ok fragment ∈
        parseFragments .default "a + b * c d" [.expression, .expression] ∧
      fragment.node.Everywhere Node.Grouped := by
  have programAccepted : (parseProgram .default "a = b * -c + d >= e ? f : g;").isOk = true := by
    decide +kernel
  have typeAccepted : (parseType .default "(A | B)[]").isOk = true := by decide +kernel
  have valueAccepted :
      (parseExpression .default "a < b - c - (d = e)[f](g) || new h.i<J>(k)").isOk = true := by
    decide +kernel
  have fragmentAccepted : (parseFragments .default "a + b * c d"
      [.expression, .expression]).any Except.isOk = true := by decide +kernel
  rcases exists_of_isOk programAccepted with ⟨program, programParsed⟩
  rcases exists_of_isOk typeAccepted with ⟨type, typeParsed⟩
  rcases exists_of_isOk valueAccepted with ⟨value, valueParsed⟩
  rcases List.any_eq_true.mp fragmentAccepted with ⟨result, member, isOk⟩
  rcases exists_of_isOk isOk with ⟨fragment, rfl⟩
  exact ⟨⟨program, programParsed, (expressions_grouped _ _).1 program programParsed⟩,
    ⟨type, typeParsed, (expressions_grouped _ _).2.1 type typeParsed⟩,
    ⟨value, valueParsed, (expressions_grouped _ _).2.2.1 value valueParsed⟩,
    ⟨fragment, member, (expressions_grouped _ _).2.2.2 _ fragment member⟩⟩

end TypedScript
