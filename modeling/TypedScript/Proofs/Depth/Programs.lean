import TypedScript.Parser.Entry
import TypedScript.Proofs.Depth.Expressions
import TypedScript.Proofs.Reading.Programs

/-!
How deep whole trees are. Main statement: the depth of a tree is bounded by the nesting limit alone,
however long the text, and grows at most with the square of the limit. The limit itself is no bound:
it counts the levels that are open at one time, and a chain of accesses gives its levels back before
an operator takes them again.
-/

namespace TypedScript

open Node

attribute [local grind =] Node.children Statement.children

attribute [local grind .] within_identifier within_moduleName within_functionBody

namespace Parse

variable {nesting : Nesting} {types expressions room bound : Nat}

/-! Imports and exports of names. -/

theorem within_importSpecifier (specifier : Specifier) :
    Keeps .importSpecifier bound specifier := by
  refine within_plain rfl fun child member => ?_
  grind

theorem within_exportSpecifier (specifier : Specifier) :
    Keeps .exportSpecifier bound specifier := by
  refine within_plain rfl fun child member => ?_
  grind

theorem importDeclaration_keeps : Yields importDeclaration (Keeps .statement bound) := by
  apply Yields.andThen
  intro start
  apply Yields.andThen
  intro word
  apply Yields.andThen
  intro clause
  apply Yields.andThen
  intro source
  apply Yields.andThen
  intro ended
  apply Yields.andThen
  intro span
  apply Yields.pure
  refine within_plain rfl fun child member => ?_
  grind [within_importSpecifier]

theorem exportedNames_keeps {start : Nat} :
    Yields (exportedNames start) (Keeps .statement bound) := by
  apply Yields.andThen
  intro specifiers
  apply Yields.andThen
  intro source
  apply Yields.andThen
  intro ended
  apply Yields.andThen
  intro span
  apply Yields.pure
  refine within_plain rfl fun child member => ?_
  grind [within_exportSpecifier]

/-! Declarations. -/

theorem extendedTypes_keeps (bounded : nesting.Bounded types expressions room) :
    Yields (extendedTypes nesting) fun extended =>
      ∀ type ∈ extended, Keeps .type (types + 1) type := by
  apply Yields.andThen
  intro found
  split
  · exact .repeated ((typeReference_keeps bounded).bind fun _ => Yields.commaTurn)
  · exact .pure (by simp)

theorem interfaceDeclaration_keeps (bounded : nesting.Bounded types expressions room)
    (le : types + 1 ≤ bound) :
    Yields (interfaceDeclaration nesting) (Keeps .statement bound) := by
  apply Yields.andThen
  intro start
  apply Yields.andThen
  intro word
  apply Yields.andThen
  intro name
  apply (typeParameters_keeps bounded).bind
  intro typeParameters typeParametersKeep
  apply (extendedTypes_keeps bounded).bind
  intro extended extendedKeep
  apply (typeMembers_keeps bounded).bind
  intro members membersKeep
  apply Yields.andThen
  intro span
  apply Yields.pure
  have within : Keeps .statement (types + 1)
      (.interface ⟨span, name, typeParameters, extended, members⟩) := by
    refine within_plain rfl fun child member => ?_
    have typeParametersWithin : ∀ parameter ∈ typeParameters,
        Keeps .typeParameter (types + 1) parameter :=
      fun parameter found => (typeParametersKeep parameter found).mono (Nat.le_succ types)
    have membersWithin : ∀ typeMember ∈ members, Keeps .typeMember (types + 1) typeMember :=
      fun typeMember found => (membersKeep typeMember found).mono (Nat.le_succ types)
    grind
  exact within.mono le

theorem typeAlias_keeps (bounded : nesting.Bounded types expressions room) :
    Yields (typeAlias nesting) (Keeps .statement types) := by
  apply Yields.andThen
  intro start
  apply Yields.andThen
  intro word
  apply Yields.andThen
  intro name
  apply (typeParameters_keeps bounded).bind
  intro typeParameters typeParametersKeep
  apply Yields.andThen
  intro equals
  apply bounded.type.bind
  intro aliased aliasedKeeps
  apply Yields.andThen
  intro ended
  apply Yields.andThen
  intro span
  apply Yields.pure
  refine within_plain rfl fun child member => ?_
  grind

theorem functionDeclaration_keeps (bounded : nesting.Bounded types expressions room) :
    Yields (functionDeclaration nesting) (Keeps .statement expressions) := by
  have le := bounded.types_le
  apply Yields.andThen
  intro start
  apply Yields.andThen
  intro word
  apply Yields.andThen
  intro name
  apply (typeParameters_keeps bounded).bind
  intro typeParameters typeParametersKeep
  apply (parameters_keeps bounded true le fun _ => Nat.le_refl expressions).bind
  intro parameters parametersKeep
  apply (declaredType?_keeps bounded).bind
  intro result resultKeeps
  apply Yields.andThen
  intro body
  apply Yields.andThen
  intro span
  apply Yields.pure
  refine within_plain rfl fun child member => ?_
  have typeParametersWithin : ∀ parameter ∈ typeParameters,
      Keeps .typeParameter expressions parameter :=
    fun parameter found => (typeParametersKeep parameter found).mono le
  have resultWithin : ∀ type ∈ result, Keeps .type expressions type :=
    fun type found => (resultKeeps type found).mono le
  grind

theorem variableValue?_keeps (bounded : nesting.Bounded types expressions room)
    {kind : VariableKind} :
    Yields (variableValue? nesting kind) fun found =>
      ∀ value ∈ found, Keeps .expression expressions value := by
  apply Yields.andThen
  intro found
  split
  · exact bounded.expression.present
  · split
    · exact .unexpected
    · exact .absent

theorem variableDeclaration_keeps (bounded : nesting.Bounded types expressions room)
    {kind : VariableKind} :
    Yields (variableDeclaration nesting kind) (Keeps .statement expressions) := by
  apply Yields.andThen
  intro start
  apply Yields.andThen
  intro word
  apply Yields.andThen
  intro name
  apply (declaredType?_keeps bounded).bind
  intro declaredType typeKeeps
  apply (variableValue?_keeps bounded).bind
  intro initializer initializerKeeps
  apply Yields.andThen
  intro ended
  apply Yields.andThen
  intro span
  apply Yields.pure
  refine within_plain rfl fun child member => ?_
  have typeWithin : ∀ type ∈ declaredType, Keeps .type expressions type :=
    fun type found => (typeKeeps type found).mono bounded.types_le
  grind

theorem declaration?_keeps (bounded : nesting.Bounded types expressions room)
    (le : types + 1 ≤ expressions) :
    Yields (declaration? nesting) fun found =>
      ∀ statement ∈ found, Keeps .statement expressions statement := by
  apply Yields.andThen
  intro token
  split
  · exact (interfaceDeclaration_keeps bounded le).present
  · refine ((typeAlias_keeps bounded).imp fun statement keeps => ?_).present
    exact keeps.mono bounded.types_le
  · exact (functionDeclaration_keeps bounded).present
  · exact (variableDeclaration_keeps bounded).present
  · apply Yields.andThen
    intro isLet
    split
    · exact (variableDeclaration_keeps bounded).present
    · exact .absent
  · exact .absent

/-! All statements. -/

theorem exportDeclaration_keeps (bounded : nesting.Bounded types expressions room)
    (le : types + 1 ≤ expressions) :
    Yields (exportDeclaration nesting) (Keeps .statement expressions) := by
  apply Yields.andThen
  intro start
  apply Yields.andThen
  intro word
  apply Yields.andThen
  intro hasNames
  split
  · exact exportedNames_keeps
  · apply Yields.andThen
    intro isDefault
    split
    · apply bounded.expression.bind
      intro value keeps
      apply Yields.andThen
      intro ended
      apply Yields.andThen
      intro span
      apply Yields.pure
      refine within_plain rfl fun child member => ?_
      grind
    · apply (declaration?_keeps bounded le).bind
      intro found keeps
      split
      · next declaration =>
          have declarationKeeps := keeps declaration rfl
          apply Yields.andThen
          intro span
          apply Yields.pure
          refine within_plain rfl fun child member => ?_
          grind
      · exact .unexpected

theorem returnStatement_keeps (bounded : nesting.Bounded types expressions room) :
    Yields (returnStatement nesting) (Keeps .statement expressions) := by
  have returned : Yields (returned? nesting) fun found =>
      ∀ value ∈ found, Keeps .expression expressions value := by
    apply Yields.andThen
    intro ended
    split
    · exact .absent
    · exact bounded.expression.present
  apply Yields.andThen
  intro start
  apply Yields.andThen
  intro word
  apply returned.bind
  intro value keeps
  apply Yields.andThen
  intro ended
  apply Yields.andThen
  intro span
  apply Yields.pure
  refine within_plain rfl fun child member => ?_
  grind

theorem emptyStatement_keeps : Yields emptyStatement (Keeps .statement bound) := by
  apply Yields.andThen
  intro start
  apply Yields.andThen
  intro semicolon
  apply Yields.andThen
  intro span
  exact .pure (within_leaf rfl rfl)

theorem expressionStatement_keeps (bounded : nesting.Bounded types expressions room) :
    Yields (expressionStatement nesting) (Keeps .statement expressions) := by
  apply Yields.andThen
  intro token
  split
  · apply bounded.expression.bind
    intro value keeps
    apply Yields.andThen
    intro ended
    apply Yields.andThen
    intro span
    apply Yields.pure
    refine within_plain rfl fun child member => ?_
    grind
  · exact .unexpected

theorem statement_keeps (bounded : nesting.Bounded types expressions room)
    (le : types + 1 ≤ expressions) :
    Yields (statement nesting) (Keeps .statement expressions) := by
  apply Yields.andThen
  intro token
  split
  · exact importDeclaration_keeps
  · exact exportDeclaration_keeps bounded le
  · exact returnStatement_keeps bounded
  · exact emptyStatement_keeps
  · apply (declaration?_keeps bounded le).bind
    intro found keeps
    split
    · next declaration => exact .pure (keeps declaration rfl)
    · exact expressionStatement_keeps bounded

theorem statements_keeps (bounded : nesting.Bounded types expressions room)
    (le : types + 1 ≤ expressions) :
    Yields (statements nesting) fun list =>
      ∀ statement ∈ list, Keeps .statement expressions statement := by
  apply Yields.repeated
  apply Yields.andThen
  intro token
  split
  · exact .pure trivial
  · exact (statement_keeps bounded le).map fun _ keeps => keeps

/-! Whole texts. -/

theorem run_keeps {α : Type} {options : ParseOptions} {source : String}
    {parser : Nesting → Parse α} {holds : α → Prop} {value : α}
    (parsed : run options source parser = .ok value)
    (yields : Yields (parser (.outermost (.ofLimit options.nestingLimit))) holds) :
    holds value := by
  rcases run_eq_ok parsed with ⟨_, read⟩
  exact yields.of_ok read

theorem whole_keeps {α : Type} {parser : Parse α} {holds : α → Prop}
    (yields : Yields parser holds) :
    Yields (do let value ← parser; endOfInput; return value) holds := by
  apply yields.bind
  intro value satisfied
  apply Yields.andThen
  intro ended
  exact .pure satisfied

end Parse

theorem typeBound_lt {room : Nat} (positive : 1 ≤ room) :
    typeBound room + 1 ≤ expressionBound room := by
  obtain ⟨less, rfl⟩ := Nat.exists_eq_add_of_le' positive
  have le := typeBound_le less
  simp only [typeBound, expressionBound]
  omega

section Entries

variable {options : ParseOptions} {source : String}

theorem outermost_bounded (options : ParseOptions) :
    (Nesting.outermost (.ofLimit options.nestingLimit)).Bounded
      (typeBound options.nestingLimit) (expressionBound options.nestingLimit)
      options.nestingLimit :=
  Nesting.ofRoom_bounded _ _

theorem parseProgram_within {program : Program} (positive : 1 ≤ options.nestingLimit)
    (parsed : parseProgram options source = .ok program) :
    (Node.program program).Within (expressionBound options.nestingLimit) := by
  rcases parseProgram_iff.mp parsed with ⟨list, after, read, rfl⟩
  have keep :=
    (Parse.statements_keeps (outermost_bounded options) (typeBound_lt positive)).of_ok read
  refine within_plain rfl fun child member => ?_
  grind

theorem parseType_within {type : TypeExpr} (parsed : parseType options source = .ok type) :
    (Node.type type).Within (typeBound options.nestingLimit) := by
  have keeps := Parse.run_keeps parsed (Parse.whole_keeps (outermost_bounded options).type)
  exact keeps

theorem parseExpression_within {value : Expression}
    (parsed : parseExpression options source = .ok value) :
    (Node.expression value).Within (expressionBound options.nestingLimit) := by
  have keeps := Parse.run_keeps parsed (Parse.whole_keeps (outermost_bounded options).expression)
  exact keeps

end Entries

/-- A tree is no deeper than the nesting limit allows, however long the text. -/
theorem depth_bounded_by_limit (options : ParseOptions) (source : String)
    (positive : 1 ≤ options.nestingLimit) :
    let limit := options.nestingLimit
    (∀ program, parseProgram options source = .ok program →
      (Node.program program).Within (limit * (3 * limit + 5) / 2)) ∧
    (∀ type, parseType options source = .ok type →
      (Node.type type).Within (limit * (limit + 5) / 2)) ∧
    ∀ value, parseExpression options source = .ok value →
      (Node.expression value).Within (limit * (3 * limit + 5) / 2) := by
  intro limit
  have types : limit * (limit + 5) / 2 = typeBound limit := by
    rw [← typeBound_eq, Nat.mul_div_cancel_left _ (by decide)]
  have expressions : limit * (3 * limit + 5) / 2 = expressionBound limit := by
    rw [← expressionBound_eq, Nat.mul_div_cancel_left _ (by decide)]
  rw [types, expressions]
  exact ⟨fun _ => parseProgram_within positive, fun _ => parseType_within,
    fun _ => parseExpression_within⟩

theorem depth_bounded_by_limit_sum :
    1 ≤ 2 ∧
      (∃ program, parseProgram ⟨2, .full⟩ "let x: A | B = a.b + c" = .ok program ∧
        (Node.program program).Within 11) ∧
      (∃ type, parseType ⟨2, .full⟩ "A & B | C[]" = .ok type ∧ (Node.type type).Within 7) ∧
      ∃ value, parseExpression ⟨2, .full⟩ "a.b + c" = .ok value ∧
        (Node.expression value).Within 11 := by
  have positive : 1 ≤ 2 := by decide
  have programAccepted : (parseProgram ⟨2, .full⟩ "let x: A | B = a.b + c").isOk = true := by
    decide +kernel
  have typeAccepted : (parseType ⟨2, .full⟩ "A & B | C[]").isOk = true := by decide +kernel
  have valueAccepted : (parseExpression ⟨2, .full⟩ "a.b + c").isOk = true := by decide +kernel
  rcases exists_of_isOk programAccepted with ⟨program, programParsed⟩
  rcases exists_of_isOk typeAccepted with ⟨type, typeParsed⟩
  rcases exists_of_isOk valueAccepted with ⟨value, valueParsed⟩
  exact ⟨positive,
    ⟨program, programParsed, (depth_bounded_by_limit ⟨2, .full⟩ _ positive).1 _ programParsed⟩,
    ⟨type, typeParsed, (depth_bounded_by_limit ⟨2, .full⟩ _ positive).2.1 _ typeParsed⟩,
    ⟨value, valueParsed, (depth_bounded_by_limit ⟨2, .full⟩ _ positive).2.2 _ valueParsed⟩⟩

/-- Two levels are enough for an access inside a sum, which is a tree of depth three. -/
theorem access_in_sum_exceeds_limit :
    ∃ value path, parseExpression ⟨2, .full⟩ "a.b + c" = .ok value ∧
      (Node.expression value).Path path ∧ path.countP counts = 3 := by
  have accepted : (match parseExpression ⟨2, .full⟩ "a.b + c" with
      | .ok (.binary _ (.property _ (.identifier _) _ _) _ _) => true
      | _ => false) = true := by decide +kernel
  split at accepted
  · next span accessSpan name property optional mark right parsed =>
      let access : Expression := .property accessSpan (.identifier name) property optional
      let sum : Expression := .binary span access mark right
      refine ⟨sum, [.expression sum, .expression access, .expression (.identifier name)], parsed,
        ?_, rfl⟩
      have leaf : (Node.expression (.identifier name)).Path [.expression (.identifier name)] :=
        .leaf rfl
      have accessPath : (Node.expression access).Path
          [.expression access, .expression (.identifier name)] :=
        .step (List.mem_cons_self ..) leaf
      exact .step (List.mem_cons_self ..) accessPath
  · cases accepted

/-! One square covers types and expressions alike. -/

theorem expressionBound_le_square (limit : Nat) :
    expressionBound limit ≤ 2 * limit * (limit + 2) := by
  have doubled : 2 * expressionBound limit ≤ 2 * (2 * limit * (limit + 2)) := calc
    2 * expressionBound limit = limit * (3 * limit + 5) := expressionBound_eq limit
    _ ≤ limit * (4 * (limit + 2)) := Nat.mul_le_mul_left limit (by omega)
    _ = 2 * (2 * limit * (limit + 2)) := by grind
  exact Nat.le_of_mul_le_mul_left doubled (by decide)

theorem typeBound_le_square (limit : Nat) : typeBound limit ≤ 2 * limit * (limit + 2) :=
  (typeBound_le limit).trans (expressionBound_le_square limit)

/-- No path down a tree has more than `2 * limit * (limit + 2)` types and expressions on it,
whichever way the text was read and however long it is. -/
theorem path_at_most_square (options : ParseOptions) (source : String)
    (positive : 1 ≤ options.nestingLimit) :
    let limit := options.nestingLimit
    (∀ program path, parseProgram options source = .ok program →
      (Node.program program).Path path → path.countP counts ≤ 2 * limit * (limit + 2)) ∧
    (∀ type path, parseType options source = .ok type →
      (Node.type type).Path path → path.countP counts ≤ 2 * limit * (limit + 2)) ∧
    ∀ value path, parseExpression options source = .ok value →
      (Node.expression value).Path path → path.countP counts ≤ 2 * limit * (limit + 2) := by
  intro limit
  refine ⟨?_, ?_, ?_⟩
  · intro program path parsed down
    exact (parseProgram_within positive parsed path down).trans
      (expressionBound_le_square limit)
  · intro type path parsed down
    exact (parseType_within parsed path down).trans (typeBound_le_square limit)
  · intro value path parsed down
    exact (parseExpression_within parsed path down).trans (expressionBound_le_square limit)

theorem path_at_most_square_choice :
    1 ≤ 2 ∧ ∃ value path, parseExpression ⟨2, .full⟩ "a.b ? c : d" = .ok value ∧
      (Node.expression value).Path path ∧ path.length = 3 ∧ path.countP counts ≤ 16 := by
  have positive : 1 ≤ 2 := by decide
  have accepted : (match parseExpression ⟨2, .full⟩ "a.b ? c : d" with
      | .ok (.conditional _ (.property _ (.identifier _) _ _) _ _) => true
      | _ => false) = true := by decide +kernel
  split at accepted
  · next span accessSpan name property optional whenTrue whenFalse parsed =>
      let access : Expression := .property accessSpan (.identifier name) property optional
      let choice : Expression := .conditional span access whenTrue whenFalse
      have leaf : (Node.expression (.identifier name)).Path [.expression (.identifier name)] :=
        .leaf rfl
      have accessPath : (Node.expression access).Path
          [.expression access, .expression (.identifier name)] :=
        .step (List.mem_cons_self ..) leaf
      have down : (Node.expression choice).Path
          [.expression choice, .expression access, .expression (.identifier name)] :=
        .step (List.mem_cons_self ..) accessPath
      exact ⟨positive, choice, _, parsed, down, rfl,
        (path_at_most_square ⟨2, .full⟩ "a.b ? c : d" positive).2.2 choice _ parsed down⟩
  · cases accepted

end TypedScript
