import TypedScript.Proofs.Encoding.Basic
import TypedScript.Tree.Node

/-!
What can be read off the JSON form of a tree. No variant of a node is written down, but its kind
is, and the kind tells the variant; absent parts are null and no part that is present is. Main
statement: readers of two programs see the same only if the programs are the same, ranges
included.
-/

namespace TypedScript

open JsonValue

/-! The parts of a node besides its kind and its range. -/

def TypeExpr.parts : TypeExpr → List (String × JsonValue)
  | .named _ name arguments =>
      [("name", name.json), ("type_arguments", ofOption (ofList TypeExpr.json) arguments)]
  | .primitive _ keyword => [("keyword", .string keyword.name)]
  | .literal _ constant => [("literal", constant.json)]
  | .union _ members | .intersection _ members => [("types", ofList TypeExpr.json members)]
  | .array _ element => [("element", element.json)]
  | .parenthesized _ inner => [("inner", inner.json)]
  | .object _ members => [("members", ofList TypeMember.json members)]
  | .tuple _ elements => [("elements", ofList TypeExpr.json elements)]
  | .function _ typeParameters parameters result =>
      [("type_parameters", ofList TypeParameter.json typeParameters),
        ("parameters", ofList Parameter.json parameters), ("return_type", result.json)]

def TypeMember.parts : TypeMember → List (String × JsonValue)
  | .property _ name optional declaredType =>
      [("name", name.json), ("optional", .boolean optional),
        ("type_annotation", ofOption TypeExpr.json declaredType)]
  | .method _ name optional typeParameters parameters result =>
      [("name", name.json), ("optional", .boolean optional),
        ("type_parameters", ofList TypeParameter.json typeParameters),
        ("parameters", ofList Parameter.json parameters),
        ("return_type", ofOption TypeExpr.json result)]

def TypeParameter.parts (parameter : TypeParameter) : List (String × JsonValue) :=
  [("name", parameter.name.json), ("constraint", ofOption TypeExpr.json parameter.constraint),
    ("default", ofOption TypeExpr.json parameter.fallback)]

def Parameter.parts (parameter : Parameter) : List (String × JsonValue) :=
  [("rest", .boolean parameter.isRest), ("name", parameter.name.json),
    ("optional", .boolean parameter.optional),
    ("type_annotation", ofOption TypeExpr.json parameter.declaredType),
    ("initializer", ofOption Expression.json parameter.initializer)]

def Expression.parts : Expression → List (String × JsonValue)
  | .identifier name => [("text", .string name.text)]
  | .literal constant => [("value", constant.value.json)]
  | .call _ callee typeArguments arguments =>
      [("callee", callee.json), ("type_arguments", ofOption (ofList TypeExpr.json) typeArguments),
        ("arguments", ofList Expression.json arguments)]
  | .new _ callee typeArguments arguments =>
      [("callee", callee.json), ("type_arguments", ofOption (ofList TypeExpr.json) typeArguments),
        ("arguments", ofOption (ofList Expression.json) arguments)]
  | .binary _ left operator right =>
      [("left", left.json), ("operator", .string operator.name), ("right", right.json)]
  | .unary _ operator operand =>
      [("operator", .string operator.name), ("operand", operand.json)]
  | .conditional _ condition whenTrue whenFalse =>
      [("condition", condition.json), ("when_true", whenTrue.json),
        ("when_false", whenFalse.json)]
  | .property _ base name optional =>
      [("object", base.json), ("name", name.json), ("optional", .boolean optional)]
  | .element _ base index => [("object", base.json), ("index", index.json)]
  | .instantiation _ base typeArguments =>
      [("expression", base.json), ("type_arguments", ofList TypeExpr.json typeArguments)]
  | .object _ properties => [("properties", ofList ObjectProperty.json properties)]
  | .array _ elements => [("elements", ofList Expression.json elements)]
  | .parenthesized _ inner => [("expression", inner.json)]
  | .arrow _ parameters result body =>
      [("parameters", ofList Parameter.json parameters),
        ("return_type", ofOption TypeExpr.json result), ("body", body.json)]

def ObjectProperty.parts : ObjectProperty → List (String × JsonValue)
  | .assignment _ key value => [("key", key.json), ("value", value.json)]
  | .shorthand _ name => [("name", name.json)]

theorem TypeExpr.json_eq (type : TypeExpr) :
    type.json = .node (.node type.kind) type.span type.parts := by
  cases type with
  | named span name arguments =>
      cases arguments <;> simp [json, kind, TypeExpr.span, parts, ofOption, ofList]
  | _ => simp [json, kind, TypeExpr.span, parts, ofList]

theorem TypeMember.json_eq (member : TypeMember) :
    member.json = .node (.node member.kind) member.span member.parts := by
  cases member with
  | property span name optional declaredType =>
      cases declaredType <;> simp [json, kind, TypeMember.span, parts, ofOption]
  | method span name optional typeParameters parameters result =>
      cases result <;> simp [json, kind, TypeMember.span, parts, ofOption, ofList]

theorem TypeParameter.json_eq (parameter : TypeParameter) :
    parameter.json = .node (.node .typeParameter) parameter.span parameter.parts := by
  rcases parameter with ⟨span, name, constraint, fallback⟩
  cases constraint <;> cases fallback <;> simp [json, parts, ofOption]

theorem Parameter.json_eq (parameter : Parameter) :
    parameter.json = .node (.node .parameter) parameter.span parameter.parts := by
  rcases parameter with ⟨span, isRest, name, optional, declaredType, initializer⟩
  cases declaredType <;> cases initializer <;> simp [json, parts, ofOption]

theorem Expression.json_eq (expression : Expression) :
    expression.json = .node expression.kind expression.span expression.parts := by
  cases expression with
  | identifier name => simp [json, Identifier.json, kind, Expression.span, parts]
  | literal constant => simp [json, Literal.json, kind, Expression.span, parts]
  | call span callee typeArguments arguments =>
      cases typeArguments <;> simp [json, kind, Expression.span, parts, ofOption, ofList]
  | new span callee typeArguments arguments =>
      cases typeArguments <;> cases arguments <;>
        simp [json, kind, Expression.span, parts, ofOption, ofList]
  | arrow span parameters result body =>
      cases result <;> simp [json, kind, Expression.span, parts, ofOption, ofList]
  | _ => simp [json, kind, Expression.span, parts, ofList]

theorem ObjectProperty.json_eq (property : ObjectProperty) :
    property.json = .node (.node property.kind) property.span property.parts := by
  cases property <;> simp [json, kind, ObjectProperty.span, parts]

def Statement.parts : Statement → List (String × JsonValue)
  | .importing declaration =>
      [("default_binding", ofOption Identifier.json declaration.defaultBinding),
        ("namespace_binding", ofOption Identifier.json declaration.namespaceBinding),
        ("named_bindings", ofList (Specifier.json .importSpecifier) declaration.namedBindings),
        ("source", declaration.source.json)]
  | .exporting _ declaration => [("clause", .object [("Declaration", declaration.json)])]
  | .exportingNames _ specifiers source =>
      [("clause", .object [("Named", .object [
        ("specifiers", ofList (Specifier.json .exportSpecifier) specifiers),
        ("source", ofOption ModuleName.json source)])])]
  | .exportingDefault _ value => [("clause", .object [("Default", value.json)])]
  | .interface declaration =>
      [("name", declaration.name.json),
        ("type_parameters", ofList TypeParameter.json declaration.typeParameters),
        ("extends", ofList TypeExpr.json declaration.extended),
        ("members", ofList TypeMember.json declaration.members)]
  | .typeAlias declaration =>
      [("name", declaration.name.json),
        ("type_parameters", ofList TypeParameter.json declaration.typeParameters),
        ("type_expr", declaration.aliased.json)]
  | .function declaration =>
      [("name", declaration.name.json),
        ("type_parameters", ofList TypeParameter.json declaration.typeParameters),
        ("parameters", ofList Parameter.json declaration.parameters),
        ("return_type", ofOption TypeExpr.json declaration.result),
        ("body", ofOption FunctionBody.json declaration.body)]
  | .binding declaration =>
      [("declaration_kind", .string declaration.kind.name), ("name", declaration.name.json),
        ("type_annotation", ofOption TypeExpr.json declaration.declaredType),
        ("initializer", ofOption Expression.json declaration.initializer)]
  | .expression _ value => [("expression", value.json)]
  | .returning _ value => [("expression", ofOption Expression.json value)]
  | .empty _ => []

theorem Statement.json_eq (statement : Statement) :
    statement.json = .node (.node statement.kind) statement.span statement.parts := by
  cases statement <;> rfl

/-! A node is determined if the nodes below it are. One statement for each kind of node. -/

def Node.IsDetermined : Node → Prop
  | .program content => Determined Program.json content
  | .statement content => Determined Statement.json content
  | .type content => Determined TypeExpr.json content
  | .expression content => Determined Expression.json content
  | .identifier content => Determined Identifier.json content
  | .literal content => Determined Literal.json content
  | .moduleName content => Determined ModuleName.json content
  | .importSpecifier content => Determined (Specifier.json .importSpecifier) content
  | .exportSpecifier content => Determined (Specifier.json .exportSpecifier) content
  | .typeMember content => Determined TypeMember.json content
  | .typeParameter content => Determined TypeParameter.json content
  | .parameter content => Determined Parameter.json content
  | .functionBody content => Determined FunctionBody.json content
  | .objectProperty content => Determined ObjectProperty.json content
  | .propertyKey content => Determined PropertyKey.json content

theorem TypeExpr.visible (type : TypeExpr) : type.json.face ≠ .null := by
  rw [json_eq]
  simp [JsonValue.node, face]

theorem Expression.visible (expression : Expression) : expression.json.face ≠ .null := by
  rw [json_eq]
  simp [JsonValue.node, face]

theorem Determined.optionList {encode : α → JsonValue} {values : Option (List α)}
    (each : ∀ value ∈ values.getD [], Determined encode value) :
    Determined (ofOption (ofList encode)) values := by
  refine Determined.option (fun _ => by simp [ofList, face]) fun list member => ?_
  obtain rfl : values = some list := Option.mem_toList.mp member
  exact Determined.list each

theorem TypeExpr.determined {type : TypeExpr}
    (below : ∀ child ∈ type.children, child.IsDetermined) : Determined TypeExpr.json type := by
  intro other same
  rw [json_eq, json_eq] at same
  have kinds := Kind.node.inj same.node.1
  cases type with
  | named span name arguments =>
      cases other with
      | named =>
          simp only [children, List.forall_mem_append, List.forall_mem_map] at below
          obtain ⟨⟨⟩, names, types, _⟩ := same.opened rfl (by simp [parts])
          rw [name.determined _ names, Determined.optionList below.2 _ types]
      | _ => cases kinds
  | primitive span keyword =>
      cases other with
      | primitive =>
          obtain ⟨⟨⟩, keywords, _⟩ := same.opened rfl (by simp [parts])
          rw [Primitive.eq_of_name keywords.string]
      | _ => cases kinds
  | literal span constant =>
      cases other with
      | literal =>
          obtain ⟨⟨⟩, constants, _⟩ := same.opened rfl (by simp [parts])
          rw [constant.determined _ constants]
      | _ => cases kinds
  | union span members =>
      cases other with
      | union =>
          simp only [children, List.forall_mem_map] at below
          obtain ⟨⟨⟩, types, _⟩ := same.opened rfl (by simp [parts])
          rw [Determined.list below _ types]
      | _ => cases kinds
  | intersection span members =>
      cases other with
      | intersection =>
          simp only [children, List.forall_mem_map] at below
          obtain ⟨⟨⟩, types, _⟩ := same.opened rfl (by simp [parts])
          rw [Determined.list below _ types]
      | _ => cases kinds
  | array span element =>
      cases other with
      | array =>
          simp only [children, List.forall_mem_singleton] at below
          obtain ⟨⟨⟩, elements, _⟩ := same.opened rfl (by simp [parts])
          rw [below _ elements]
      | _ => cases kinds
  | parenthesized span inner =>
      cases other with
      | parenthesized =>
          simp only [children, List.forall_mem_singleton] at below
          obtain ⟨⟨⟩, inners, _⟩ := same.opened rfl (by simp [parts])
          rw [below _ inners]
      | _ => cases kinds
  | object span members =>
      cases other with
      | object =>
          simp only [children, List.forall_mem_map] at below
          obtain ⟨⟨⟩, members, _⟩ := same.opened rfl (by simp [parts])
          rw [Determined.list below _ members]
      | _ => cases kinds
  | tuple span elements =>
      cases other with
      | tuple =>
          simp only [children, List.forall_mem_map] at below
          obtain ⟨⟨⟩, elements, _⟩ := same.opened rfl (by simp [parts])
          rw [Determined.list below _ elements]
      | _ => cases kinds
  | function span typeParameters parameters result =>
      cases other with
      | function =>
          simp only [children, List.forall_mem_append, List.forall_mem_map,
            List.forall_mem_singleton] at below
          obtain ⟨⟨⟩, typeParameters, parameters, results, _⟩ := same.opened rfl (by simp [parts])
          rw [Determined.list below.1.1 _ typeParameters, Determined.list below.1.2 _ parameters,
            below.2 _ results]
      | _ => cases kinds

theorem TypeMember.determined {member : TypeMember}
    (below : ∀ child ∈ member.children, child.IsDetermined) :
    Determined TypeMember.json member := by
  intro other same
  rw [json_eq, json_eq] at same
  have kinds := Kind.node.inj same.node.1
  cases member with
  | property span name optional declaredType =>
      cases other with
      | property =>
          simp only [children, List.forall_mem_append, List.forall_mem_map] at below
          obtain ⟨⟨⟩, names, optionals, types, _⟩ := same.opened rfl (by simp [parts])
          rw [name.determined _ names, optionals.boolean,
            Determined.option TypeExpr.visible below.2 _ types]
      | _ => cases kinds
  | method span name optional typeParameters parameters result =>
      cases other with
      | method =>
          simp only [children, List.forall_mem_append, List.forall_mem_map] at below
          obtain ⟨⟨⟩, names, optionals, typeParameters, parameters, results, _⟩ :=
            same.opened rfl (by simp [parts])
          rw [name.determined _ names, optionals.boolean,
            Determined.list below.1.1.2 _ typeParameters, Determined.list below.1.2 _ parameters,
            Determined.option TypeExpr.visible below.2 _ results]
      | _ => cases kinds

theorem TypeParameter.determined {parameter : TypeParameter}
    (below : ∀ child ∈ parameter.children, child.IsDetermined) :
    Determined TypeParameter.json parameter := by
  intro other same
  rw [json_eq, json_eq] at same
  simp only [children, List.forall_mem_append, List.forall_mem_map] at below
  obtain ⟨spans, names, constraints, fallbacks, _⟩ := same.opened rfl (by simp [parts])
  cases parameter
  cases other
  rw [TypeParameter.mk.injEq]
  exact ⟨spans, Identifier.determined _ _ names,
    Determined.option TypeExpr.visible below.1.2 _ constraints,
    Determined.option TypeExpr.visible below.2 _ fallbacks⟩

theorem Parameter.determined {parameter : Parameter}
    (below : ∀ child ∈ parameter.children, child.IsDetermined) :
    Determined Parameter.json parameter := by
  intro other same
  rw [json_eq, json_eq] at same
  simp only [children, List.forall_mem_append, List.forall_mem_map] at below
  obtain ⟨spans, rests, names, optionals, types, initializers, _⟩ :=
    same.opened rfl (by simp [parts])
  cases parameter
  cases other
  rw [Parameter.mk.injEq]
  exact ⟨spans, rests.boolean, Identifier.determined _ _ names, optionals.boolean,
    Determined.option TypeExpr.visible below.1.2 _ types,
    Determined.option Expression.visible below.2 _ initializers⟩

theorem Expression.literal_of_kind {expression : Expression} {constant : Literal}
    (kinds : expression.kind = (Expression.literal constant).kind) :
    ∃ other, expression = .literal other := by
  rcases constant with ⟨_, string | number | ⟨_ | _⟩ | _⟩ <;> cases expression <;>
    first
    | exact ⟨_, rfl⟩
    | cases kinds

theorem Expression.kind_ne_functionBody (expression : Expression) :
    expression.kind ≠ .node .functionBody := by
  intro kinds
  rcases expression with _ | ⟨_, string | number | ⟨_ | _⟩ | _⟩ <;> cases kinds

theorem ArrowBody.determined {body : ArrowBody}
    (below : (match body with
      | .block body => Node.functionBody body
      | .expression value => Node.expression value).IsDetermined) :
    Determined ArrowBody.json body := by
  intro other same
  cases body with
  | block content =>
      cases other with
      | block =>
          rw [json, json] at same
          rw [below _ same]
      | expression value =>
          simp only [json, FunctionBody.json, value.json_eq] at same
          exact absurd same.node.1.symm value.kind_ne_functionBody
  | expression value =>
      cases other with
      | block =>
          simp only [json, FunctionBody.json, value.json_eq] at same
          exact absurd same.node.1 value.kind_ne_functionBody
      | expression =>
          rw [json, json] at same
          rw [below _ same]

theorem Expression.determined {expression : Expression}
    (below : ∀ child ∈ expression.children, child.IsDetermined) :
    Determined Expression.json expression := by
  intro other whole
  have same := whole
  rw [json_eq, json_eq] at same
  have kinds := same.node.1
  cases expression with
  | identifier name =>
      cases other with
      | identifier =>
          rw [json, json] at whole
          rw [name.determined _ whole]
      | literal => exact absurd (literal_of_kind kinds) (by simp)
      | _ => cases kinds
  | literal constant =>
      rcases literal_of_kind kinds.symm with ⟨other, rfl⟩
      rw [json, json] at whole
      rw [constant.determined _ whole]
  | call span callee typeArguments arguments =>
      cases other with
      | call =>
          simp only [children, List.forall_mem_append, List.forall_mem_map,
            List.forall_mem_singleton] at below
          obtain ⟨⟨⟩, callees, types, arguments, _⟩ := same.opened rfl (by simp [parts])
          rw [below.1.1 _ callees, Determined.optionList below.1.2 _ types,
            Determined.list below.2 _ arguments]
      | literal => exact absurd (literal_of_kind kinds) (by simp)
      | _ => cases kinds
  | new span callee typeArguments arguments =>
      cases other with
      | new =>
          simp only [children, List.forall_mem_append, List.forall_mem_map,
            List.forall_mem_singleton] at below
          obtain ⟨⟨⟩, callees, types, arguments, _⟩ := same.opened rfl (by simp [parts])
          rw [below.1.1 _ callees, Determined.optionList below.1.2 _ types,
            Determined.optionList below.2 _ arguments]
      | literal => exact absurd (literal_of_kind kinds) (by simp)
      | _ => cases kinds
  | binary span left operator right =>
      cases other with
      | binary =>
          simp only [children, List.forall_mem_cons] at below
          obtain ⟨⟨⟩, lefts, operators, rights, _⟩ := same.opened rfl (by simp [parts])
          rw [below.1 _ lefts, Punctuator.eq_of_name operators.string, below.2.1 _ rights]
      | literal => exact absurd (literal_of_kind kinds) (by simp)
      | _ => cases kinds
  | unary span operator operand =>
      cases other with
      | unary =>
          simp only [children, List.forall_mem_singleton] at below
          obtain ⟨⟨⟩, operators, operands, _⟩ := same.opened rfl (by simp [parts])
          rw [Punctuator.eq_of_name operators.string, below _ operands]
      | literal => exact absurd (literal_of_kind kinds) (by simp)
      | _ => cases kinds
  | conditional span condition whenTrue whenFalse =>
      cases other with
      | conditional =>
          simp only [children, List.forall_mem_cons] at below
          obtain ⟨⟨⟩, conditions, whenTrues, whenFalses, _⟩ := same.opened rfl (by simp [parts])
          rw [below.1 _ conditions, below.2.1 _ whenTrues, below.2.2.1 _ whenFalses]
      | literal => exact absurd (literal_of_kind kinds) (by simp)
      | _ => cases kinds
  | property span base name optional =>
      cases other with
      | property =>
          simp only [children, List.forall_mem_cons] at below
          obtain ⟨⟨⟩, bases, names, optionals, _⟩ := same.opened rfl (by simp [parts])
          rw [below.1 _ bases, name.determined _ names, optionals.boolean]
      | literal => exact absurd (literal_of_kind kinds) (by simp)
      | _ => cases kinds
  | element span base index =>
      cases other with
      | element =>
          simp only [children, List.forall_mem_cons] at below
          obtain ⟨⟨⟩, bases, indices, _⟩ := same.opened rfl (by simp [parts])
          rw [below.1 _ bases, below.2.1 _ indices]
      | literal => exact absurd (literal_of_kind kinds) (by simp)
      | _ => cases kinds
  | instantiation span base typeArguments =>
      cases other with
      | instantiation =>
          simp only [children, List.forall_mem_append, List.forall_mem_map,
            List.forall_mem_singleton] at below
          obtain ⟨⟨⟩, bases, types, _⟩ := same.opened rfl (by simp [parts])
          rw [below.1 _ bases, Determined.list below.2 _ types]
      | literal => exact absurd (literal_of_kind kinds) (by simp)
      | _ => cases kinds
  | object span properties =>
      cases other with
      | object =>
          simp only [children, List.forall_mem_map] at below
          obtain ⟨⟨⟩, properties, _⟩ := same.opened rfl (by simp [parts])
          rw [Determined.list below _ properties]
      | literal => exact absurd (literal_of_kind kinds) (by simp)
      | _ => cases kinds
  | array span elements =>
      cases other with
      | array =>
          simp only [children, List.forall_mem_map] at below
          obtain ⟨⟨⟩, elements, _⟩ := same.opened rfl (by simp [parts])
          rw [Determined.list below _ elements]
      | literal => exact absurd (literal_of_kind kinds) (by simp)
      | _ => cases kinds
  | parenthesized span inner =>
      cases other with
      | parenthesized =>
          simp only [children, List.forall_mem_singleton] at below
          obtain ⟨⟨⟩, inners, _⟩ := same.opened rfl (by simp [parts])
          rw [below _ inners]
      | literal => exact absurd (literal_of_kind kinds) (by simp)
      | _ => cases kinds
  | arrow span parameters result body =>
      cases other with
      | arrow =>
          simp only [children, List.forall_mem_append, List.forall_mem_map,
            List.forall_mem_singleton] at below
          obtain ⟨⟨⟩, parameters, results, bodies, _⟩ := same.opened rfl (by simp [parts])
          rw [Determined.list below.1.1 _ parameters,
            Determined.option TypeExpr.visible below.1.2 _ results,
            ArrowBody.determined below.2 _ bodies]
      | literal => exact absurd (literal_of_kind kinds) (by simp)
      | _ => cases kinds

theorem PropertyKey.determined (key : PropertyKey) : Determined PropertyKey.json key := by
  intro other same
  cases key with
  | identifier name =>
      cases other with
      | identifier => rw [name.determined _ same]
      | literal constant =>
          have kinds : (Expression.identifier name).kind = (Expression.literal constant).kind :=
            same.node.1
          exact absurd (Expression.literal_of_kind kinds) (by simp)
  | literal constant =>
      cases other with
      | identifier name =>
          have kinds : (Expression.identifier name).kind = (Expression.literal constant).kind :=
            same.node.1.symm
          exact absurd (Expression.literal_of_kind kinds) (by simp)
      | literal => rw [constant.determined _ same]

theorem ObjectProperty.determined {property : ObjectProperty}
    (below : ∀ child ∈ (Node.objectProperty property).children, child.IsDetermined) :
    Determined ObjectProperty.json property := by
  intro other same
  rw [json_eq, json_eq] at same
  have kinds := Kind.node.inj same.node.1
  cases property with
  | assignment span key value =>
      cases other with
      | assignment =>
          simp only [Node.children, List.forall_mem_cons] at below
          obtain ⟨⟨⟩, keys, values, _⟩ := same.opened rfl (by simp [parts])
          rw [key.determined _ keys, below.2.1 _ values]
      | shorthand => cases kinds
  | shorthand span name =>
      cases other with
      | assignment => cases kinds
      | shorthand =>
          obtain ⟨⟨⟩, names, _⟩ := same.opened rfl (by simp [parts])
          rw [name.determined _ names]

theorem Specifier.determined (kind : NodeKind) (specifier : Specifier) :
    Determined (Specifier.json kind) specifier := by
  intro other same
  obtain ⟨spans, propertyNames, names, _⟩ := same.opened rfl (by simp)
  cases specifier
  cases other
  rw [Specifier.mk.injEq]
  exact ⟨spans, Identifier.determined_option _ _ propertyNames, Identifier.determined _ _ names⟩

theorem Statement.determined {statement : Statement}
    (below : ∀ child ∈ statement.children, child.IsDetermined) :
    Determined Statement.json statement := by
  intro other same
  rw [json_eq, json_eq] at same
  have kinds := Kind.node.inj same.node.1
  cases statement with
  | importing declaration =>
      cases other with
      | importing otherDeclaration =>
          obtain ⟨spans, defaults, namespaces, bindings, sources, _⟩ :=
            same.opened rfl (by simp [parts])
          cases declaration
          cases otherDeclaration
          rw [importing.injEq, ImportDeclaration.mk.injEq]
          exact ⟨spans, Identifier.determined_option _ _ defaults,
            Identifier.determined_option _ _ namespaces,
            Determined.list (fun specifier _ => specifier.determined _) _ bindings,
            ModuleName.determined _ _ sources⟩
      | _ => cases kinds
  | exporting span declaration =>
      cases other with
      | exporting =>
          simp only [children, List.forall_mem_singleton] at below
          obtain ⟨⟨⟩, _, contents⟩ := same.exporting
          rw [below _ contents]
      | exportingNames => exact absurd same.exporting.2.1 (by decide)
      | exportingDefault => exact absurd same.exporting.2.1 (by decide)
      | _ => cases kinds
  | exportingNames span specifiers source =>
      cases other with
      | exporting => exact absurd same.exporting.2.1 (by decide)
      | exportingNames =>
          obtain ⟨⟨⟩, _, contents⟩ := same.exporting
          have names := contents.child (.field "specifiers") rfl rfl
          have sources := contents.child (.field "source") rfl rfl
          rw [Determined.list (fun specifier _ => specifier.determined _) _ names,
            ModuleName.determined_option _ _ sources]
      | exportingDefault => exact absurd same.exporting.2.1 (by decide)
      | _ => cases kinds
  | exportingDefault span value =>
      cases other with
      | exporting => exact absurd same.exporting.2.1 (by decide)
      | exportingNames => exact absurd same.exporting.2.1 (by decide)
      | exportingDefault =>
          simp only [children, List.forall_mem_singleton] at below
          obtain ⟨⟨⟩, _, contents⟩ := same.exporting
          rw [below _ contents]
      | _ => cases kinds
  | interface declaration =>
      cases other with
      | interface otherDeclaration =>
          simp only [children, List.forall_mem_append, List.forall_mem_map] at below
          obtain ⟨spans, names, typeParameters, extended, members, _⟩ :=
            same.opened rfl (by simp [parts])
          cases declaration
          cases otherDeclaration
          rw [interface.injEq, InterfaceDeclaration.mk.injEq]
          exact ⟨spans, Identifier.determined _ _ names,
            Determined.list below.1.1.2 _ typeParameters, Determined.list below.1.2 _ extended,
            Determined.list below.2 _ members⟩
      | _ => cases kinds
  | typeAlias declaration =>
      cases other with
      | typeAlias otherDeclaration =>
          simp only [children, List.forall_mem_append, List.forall_mem_map,
            List.forall_mem_singleton] at below
          obtain ⟨spans, names, typeParameters, types, _⟩ := same.opened rfl (by simp [parts])
          cases declaration
          cases otherDeclaration
          rw [typeAlias.injEq, TypeAlias.mk.injEq]
          exact ⟨spans, Identifier.determined _ _ names,
            Determined.list below.1.2 _ typeParameters, below.2 _ types⟩
      | _ => cases kinds
  | function declaration =>
      cases other with
      | function otherDeclaration =>
          simp only [children, List.forall_mem_append, List.forall_mem_map] at below
          obtain ⟨spans, names, typeParameters, parameters, results, bodies, _⟩ :=
            same.opened rfl (by simp [parts])
          cases declaration
          cases otherDeclaration
          rw [function.injEq, FunctionDeclaration.mk.injEq]
          exact ⟨spans, Identifier.determined _ _ names,
            Determined.list below.1.1.1.2 _ typeParameters,
            Determined.list below.1.1.2 _ parameters,
            Determined.option TypeExpr.visible below.1.2 _ results,
            FunctionBody.determined_option _ _ bodies⟩
      | _ => cases kinds
  | binding declaration =>
      cases other with
      | binding otherDeclaration =>
          simp only [children, List.forall_mem_append, List.forall_mem_map] at below
          obtain ⟨spans, keywords, names, types, initializers, _⟩ :=
            same.opened rfl (by simp [parts])
          cases declaration
          cases otherDeclaration
          rw [binding.injEq, VariableDeclaration.mk.injEq]
          exact ⟨spans, VariableKind.eq_of_name keywords.string, Identifier.determined _ _ names,
            Determined.option TypeExpr.visible below.1.2 _ types,
            Determined.option Expression.visible below.2 _ initializers⟩
      | _ => cases kinds
  | expression span value =>
      cases other with
      | expression =>
          simp only [children, List.forall_mem_singleton] at below
          obtain ⟨⟨⟩, values, _⟩ := same.opened rfl (by simp [parts])
          rw [below _ values]
      | _ => cases kinds
  | returning span value =>
      cases other with
      | returning =>
          simp only [children, List.forall_mem_map] at below
          obtain ⟨⟨⟩, values, _⟩ := same.opened rfl (by simp [parts])
          rw [Determined.option Expression.visible below _ values]
      | _ => cases kinds
  | empty span =>
      cases other with
      | empty =>
          obtain ⟨⟨⟩, _⟩ := same.opened rfl (by simp [parts])
          rfl
      | _ => cases kinds

theorem Program.determined {program : Program}
    (below : ∀ child ∈ (Node.program program).children, child.IsDetermined) :
    Determined Program.json program := by
  intro other same
  simp only [Node.children, List.forall_mem_map] at below
  obtain ⟨spans, statements, _⟩ := same.opened rfl (by simp)
  cases program
  cases other
  rw [Program.mk.injEq]
  exact ⟨spans, Determined.list below _ statements⟩

/-! All nodes. -/

theorem Node.isDetermined (node : Node) : node.IsDetermined := by
  induction node using Node.induction with
  | step node below =>
      cases node with
      | program => exact Program.determined below
      | statement => exact Statement.determined below
      | type => exact TypeExpr.determined below
      | expression => exact Expression.determined below
      | identifier name => exact name.determined
      | literal constant => exact constant.determined
      | moduleName name => exact name.determined
      | importSpecifier specifier => exact specifier.determined _
      | exportSpecifier specifier => exact specifier.determined _
      | typeMember => exact TypeMember.determined below
      | typeParameter => exact TypeParameter.determined below
      | parameter => exact Parameter.determined below
      | functionBody body => exact body.determined
      | objectProperty => exact ObjectProperty.determined below
      | propertyKey key => exact key.determined

theorem Program.same_json_iff (left right : Program) :
    Same left.json right.json ↔ left = right := by
  constructor
  · exact (Node.program left).isDetermined right
  · rintro rfl path
    rfl

end TypedScript
