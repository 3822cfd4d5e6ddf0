import TypedScript.Json.Basic
import TypedScript.Tree.Basic

/-!
The tree as a JSON value. Every node is an object with its kind, its range and its parts.
-/

namespace TypedScript

namespace JsonValue

def ofSpan (span : Span) : JsonValue :=
  .object [("pos", .number span.start), ("end", .number span.stop)]

def node (kind : Kind) (span : Span) (parts : List (String × JsonValue)) : JsonValue :=
  .object (("kind", .string kind.name) :: ("range", ofSpan span) :: parts)

end JsonValue

def Identifier.json (name : Identifier) : JsonValue :=
  .node (.token .identifier) name.span [("text", .string name.text)]

def LiteralValue.json : LiteralValue → JsonValue
  | .string value => .object [("String", .string value)]
  | .number digits => .object [("Number", .string digits)]
  | .boolean value => .object [("Boolean", .boolean value)]
  | .null => .string "Null"

def Literal.json (literal : Literal) : JsonValue :=
  .node literal.value.kind literal.span [("value", literal.value.json)]

def ModuleName.json (name : ModuleName) : JsonValue :=
  .node (.token .stringLiteral) name.span [("value", .string name.value)]

def FunctionBody.json (body : FunctionBody) : JsonValue :=
  .node (.node .functionBody) body.span [("token_count", .number body.tokenCount)]

def PropertyKey.json : PropertyKey → JsonValue
  | .identifier name => name.json
  | .literal constant => constant.json

mutual

def TypeExpr.json : TypeExpr → JsonValue
  | .named span name arguments =>
      .node (.node .typeReference) span [
        ("name", name.json),
        ("type_arguments",
          match arguments with
          | none => .null
          | some types => .array (types.map fun type => type.json))]
  | .primitive span keyword =>
      .node (.node .keywordType) span [("keyword", .string keyword.name)]
  | .literal span constant => .node (.node .literalType) span [("literal", constant.json)]
  | .union span members =>
      .node (.node .unionType) span [("types", .array (members.map fun member => member.json))]
  | .intersection span members =>
      .node (.node .intersectionType) span
        [("types", .array (members.map fun member => member.json))]
  | .array span element => .node (.node .arrayType) span [("element", element.json)]
  | .parenthesized span inner => .node (.node .parenthesizedType) span [("inner", inner.json)]
  | .object span members =>
      .node (.node .typeLiteral) span [("members", .array (members.map fun member => member.json))]
  | .tuple span elements =>
      .node (.node .tupleType) span
        [("elements", .array (elements.map fun element => element.json))]
  | .function span typeParameters parameters result =>
      .node (.node .functionType) span [
        ("type_parameters", .array (typeParameters.map fun parameter => parameter.json)),
        ("parameters", .array (parameters.map fun parameter => parameter.json)),
        ("return_type", result.json)]
decreasing_by
  all_goals simp only [TypeExpr.named.sizeOf_spec, TypeExpr.union.sizeOf_spec,
    TypeExpr.intersection.sizeOf_spec, TypeExpr.array.sizeOf_spec,
    TypeExpr.parenthesized.sizeOf_spec, TypeExpr.object.sizeOf_spec, TypeExpr.tuple.sizeOf_spec,
    TypeExpr.function.sizeOf_spec, Option.some.sizeOf_spec]
  all_goals first
    | omega
    | have := List.sizeOf_lt_of_mem ‹_›
      omega

def TypeMember.json : TypeMember → JsonValue
  | .property span name optional declaredType =>
      .node (.node .propertySignature) span [
        ("name", name.json),
        ("optional", .boolean optional),
        ("type_annotation",
          match declaredType with
          | none => .null
          | some type => type.json)]
  | .method span name optional typeParameters parameters result =>
      .node (.node .methodSignature) span [
        ("name", name.json),
        ("optional", .boolean optional),
        ("type_parameters", .array (typeParameters.map fun parameter => parameter.json)),
        ("parameters", .array (parameters.map fun parameter => parameter.json)),
        ("return_type",
          match result with
          | none => .null
          | some type => type.json)]
decreasing_by
  all_goals simp only [TypeMember.property.sizeOf_spec, TypeMember.method.sizeOf_spec,
    Option.some.sizeOf_spec]
  all_goals first
    | omega
    | have := List.sizeOf_lt_of_mem ‹_›
      omega

def TypeParameter.json : TypeParameter → JsonValue
  | ⟨span, name, constraint, fallback⟩ =>
      .node (.node .typeParameter) span [
        ("name", name.json),
        ("constraint",
          match constraint with
          | none => .null
          | some type => type.json),
        ("default",
          match fallback with
          | none => .null
          | some type => type.json)]

def Parameter.json : Parameter → JsonValue
  | ⟨span, isRest, name, optional, declaredType, initializer⟩ =>
      .node (.node .parameter) span [
        ("rest", .boolean isRest),
        ("name", name.json),
        ("optional", .boolean optional),
        ("type_annotation",
          match declaredType with
          | none => .null
          | some type => type.json),
        ("initializer",
          match initializer with
          | none => .null
          | some value => value.json)]

def Expression.json : Expression → JsonValue
  | .identifier name => name.json
  | .literal constant => constant.json
  | .call span callee typeArguments arguments =>
      .node (.node .callExpression) span [
        ("callee", callee.json),
        ("type_arguments",
          match typeArguments with
          | none => .null
          | some types => .array (types.map fun type => type.json)),
        ("arguments", .array (arguments.map fun argument => argument.json))]
  | .new span callee typeArguments arguments =>
      .node (.node .newExpression) span [
        ("callee", callee.json),
        ("type_arguments",
          match typeArguments with
          | none => .null
          | some types => .array (types.map fun type => type.json)),
        ("arguments",
          match arguments with
          | none => .null
          | some values => .array (values.map fun value => value.json))]
  | .binary span left operator right =>
      .node (.node .binaryExpression) span [
        ("left", left.json), ("operator", .string operator.name), ("right", right.json)]
  | .unary span operator operand =>
      .node (.node .prefixUnaryExpression) span [
        ("operator", .string operator.name), ("operand", operand.json)]
  | .conditional span condition whenTrue whenFalse =>
      .node (.node .conditionalExpression) span [
        ("condition", condition.json), ("when_true", whenTrue.json),
        ("when_false", whenFalse.json)]
  | .property span base name optional =>
      .node (.node .propertyAccessExpression) span [
        ("object", base.json), ("name", name.json), ("optional", .boolean optional)]
  | .element span base index =>
      .node (.node .elementAccessExpression) span [("object", base.json), ("index", index.json)]
  | .instantiation span base typeArguments =>
      .node (.node .instantiationExpression) span [
        ("expression", base.json),
        ("type_arguments", .array (typeArguments.map fun type => type.json))]
  | .object span properties =>
      .node (.node .objectLiteralExpression) span
        [("properties", .array (properties.map fun property => property.json))]
  | .array span elements =>
      .node (.node .arrayLiteralExpression) span
        [("elements", .array (elements.map fun element => element.json))]
  | .parenthesized span inner =>
      .node (.node .parenthesizedExpression) span [("expression", inner.json)]
  | .arrow span parameters result body =>
      .node (.node .arrowFunction) span [
        ("parameters", .array (parameters.map fun parameter => parameter.json)),
        ("return_type",
          match result with
          | none => .null
          | some type => type.json),
        ("body", body.json)]
decreasing_by
  all_goals simp only [Expression.call.sizeOf_spec, Expression.new.sizeOf_spec,
    Expression.binary.sizeOf_spec, Expression.unary.sizeOf_spec, Expression.conditional.sizeOf_spec,
    Expression.property.sizeOf_spec, Expression.element.sizeOf_spec,
    Expression.instantiation.sizeOf_spec, Expression.object.sizeOf_spec,
    Expression.array.sizeOf_spec, Expression.parenthesized.sizeOf_spec,
    Expression.arrow.sizeOf_spec, Option.some.sizeOf_spec]
  all_goals first
    | omega
    | have := List.sizeOf_lt_of_mem ‹_›
      omega

def ArrowBody.json : ArrowBody → JsonValue
  | .block body => body.json
  | .expression value => value.json

def ObjectProperty.json : ObjectProperty → JsonValue
  | .assignment span key value =>
      .node (.node .propertyAssignment) span [("key", key.json), ("value", value.json)]
  | .shorthand span name =>
      .node (.node .shorthandPropertyAssignment) span [("name", name.json)]

end

def Specifier.json (kind : NodeKind) (specifier : Specifier) : JsonValue :=
  .node (.node kind) specifier.span [
    ("property_name", .ofOption Identifier.json specifier.propertyName),
    ("name", specifier.name.json)]

def JsonValue.exporting (span : Span) (clause : String) (content : JsonValue) : JsonValue :=
  .node (.node .exportDeclaration) span [("clause", .object [(clause, content)])]

def Statement.json : Statement → JsonValue
  | .importing declaration =>
      .node (.node .importDeclaration) declaration.span [
        ("default_binding", .ofOption Identifier.json declaration.defaultBinding),
        ("namespace_binding", .ofOption Identifier.json declaration.namespaceBinding),
        ("named_bindings", .ofList (Specifier.json .importSpecifier) declaration.namedBindings),
        ("source", declaration.source.json)]
  | .exporting span declaration => .exporting span "Declaration" declaration.json
  | .exportingNames span specifiers source =>
      .exporting span "Named" (.object [
        ("specifiers", .ofList (Specifier.json .exportSpecifier) specifiers),
        ("source", .ofOption ModuleName.json source)])
  | .exportingDefault span value => .exporting span "Default" value.json
  | .interface declaration =>
      .node (.node .interfaceDeclaration) declaration.span [
        ("name", declaration.name.json),
        ("type_parameters", .ofList TypeParameter.json declaration.typeParameters),
        ("extends", .ofList TypeExpr.json declaration.extended),
        ("members", .ofList TypeMember.json declaration.members)]
  | .typeAlias declaration =>
      .node (.node .typeAliasDeclaration) declaration.span [
        ("name", declaration.name.json),
        ("type_parameters", .ofList TypeParameter.json declaration.typeParameters),
        ("type_expr", declaration.aliased.json)]
  | .function declaration =>
      .node (.node .functionDeclaration) declaration.span [
        ("name", declaration.name.json),
        ("type_parameters", .ofList TypeParameter.json declaration.typeParameters),
        ("parameters", .ofList Parameter.json declaration.parameters),
        ("return_type", .ofOption TypeExpr.json declaration.result),
        ("body", .ofOption FunctionBody.json declaration.body)]
  | .binding declaration =>
      .node (.node .variableDeclaration) declaration.span [
        ("declaration_kind", .string declaration.kind.name),
        ("name", declaration.name.json),
        ("type_annotation", .ofOption TypeExpr.json declaration.declaredType),
        ("initializer", .ofOption Expression.json declaration.initializer)]
  | .expression span value =>
      .node (.node .expressionStatement) span [("expression", value.json)]
  | .returning span value =>
      .node (.node .returnStatement) span [("expression", .ofOption Expression.json value)]
  | .empty span => .node (.node .emptyStatement) span []

def Program.json (program : Program) : JsonValue :=
  .node (.node .program) program.span
    [("statements", .ofList Statement.json program.statements)]

end TypedScript
