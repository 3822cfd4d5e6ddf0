import TypedScript.Tree.Encoding
import TypedScript.Tree.Stored

/-!
The stored tree as a JSON value. A node shows the kind that it holds, and nothing else tells of what
sort it is.
-/

namespace TypedScript

def NodeData.json (data : NodeData) (parts : List (String × JsonValue)) : JsonValue :=
  .node data.kind data.span parts

namespace Stored

def Identifier.json (name : Identifier) : JsonValue :=
  name.data.json [("text", .string name.text)]

def Literal.json (constant : Literal) : JsonValue :=
  constant.data.json [("value", constant.value.json)]

def ModuleName.json (name : ModuleName) : JsonValue :=
  name.data.json [("value", .string name.value)]

def FunctionBody.json (body : FunctionBody) : JsonValue :=
  body.data.json [("token_count", .number body.tokenCount)]

def PropertyKey.json : PropertyKey → JsonValue
  | .identifier name => name.json
  | .literal constant => constant.json

mutual

def TypeExpr.json : TypeExpr → JsonValue
  | .named data name arguments =>
      data.json [("name", name.json), ("type_arguments", jsonTypes? arguments)]
  | .primitive data keyword => data.json [("keyword", .string keyword.name)]
  | .literal data constant => data.json [("literal", constant.json)]
  | .union data members => data.json [("types", .array (jsonTypes members))]
  | .intersection data members => data.json [("types", .array (jsonTypes members))]
  | .array data element => data.json [("element", element.json)]
  | .parenthesized data inner => data.json [("inner", inner.json)]
  | .object data members => data.json [("members", .array (jsonMembers members))]
  | .tuple data elements => data.json [("elements", .array (jsonTypes elements))]
  | .function data typeParameters parameters result =>
      data.json [
        ("type_parameters", .array (jsonTypeParameters typeParameters)),
        ("parameters", .array (jsonParameters parameters)), ("return_type", result.json)]

def TypeMember.json : TypeMember → JsonValue
  | .property data name optional declaredType =>
      data.json [
        ("name", name.json), ("optional", .boolean optional),
        ("type_annotation", jsonType? declaredType)]
  | .method data name optional typeParameters parameters result =>
      data.json [
        ("name", name.json), ("optional", .boolean optional),
        ("type_parameters", .array (jsonTypeParameters typeParameters)),
        ("parameters", .array (jsonParameters parameters)), ("return_type", jsonType? result)]

def TypeParameter.json : TypeParameter → JsonValue
  | ⟨data, name, constraint, fallback⟩ =>
      data.json [
        ("name", name.json), ("constraint", jsonType? constraint), ("default", jsonType? fallback)]

def Parameter.json : Parameter → JsonValue
  | ⟨data, isRest, name, optional, declaredType, initializer⟩ =>
      data.json [
        ("rest", .boolean isRest), ("name", name.json), ("optional", .boolean optional),
        ("type_annotation", jsonType? declaredType), ("initializer", jsonExpression? initializer)]

def Expression.json : Expression → JsonValue
  | .identifier name => name.json
  | .literal constant => constant.json
  | .call data callee typeArguments arguments =>
      data.json [
        ("callee", callee.json), ("type_arguments", jsonTypes? typeArguments),
        ("arguments", .array (jsonExpressions arguments))]
  | .new data callee typeArguments arguments =>
      data.json [
        ("callee", callee.json), ("type_arguments", jsonTypes? typeArguments),
        ("arguments", jsonExpressions? arguments)]
  | .binary data left operator right =>
      data.json [("left", left.json), ("operator", .string operator.name), ("right", right.json)]
  | .unary data operator operand =>
      data.json [("operator", .string operator.name), ("operand", operand.json)]
  | .conditional data condition whenTrue whenFalse =>
      data.json [
        ("condition", condition.json), ("when_true", whenTrue.json),
        ("when_false", whenFalse.json)]
  | .property data base name optional =>
      data.json [("object", base.json), ("name", name.json), ("optional", .boolean optional)]
  | .element data base index => data.json [("object", base.json), ("index", index.json)]
  | .instantiation data expression typeArguments =>
      data.json [
        ("expression", expression.json), ("type_arguments", .array (jsonTypes typeArguments))]
  | .object data properties => data.json [("properties", .array (jsonProperties properties))]
  | .array data elements => data.json [("elements", .array (jsonExpressions elements))]
  | .parenthesized data inner => data.json [("expression", inner.json)]
  | .arrow data parameters result body =>
      data.json [
        ("parameters", .array (jsonParameters parameters)), ("return_type", jsonType? result),
        ("body", body.json)]

def ArrowBody.json : ArrowBody → JsonValue
  | .block body => body.json
  | .expression value => value.json

def ObjectProperty.json : ObjectProperty → JsonValue
  | .assignment data key value => data.json [("key", key.json), ("value", value.json)]
  | .shorthand data name => data.json [("name", name.json)]

def jsonTypes : List TypeExpr → List JsonValue
  | [] => []
  | first :: rest => first.json :: jsonTypes rest

def jsonMembers : List TypeMember → List JsonValue
  | [] => []
  | first :: rest => first.json :: jsonMembers rest

def jsonTypeParameters : List TypeParameter → List JsonValue
  | [] => []
  | first :: rest => first.json :: jsonTypeParameters rest

def jsonParameters : List Parameter → List JsonValue
  | [] => []
  | first :: rest => first.json :: jsonParameters rest

def jsonExpressions : List Expression → List JsonValue
  | [] => []
  | first :: rest => first.json :: jsonExpressions rest

def jsonProperties : List ObjectProperty → List JsonValue
  | [] => []
  | first :: rest => first.json :: jsonProperties rest

def jsonType? : Option TypeExpr → JsonValue
  | none => .null
  | some value => value.json

def jsonTypes? : Option (List TypeExpr) → JsonValue
  | none => .null
  | some value => .array (jsonTypes value)

def jsonExpression? : Option Expression → JsonValue
  | none => .null
  | some value => value.json

def jsonExpressions? : Option (List Expression) → JsonValue
  | none => .null
  | some value => .array (jsonExpressions value)

end

def Specifier.json (specifier : Specifier) : JsonValue :=
  specifier.data.json [
    ("property_name", .ofOption Identifier.json specifier.propertyName),
    ("name", specifier.name.json)]

def Statement.json : Statement → JsonValue
  | .importing declaration =>
      declaration.data.json [
        ("default_binding", .ofOption Identifier.json declaration.defaultBinding),
        ("namespace_binding", .ofOption Identifier.json declaration.namespaceBinding),
        ("named_bindings", .ofList Specifier.json declaration.namedBindings),
        ("source", declaration.source.json)]
  | .exporting data declaration =>
      data.json [("clause", .object [("Declaration", declaration.json)])]
  | .exportingNames data specifiers source =>
      data.json [("clause", .object [("Named", .object [
        ("specifiers", .ofList Specifier.json specifiers),
        ("source", .ofOption ModuleName.json source)])])]
  | .exportingDefault data value => data.json [("clause", .object [("Default", value.json)])]
  | .interface declaration =>
      declaration.data.json [
        ("name", declaration.name.json),
        ("type_parameters", .ofList TypeParameter.json declaration.typeParameters),
        ("extends", .ofList TypeExpr.json declaration.extended),
        ("members", .ofList TypeMember.json declaration.members)]
  | .typeAlias declaration =>
      declaration.data.json [
        ("name", declaration.name.json),
        ("type_parameters", .ofList TypeParameter.json declaration.typeParameters),
        ("type_expr", declaration.aliased.json)]
  | .function declaration =>
      declaration.data.json [
        ("name", declaration.name.json),
        ("type_parameters", .ofList TypeParameter.json declaration.typeParameters),
        ("parameters", .ofList Parameter.json declaration.parameters),
        ("return_type", .ofOption TypeExpr.json declaration.result),
        ("body", .ofOption FunctionBody.json declaration.body)]
  | .binding declaration =>
      declaration.data.json [
        ("declaration_kind", .string declaration.kind.name),
        ("name", declaration.name.json),
        ("type_annotation", .ofOption TypeExpr.json declaration.declaredType),
        ("initializer", .ofOption Expression.json declaration.initializer)]
  | .expression data value => data.json [("expression", value.json)]
  | .returning data value => data.json [("expression", .ofOption Expression.json value)]
  | .empty data => data.json []

def Program.json (program : Program) : JsonValue :=
  program.data.json [("statements", .ofList Statement.json program.statements)]

end Stored

end TypedScript
