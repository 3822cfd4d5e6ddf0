import TypedScript.Tree.Stored

/-!
The tree of the grammar that a stored tree was built as: the constructors and the ranges, without
the kinds. A stored tree is tagged if every node holds the kind of its constructor, so that it can
be stored again just as it is.
-/

namespace TypedScript.Stored

def Identifier.untagged (name : Identifier) : TypedScript.Identifier :=
  ⟨name.data.span, name.text⟩

def Literal.untagged (constant : Literal) : TypedScript.Literal :=
  ⟨constant.data.span, constant.value⟩

def ModuleName.untagged (name : ModuleName) : TypedScript.ModuleName :=
  ⟨name.data.span, name.value⟩

def FunctionBody.untagged (body : FunctionBody) : TypedScript.FunctionBody :=
  ⟨body.data.span, body.tokenCount⟩

def PropertyKey.untagged : PropertyKey → TypedScript.PropertyKey
  | .identifier name => .identifier name.untagged
  | .literal constant => .literal constant.untagged

mutual

def TypeExpr.untagged : TypeExpr → TypedScript.TypeExpr
  | .named data name arguments => .named data.span name.untagged (untaggedTypes? arguments)
  | .primitive data keyword => .primitive data.span keyword
  | .literal data constant => .literal data.span constant.untagged
  | .union data members => .union data.span (untaggedTypes members)
  | .intersection data members => .intersection data.span (untaggedTypes members)
  | .array data element => .array data.span element.untagged
  | .parenthesized data inner => .parenthesized data.span inner.untagged
  | .object data members => .object data.span (untaggedMembers members)
  | .tuple data elements => .tuple data.span (untaggedTypes elements)
  | .function data typeParameters parameters result =>
      .function data.span (untaggedTypeParameters typeParameters) (untaggedParameters parameters)
        result.untagged

def TypeMember.untagged : TypeMember → TypedScript.TypeMember
  | .property data name optional declaredType =>
      .property data.span name.untagged optional (untaggedType? declaredType)
  | .method data name optional typeParameters parameters result =>
      .method data.span name.untagged optional (untaggedTypeParameters typeParameters)
        (untaggedParameters parameters) (untaggedType? result)

def TypeParameter.untagged : TypeParameter → TypedScript.TypeParameter
  | ⟨data, name, constraint, fallback⟩ =>
      ⟨data.span, name.untagged, untaggedType? constraint, untaggedType? fallback⟩

def Parameter.untagged : Parameter → TypedScript.Parameter
  | ⟨data, isRest, name, optional, declaredType, initializer⟩ =>
      ⟨data.span, isRest, name.untagged, optional, untaggedType? declaredType, untaggedExpression?
        initializer⟩

def Expression.untagged : Expression → TypedScript.Expression
  | .identifier name => .identifier name.untagged
  | .literal constant => .literal constant.untagged
  | .call data callee typeArguments arguments =>
      .call data.span callee.untagged (untaggedTypes? typeArguments) (untaggedExpressions arguments)
  | .new data callee typeArguments arguments =>
      .new data.span callee.untagged (untaggedTypes? typeArguments) (untaggedExpressions? arguments)
  | .binary data left operator right => .binary data.span left.untagged operator right.untagged
  | .unary data operator operand => .unary data.span operator operand.untagged
  | .conditional data condition whenTrue whenFalse =>
      .conditional data.span condition.untagged whenTrue.untagged whenFalse.untagged
  | .property data base name optional => .property data.span base.untagged name.untagged optional
  | .element data base index => .element data.span base.untagged index.untagged
  | .instantiation data expression typeArguments =>
      .instantiation data.span expression.untagged (untaggedTypes typeArguments)
  | .object data properties => .object data.span (untaggedProperties properties)
  | .array data elements => .array data.span (untaggedExpressions elements)
  | .parenthesized data inner => .parenthesized data.span inner.untagged
  | .arrow data parameters result body =>
      .arrow data.span (untaggedParameters parameters) (untaggedType? result) body.untagged

def ArrowBody.untagged : ArrowBody → TypedScript.ArrowBody
  | .block body => .block body.untagged
  | .expression value => .expression value.untagged

def ObjectProperty.untagged : ObjectProperty → TypedScript.ObjectProperty
  | .assignment data key value => .assignment data.span key.untagged value.untagged
  | .shorthand data name => .shorthand data.span name.untagged

def untaggedTypes : List TypeExpr → List TypedScript.TypeExpr
  | [] => []
  | first :: rest => first.untagged :: untaggedTypes rest

def untaggedMembers : List TypeMember → List TypedScript.TypeMember
  | [] => []
  | first :: rest => first.untagged :: untaggedMembers rest

def untaggedTypeParameters : List TypeParameter → List TypedScript.TypeParameter
  | [] => []
  | first :: rest => first.untagged :: untaggedTypeParameters rest

def untaggedParameters : List Parameter → List TypedScript.Parameter
  | [] => []
  | first :: rest => first.untagged :: untaggedParameters rest

def untaggedExpressions : List Expression → List TypedScript.Expression
  | [] => []
  | first :: rest => first.untagged :: untaggedExpressions rest

def untaggedProperties : List ObjectProperty → List TypedScript.ObjectProperty
  | [] => []
  | first :: rest => first.untagged :: untaggedProperties rest

def untaggedType? : Option TypeExpr → Option TypedScript.TypeExpr
  | none => none
  | some value => some (value.untagged)

def untaggedTypes? : Option (List TypeExpr) → Option (List TypedScript.TypeExpr)
  | none => none
  | some value => some (untaggedTypes value)

def untaggedExpression? : Option Expression → Option TypedScript.Expression
  | none => none
  | some value => some (value.untagged)

def untaggedExpressions? : Option (List Expression) → Option (List TypedScript.Expression)
  | none => none
  | some value => some (untaggedExpressions value)

end

def Specifier.untagged (specifier : Specifier) : TypedScript.Specifier :=
  ⟨specifier.data.span, specifier.propertyName.map Identifier.untagged, specifier.name.untagged⟩

def Statement.untagged : Statement → TypedScript.Statement
  | .importing declaration =>
      .importing ⟨declaration.data.span, declaration.defaultBinding.map Identifier.untagged,
        declaration.namespaceBinding.map Identifier.untagged,
        declaration.namedBindings.map Specifier.untagged, declaration.source.untagged⟩
  | .exporting data declaration => .exporting data.span declaration.untagged
  | .exportingNames data specifiers source =>
      .exportingNames data.span (specifiers.map Specifier.untagged)
        (source.map ModuleName.untagged)
  | .exportingDefault data value => .exportingDefault data.span value.untagged
  | .interface declaration =>
      .interface ⟨declaration.data.span, declaration.name.untagged,
        declaration.typeParameters.map TypeParameter.untagged,
        declaration.extended.map TypeExpr.untagged, declaration.members.map TypeMember.untagged⟩
  | .typeAlias declaration =>
      .typeAlias ⟨declaration.data.span, declaration.name.untagged,
        declaration.typeParameters.map TypeParameter.untagged, declaration.aliased.untagged⟩
  | .function declaration =>
      .function ⟨declaration.data.span, declaration.name.untagged,
        declaration.typeParameters.map TypeParameter.untagged,
        declaration.parameters.map Parameter.untagged, declaration.result.map TypeExpr.untagged,
        declaration.body.map FunctionBody.untagged⟩
  | .binding declaration =>
      .binding ⟨declaration.data.span, declaration.kind, declaration.name.untagged,
        declaration.declaredType.map TypeExpr.untagged,
        declaration.initializer.map Expression.untagged⟩
  | .expression data value => .expression data.span value.untagged
  | .returning data value => .returning data.span (value.map Expression.untagged)
  | .empty data => .empty data.span

def Program.untagged (program : Program) : TypedScript.Program :=
  ⟨program.data.span, program.statements.map Statement.untagged⟩

/-- Every node holds the kind of its constructor, and every count has 32 bits. -/
def Program.Tagged (program : Program) : Prop :=
  program.untagged.stored = program

end TypedScript.Stored
