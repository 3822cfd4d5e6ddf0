import TypedScript.Tree.Basic

/-!
What a walk over the typed tree meets: statements, types, expressions, parameters and type
parameters, each before what it holds. Names and literals are not met on their own, and neither are
the properties of an object or the members of a type.
-/

namespace TypedScript

inductive Visit where
  | statement (statement : Statement)
  | type (type : TypeExpr)
  | expression (expression : Expression)
  | typeParameter (parameter : TypeParameter)
  | parameter (parameter : Parameter)

mutual

def TypeExpr.visits : TypeExpr → List Visit
  | .named span name arguments =>
      .type (.named span name arguments) ::
        (match arguments with
          | none => []
          | some types => types.flatMap fun type => type.visits)
  | .primitive span keyword => [.type (.primitive span keyword)]
  | .literal span constant => [.type (.literal span constant)]
  | .union span members =>
      .type (.union span members) :: members.flatMap fun member => member.visits
  | .intersection span members =>
      .type (.intersection span members) :: members.flatMap fun member => member.visits
  | .array span element => .type (.array span element) :: element.visits
  | .parenthesized span inner => .type (.parenthesized span inner) :: inner.visits
  | .object span members =>
      .type (.object span members) :: members.flatMap fun member => member.visits
  | .tuple span elements =>
      .type (.tuple span elements) :: elements.flatMap fun element => element.visits
  | .function span typeParameters parameters result =>
      .type (.function span typeParameters parameters result) ::
        (typeParameters.flatMap fun parameter => parameter.visits) ++
          (parameters.flatMap fun parameter => parameter.visits) ++ result.visits
decreasing_by
  all_goals simp only [TypeExpr.named.sizeOf_spec, TypeExpr.union.sizeOf_spec,
    TypeExpr.intersection.sizeOf_spec, TypeExpr.array.sizeOf_spec,
    TypeExpr.parenthesized.sizeOf_spec, TypeExpr.object.sizeOf_spec, TypeExpr.tuple.sizeOf_spec,
    TypeExpr.function.sizeOf_spec, Option.some.sizeOf_spec]
  all_goals first
    | omega
    | have := List.sizeOf_lt_of_mem ‹_›
      omega

def TypeMember.visits : TypeMember → List Visit
  | .property _ _ _ declaredType =>
      match declaredType with
      | none => []
      | some type => type.visits
  | .method _ _ _ typeParameters parameters result =>
      (typeParameters.flatMap fun parameter => parameter.visits) ++
        (parameters.flatMap fun parameter => parameter.visits) ++
        (match result with
          | none => []
          | some type => type.visits)
decreasing_by
  all_goals simp only [TypeMember.property.sizeOf_spec, TypeMember.method.sizeOf_spec,
    Option.some.sizeOf_spec]
  all_goals first
    | omega
    | have := List.sizeOf_lt_of_mem ‹_›
      omega

def TypeParameter.visits : TypeParameter → List Visit
  | ⟨span, name, constraint, fallback⟩ =>
      .typeParameter ⟨span, name, constraint, fallback⟩ ::
        (match constraint with
          | none => []
          | some type => type.visits) ++
        (match fallback with
          | none => []
          | some type => type.visits)

def Parameter.visits : Parameter → List Visit
  | ⟨span, isRest, name, optional, declaredType, initializer⟩ =>
      .parameter ⟨span, isRest, name, optional, declaredType, initializer⟩ ::
        (match declaredType with
          | none => []
          | some type => type.visits) ++
        (match initializer with
          | none => []
          | some value => value.visits)

def Expression.visits : Expression → List Visit
  | .identifier name => [.expression (.identifier name)]
  | .literal constant => [.expression (.literal constant)]
  | .call span callee typeArguments arguments =>
      .expression (.call span callee typeArguments arguments) :: callee.visits ++
        (match typeArguments with
          | none => []
          | some types => types.flatMap fun type => type.visits) ++
        (arguments.flatMap fun argument => argument.visits)
  | .new span callee typeArguments arguments =>
      .expression (.new span callee typeArguments arguments) :: callee.visits ++
        (match typeArguments with
          | none => []
          | some types => types.flatMap fun type => type.visits) ++
        (match arguments with
          | none => []
          | some values => values.flatMap fun value => value.visits)
  | .binary span left operator right =>
      .expression (.binary span left operator right) :: left.visits ++ right.visits
  | .unary span operator operand => .expression (.unary span operator operand) :: operand.visits
  | .conditional span condition whenTrue whenFalse =>
      .expression (.conditional span condition whenTrue whenFalse) ::
        condition.visits ++ whenTrue.visits ++ whenFalse.visits
  | .property span base name optional =>
      .expression (.property span base name optional) :: base.visits
  | .element span base index =>
      .expression (.element span base index) :: base.visits ++ index.visits
  | .instantiation span base typeArguments =>
      .expression (.instantiation span base typeArguments) :: base.visits ++
        (typeArguments.flatMap fun type => type.visits)
  | .object span properties =>
      .expression (.object span properties) :: properties.flatMap fun property => property.visits
  | .array span elements =>
      .expression (.array span elements) :: elements.flatMap fun element => element.visits
  | .parenthesized span inner => .expression (.parenthesized span inner) :: inner.visits
  | .arrow span parameters result body =>
      .expression (.arrow span parameters result body) ::
        (parameters.flatMap fun parameter => parameter.visits) ++
        (match result with
          | none => []
          | some type => type.visits) ++ body.visits
decreasing_by
  all_goals simp only [Expression.call.sizeOf_spec, Expression.new.sizeOf_spec,
    Expression.binary.sizeOf_spec, Expression.unary.sizeOf_spec, Expression.conditional.sizeOf_spec,
    Expression.property.sizeOf_spec, Expression.element.sizeOf_spec,
    Expression.instantiation.sizeOf_spec, Expression.object.sizeOf_spec,
    Expression.array.sizeOf_spec, Expression.parenthesized.sizeOf_spec,
    Expression.arrow.sizeOf_spec, Option.some.sizeOf_spec]
  all_goals first
    | omega
    | have := List.sizeOf_lt_of_mem ‹_›
      omega

def ArrowBody.visits : ArrowBody → List Visit
  | .block _ => []
  | .expression value => value.visits

def ObjectProperty.visits : ObjectProperty → List Visit
  | .assignment _ _ value => value.visits
  | .shorthand .. => []

end

def Statement.visits : Statement → List Visit
  | .importing declaration => [.statement (.importing declaration)]
  | .exporting span declaration =>
      .statement (.exporting span declaration) :: declaration.visits
  | .exportingNames span specifiers source =>
      [.statement (.exportingNames span specifiers source)]
  | .exportingDefault span value =>
      .statement (.exportingDefault span value) :: value.visits
  | .interface declaration =>
      .statement (.interface declaration) :: declaration.typeParameters.flatMap (·.visits) ++
        declaration.extended.flatMap (·.visits) ++ declaration.members.flatMap (·.visits)
  | .typeAlias declaration =>
      .statement (.typeAlias declaration) :: declaration.typeParameters.flatMap (·.visits) ++
        declaration.aliased.visits
  | .function declaration =>
      .statement (.function declaration) :: declaration.typeParameters.flatMap (·.visits) ++
        declaration.parameters.flatMap (·.visits) ++
        declaration.result.toList.flatMap (·.visits)
  | .binding declaration =>
      .statement (.binding declaration) :: declaration.declaredType.toList.flatMap (·.visits) ++
        declaration.initializer.toList.flatMap (·.visits)
  | .expression span value => .statement (.expression span value) :: value.visits
  | .returning span value =>
      .statement (.returning span value) :: value.toList.flatMap (·.visits)
  | .empty span => [.statement (.empty span)]

def Program.visits (program : Program) : List Visit :=
  program.statements.flatMap (·.visits)

namespace Visit

/-- The name that a walk reads off: that of a parameter, a type parameter or a named type. -/
def name? : Visit → Option String
  | .typeParameter found => some found.name.text
  | .parameter found => some found.name.text
  | .type (.named _ name _) => some name.text
  | _ => none

def isType : Visit → Bool
  | .type _ => true
  | _ => false

def isExpression : Visit → Bool
  | .expression _ => true
  | _ => false

def isParameter : Visit → Bool
  | .parameter _ => true
  | _ => false

def isTypeParameter : Visit → Bool
  | .typeParameter _ => true
  | _ => false

end Visit

end TypedScript
