import TypedScript.Tree.Basic

/-!
Moving the ranges of a tree. Every offset in a tree is replaced by another one, and everything else
stays as it is. Sending all offsets to one of them leaves a tree without ranges.
-/

namespace TypedScript

/-! Names and literals. -/

def Span.relocate (move : Nat → Nat) (span : Span) : Span :=
  ⟨move span.start, move span.stop⟩

def Identifier.relocate (move : Nat → Nat) (name : Identifier) : Identifier :=
  ⟨name.span.relocate move, name.text⟩

def Literal.relocate (move : Nat → Nat) (constant : Literal) : Literal :=
  ⟨constant.span.relocate move, constant.value⟩

def ModuleName.relocate (move : Nat → Nat) (name : ModuleName) : ModuleName :=
  ⟨name.span.relocate move, name.value⟩

def FunctionBody.relocate (move : Nat → Nat) (body : FunctionBody) : FunctionBody :=
  ⟨body.span.relocate move, body.tokenCount⟩

def PropertyKey.relocate (move : Nat → Nat) : PropertyKey → PropertyKey
  | .identifier name => .identifier (name.relocate move)
  | .literal constant => .literal (constant.relocate move)

/-! Types and expressions, with functions for the lists and options that hold them. -/

mutual

def TypeExpr.relocate (move : Nat → Nat) : TypeExpr → TypeExpr
  | .named span name arguments =>
      .named (span.relocate move) (name.relocate move)
        (relocateTypes? move arguments)
  | .primitive span keyword => .primitive (span.relocate move) keyword
  | .literal span constant =>
      .literal (span.relocate move) (constant.relocate move)
  | .union span members => .union (span.relocate move) (relocateTypes move members)
  | .intersection span members =>
      .intersection (span.relocate move) (relocateTypes move members)
  | .array span element => .array (span.relocate move) (element.relocate move)
  | .parenthesized span inner =>
      .parenthesized (span.relocate move) (inner.relocate move)
  | .object span members => .object (span.relocate move) (relocateMembers move members)
  | .tuple span elements => .tuple (span.relocate move) (relocateTypes move elements)
  | .function span typeParameters parameters result =>
      .function (span.relocate move) (relocateTypeParameters move typeParameters)
        (relocateParameters move parameters) (result.relocate move)

def TypeMember.relocate (move : Nat → Nat) : TypeMember → TypeMember
  | .property span name optional declaredType =>
      .property (span.relocate move) (name.relocate move) optional
        (relocateType? move declaredType)
  | .method span name optional typeParameters parameters result =>
      .method (span.relocate move) (name.relocate move) optional
        (relocateTypeParameters move typeParameters) (relocateParameters move parameters)
        (relocateType? move result)

def TypeParameter.relocate (move : Nat → Nat) : TypeParameter → TypeParameter
  | ⟨span, name, constraint, fallback⟩ =>
      ⟨span.relocate move, name.relocate move, relocateType? move constraint,
        relocateType? move fallback⟩

def Parameter.relocate (move : Nat → Nat) : Parameter → Parameter
  | ⟨span, isRest, name, optional, declaredType, initializer⟩ =>
      ⟨span.relocate move, isRest, name.relocate move, optional,
        relocateType? move declaredType, relocateExpression? move initializer⟩

def Expression.relocate (move : Nat → Nat) : Expression → Expression
  | .identifier name => .identifier (name.relocate move)
  | .literal constant => .literal (constant.relocate move)
  | .call span callee typeArguments arguments =>
      .call (span.relocate move) (callee.relocate move)
        (relocateTypes? move typeArguments) (relocateExpressions move arguments)
  | .new span callee typeArguments arguments =>
      .new (span.relocate move) (callee.relocate move)
        (relocateTypes? move typeArguments) (relocateExpressions? move arguments)
  | .binary span left operator right =>
      .binary (span.relocate move) (left.relocate move) operator (right.relocate move)
  | .unary span operator operand =>
      .unary (span.relocate move) operator (operand.relocate move)
  | .conditional span condition whenTrue whenFalse =>
      .conditional (span.relocate move) (condition.relocate move)
        (whenTrue.relocate move) (whenFalse.relocate move)
  | .property span base name optional =>
      .property (span.relocate move) (base.relocate move) (name.relocate move)
        optional
  | .element span base index =>
      .element (span.relocate move) (base.relocate move) (index.relocate move)
  | .instantiation span base typeArguments =>
      .instantiation (span.relocate move) (base.relocate move)
        (relocateTypes move typeArguments)
  | .object span properties =>
      .object (span.relocate move) (relocateProperties move properties)
  | .array span elements =>
      .array (span.relocate move) (relocateExpressions move elements)
  | .parenthesized span inner =>
      .parenthesized (span.relocate move) (inner.relocate move)
  | .arrow span parameters result body =>
      .arrow (span.relocate move) (relocateParameters move parameters)
        (relocateType? move result) (body.relocate move)

def ArrowBody.relocate (move : Nat → Nat) : ArrowBody → ArrowBody
  | .block body => .block (body.relocate move)
  | .expression value => .expression (value.relocate move)

def ObjectProperty.relocate (move : Nat → Nat) : ObjectProperty → ObjectProperty
  | .assignment span key value =>
      .assignment (span.relocate move) (key.relocate move) (value.relocate move)
  | .shorthand span name => .shorthand (span.relocate move) (name.relocate move)

def relocateTypes (move : Nat → Nat) : List TypeExpr → List TypeExpr
  | [] => []
  | first :: rest => first.relocate move :: relocateTypes move rest

def relocateMembers (move : Nat → Nat) : List TypeMember → List TypeMember
  | [] => []
  | first :: rest => first.relocate move :: relocateMembers move rest

def relocateTypeParameters (move : Nat → Nat) : List TypeParameter → List TypeParameter
  | [] => []
  | first :: rest => first.relocate move :: relocateTypeParameters move rest

def relocateParameters (move : Nat → Nat) : List Parameter → List Parameter
  | [] => []
  | first :: rest => first.relocate move :: relocateParameters move rest

def relocateExpressions (move : Nat → Nat) : List Expression → List Expression
  | [] => []
  | first :: rest => first.relocate move :: relocateExpressions move rest

def relocateProperties (move : Nat → Nat) : List ObjectProperty → List ObjectProperty
  | [] => []
  | first :: rest => first.relocate move :: relocateProperties move rest

def relocateType? (move : Nat → Nat) : Option TypeExpr → Option TypeExpr
  | none => none
  | some value => some (value.relocate move)

def relocateTypes? (move : Nat → Nat) : Option (List TypeExpr) → Option (List TypeExpr)
  | none => none
  | some value => some (relocateTypes move value)

def relocateExpression? (move : Nat → Nat) : Option Expression → Option Expression
  | none => none
  | some value => some (value.relocate move)

def relocateExpressions? (move : Nat → Nat) : Option (List Expression) → Option (List Expression)
  | none => none
  | some value => some (relocateExpressions move value)

end

/-! The lists and options are mapped over. -/

section Containers

variable (move : Nat → Nat)

@[simp] theorem relocateTypes_eq (values : List TypeExpr) :
    relocateTypes move values = values.map (TypeExpr.relocate move) :=
  eq_map_of_cons (by rw [relocateTypes]) (fun _ _ => by rw [relocateTypes]) values

@[simp] theorem relocateMembers_eq (values : List TypeMember) :
    relocateMembers move values = values.map (TypeMember.relocate move) :=
  eq_map_of_cons (by rw [relocateMembers]) (fun _ _ => by rw [relocateMembers]) values

@[simp] theorem relocateTypeParameters_eq (values : List TypeParameter) :
    relocateTypeParameters move values = values.map (TypeParameter.relocate move) :=
  eq_map_of_cons (by rw [relocateTypeParameters]) (fun _ _ => by rw [relocateTypeParameters]) values

@[simp] theorem relocateParameters_eq (values : List Parameter) :
    relocateParameters move values = values.map (Parameter.relocate move) :=
  eq_map_of_cons (by rw [relocateParameters]) (fun _ _ => by rw [relocateParameters]) values

@[simp] theorem relocateExpressions_eq (values : List Expression) :
    relocateExpressions move values = values.map (Expression.relocate move) :=
  eq_map_of_cons (by rw [relocateExpressions]) (fun _ _ => by rw [relocateExpressions]) values

@[simp] theorem relocateProperties_eq (values : List ObjectProperty) :
    relocateProperties move values = values.map (ObjectProperty.relocate move) :=
  eq_map_of_cons (by rw [relocateProperties]) (fun _ _ => by rw [relocateProperties]) values

@[simp] theorem relocateType?_eq (value : Option TypeExpr) :
    relocateType? move value = value.map (TypeExpr.relocate move) :=
  eq_map_of_some (by rw [relocateType?]) (fun _ => by simp only [relocateType?]) value

@[simp] theorem relocateExpression?_eq (value : Option Expression) :
    relocateExpression? move value = value.map (Expression.relocate move) :=
  eq_map_of_some (by rw [relocateExpression?]) (fun _ => by simp only [relocateExpression?]) value

@[simp] theorem relocateTypes?_eq (value : Option (List TypeExpr)) :
    relocateTypes? move value = value.map (List.map (TypeExpr.relocate move)) :=
  eq_map_of_some (by rw [relocateTypes?])
    (fun _ => by simp only [relocateTypes?, relocateTypes_eq]) value

@[simp] theorem relocateExpressions?_eq (value : Option (List Expression)) :
    relocateExpressions? move value = value.map (List.map (Expression.relocate move)) :=
  eq_map_of_some (by rw [relocateExpressions?])
    (fun _ => by simp only [relocateExpressions?, relocateExpressions_eq]) value

end Containers

abbrev each {α β : Type} (view : (Nat → Nat) → α → β) (move : Nat → Nat) : List α → List β :=
  List.map (view move)

abbrev perhaps {α β : Type} (view : (Nat → Nat) → α → β) (move : Nat → Nat) :
    Option α → Option β :=
  Option.map (view move)

/-! Statements. -/

def Specifier.relocate (move : Nat → Nat) (specifier : Specifier) : Specifier :=
  ⟨specifier.span.relocate move, specifier.propertyName.map (Identifier.relocate move),
    specifier.name.relocate move⟩

def ImportDeclaration.relocate (move : Nat → Nat) (declaration : ImportDeclaration) :
    ImportDeclaration :=
  ⟨declaration.span.relocate move, declaration.defaultBinding.map (Identifier.relocate move),
    declaration.namespaceBinding.map (Identifier.relocate move),
    declaration.namedBindings.map (Specifier.relocate move), declaration.source.relocate move⟩

def InterfaceDeclaration.relocate (move : Nat → Nat) (declaration : InterfaceDeclaration) :
    InterfaceDeclaration :=
  ⟨declaration.span.relocate move, declaration.name.relocate move,
    declaration.typeParameters.map (TypeParameter.relocate move),
    declaration.extended.map (TypeExpr.relocate move),
    declaration.members.map (TypeMember.relocate move)⟩

def TypeAlias.relocate (move : Nat → Nat) (declaration : TypeAlias) : TypeAlias :=
  ⟨declaration.span.relocate move, declaration.name.relocate move,
    declaration.typeParameters.map (TypeParameter.relocate move),
    declaration.aliased.relocate move⟩

def FunctionDeclaration.relocate (move : Nat → Nat) (declaration : FunctionDeclaration) :
    FunctionDeclaration :=
  ⟨declaration.span.relocate move, declaration.name.relocate move,
    declaration.typeParameters.map (TypeParameter.relocate move),
    declaration.parameters.map (Parameter.relocate move),
    declaration.result.map (TypeExpr.relocate move),
    declaration.body.map (FunctionBody.relocate move)⟩

def VariableDeclaration.relocate (move : Nat → Nat) (declaration : VariableDeclaration) :
    VariableDeclaration :=
  ⟨declaration.span.relocate move, declaration.kind, declaration.name.relocate move,
    declaration.declaredType.map (TypeExpr.relocate move),
    declaration.initializer.map (Expression.relocate move)⟩

def Statement.relocate (move : Nat → Nat) : Statement → Statement
  | .importing declaration => .importing (declaration.relocate move)
  | .exporting span declaration => .exporting (span.relocate move) (declaration.relocate move)
  | .exportingNames span specifiers source =>
      .exportingNames (span.relocate move) (specifiers.map (Specifier.relocate move))
        (source.map (ModuleName.relocate move))
  | .exportingDefault span value =>
      .exportingDefault (span.relocate move) (value.relocate move)
  | .interface declaration => .interface (declaration.relocate move)
  | .typeAlias declaration => .typeAlias (declaration.relocate move)
  | .function declaration => .function (declaration.relocate move)
  | .binding declaration => .binding (declaration.relocate move)
  | .expression span value => .expression (span.relocate move) (value.relocate move)
  | .returning span value =>
      .returning (span.relocate move) (value.map (Expression.relocate move))
  | .empty span => .empty (span.relocate move)

def Program.relocate (move : Nat → Nat) (program : Program) : Program :=
  ⟨program.span.relocate move, program.statements.map (Statement.relocate move)⟩

def Program.withoutSpans (program : Program) : Program :=
  program.relocate fun _ => 0

/-! Moving no offset changes nothing. -/

@[simp] theorem Span.relocate_id (span : Span) : span.relocate id = span := rfl

@[simp] theorem Identifier.relocate_id (name : Identifier) : name.relocate id = name := rfl

@[simp] theorem Literal.relocate_id (constant : Literal) : constant.relocate id = constant := rfl

@[simp] theorem ModuleName.relocate_id (name : ModuleName) : name.relocate id = name := rfl

@[simp] theorem FunctionBody.relocate_id (body : FunctionBody) : body.relocate id = body := rfl

@[simp] theorem PropertyKey.relocate_id (key : PropertyKey) : key.relocate id = key := by
  cases key with
  | identifier => rfl
  | literal => rfl

mutual

theorem TypeExpr.relocate_id : (type : TypeExpr) → type.relocate id = type
  | .named _ _ arguments => by
      simp only [TypeExpr.relocate, relocateTypes?_id arguments, Span.relocate_id,
        Identifier.relocate_id]
  | .primitive .. => by simp only [TypeExpr.relocate, Span.relocate_id]
  | .literal .. => by simp only [TypeExpr.relocate, Span.relocate_id, Literal.relocate_id]
  | .union _ members => by simp only [TypeExpr.relocate, relocateTypes_id members, Span.relocate_id]
  | .intersection _ members => by
      simp only [TypeExpr.relocate, relocateTypes_id members, Span.relocate_id]
  | .array _ element => by simp only [TypeExpr.relocate, element.relocate_id, Span.relocate_id]
  | .parenthesized _ inner => by simp only [TypeExpr.relocate, inner.relocate_id, Span.relocate_id]
  | .object _ members => by
      simp only [TypeExpr.relocate, relocateMembers_id members, Span.relocate_id]
  | .tuple _ elements => by
      simp only [TypeExpr.relocate, relocateTypes_id elements, Span.relocate_id]
  | .function _ typeParameters parameters result => by
      simp only [TypeExpr.relocate, relocateTypeParameters_id typeParameters,
        relocateParameters_id parameters, result.relocate_id, Span.relocate_id]

theorem TypeMember.relocate_id : (member : TypeMember) → member.relocate id = member
  | .property _ _ _ declaredType => by
      simp only [TypeMember.relocate, relocateType?_id declaredType, Span.relocate_id,
        Identifier.relocate_id]
  | .method _ _ _ typeParameters parameters result => by
      simp only [TypeMember.relocate, relocateTypeParameters_id typeParameters,
        relocateParameters_id parameters, relocateType?_id result, Span.relocate_id,
        Identifier.relocate_id]

theorem TypeParameter.relocate_id : (parameter : TypeParameter) → parameter.relocate id = parameter
  | ⟨_, _, constraint, fallback⟩ => by
      simp only [TypeParameter.relocate, relocateType?_id constraint, relocateType?_id fallback,
        Span.relocate_id, Identifier.relocate_id]

theorem Parameter.relocate_id : (parameter : Parameter) → parameter.relocate id = parameter
  | ⟨_, _, _, _, declaredType, initializer⟩ => by
      simp only [Parameter.relocate, relocateType?_id declaredType,
        relocateExpression?_id initializer, Span.relocate_id, Identifier.relocate_id]

theorem Expression.relocate_id : (expression : Expression) → expression.relocate id = expression
  | .identifier _ => by simp only [Expression.relocate, Identifier.relocate_id]
  | .literal _ => by simp only [Expression.relocate, Literal.relocate_id]
  | .call _ callee typeArguments arguments => by
      simp only [Expression.relocate, callee.relocate_id, relocateTypes?_id typeArguments,
        relocateExpressions_id arguments, Span.relocate_id]
  | .new _ callee typeArguments arguments => by
      simp only [Expression.relocate, callee.relocate_id, relocateTypes?_id typeArguments,
        relocateExpressions?_id arguments, Span.relocate_id]
  | .binary _ left _ right => by
      simp only [Expression.relocate, left.relocate_id, right.relocate_id, Span.relocate_id]
  | .unary _ _ operand => by simp only [Expression.relocate, operand.relocate_id, Span.relocate_id]
  | .conditional _ condition whenTrue whenFalse => by
      simp only [Expression.relocate, condition.relocate_id, whenTrue.relocate_id,
        whenFalse.relocate_id, Span.relocate_id]
  | .property _ base _ _ => by
      simp only [Expression.relocate, base.relocate_id, Span.relocate_id, Identifier.relocate_id]
  | .element _ base index => by
      simp only [Expression.relocate, base.relocate_id, index.relocate_id, Span.relocate_id]
  | .instantiation _ base typeArguments => by
      simp only [Expression.relocate, base.relocate_id, relocateTypes_id typeArguments,
        Span.relocate_id]
  | .object _ properties => by
      simp only [Expression.relocate, relocateProperties_id properties, Span.relocate_id]
  | .array _ elements => by
      simp only [Expression.relocate, relocateExpressions_id elements, Span.relocate_id]
  | .parenthesized _ inner => by
      simp only [Expression.relocate, inner.relocate_id, Span.relocate_id]
  | .arrow _ parameters result body => by
      simp only [Expression.relocate, relocateParameters_id parameters, relocateType?_id result,
        body.relocate_id, Span.relocate_id]

theorem ArrowBody.relocate_id : (body : ArrowBody) → body.relocate id = body
  | .block _ => by simp only [ArrowBody.relocate, FunctionBody.relocate_id]
  | .expression value => by simp only [ArrowBody.relocate, value.relocate_id]

theorem ObjectProperty.relocate_id : (property : ObjectProperty) → property.relocate id = property
  | .assignment _ _ value => by
      simp only [ObjectProperty.relocate, value.relocate_id, Span.relocate_id,
        PropertyKey.relocate_id]
  | .shorthand .. => by
      simp only [ObjectProperty.relocate, Span.relocate_id, Identifier.relocate_id]

theorem relocateTypes_id : (values : List TypeExpr) → relocateTypes id values = values
  | [] => by rw [relocateTypes]
  | first :: rest => by rw [relocateTypes, first.relocate_id, relocateTypes_id rest]

theorem relocateMembers_id : (values : List TypeMember) → relocateMembers id values = values
  | [] => by rw [relocateMembers]
  | first :: rest => by rw [relocateMembers, first.relocate_id, relocateMembers_id rest]

theorem relocateTypeParameters_id : (values : List TypeParameter) →
    relocateTypeParameters id values = values
  | [] => by rw [relocateTypeParameters]
  | first :: rest => by
      rw [relocateTypeParameters, first.relocate_id, relocateTypeParameters_id rest]

theorem relocateParameters_id : (values : List Parameter) → relocateParameters id values = values
  | [] => by rw [relocateParameters]
  | first :: rest => by rw [relocateParameters, first.relocate_id, relocateParameters_id rest]

theorem relocateExpressions_id : (values : List Expression) → relocateExpressions id values = values
  | [] => by rw [relocateExpressions]
  | first :: rest => by rw [relocateExpressions, first.relocate_id, relocateExpressions_id rest]

theorem relocateProperties_id : (values : List ObjectProperty) →
    relocateProperties id values = values
  | [] => by rw [relocateProperties]
  | first :: rest => by rw [relocateProperties, first.relocate_id, relocateProperties_id rest]

theorem relocateType?_id : (value : Option TypeExpr) → relocateType? id value = value
  | none => by rw [relocateType?]
  | some value => by rw [relocateType?, value.relocate_id]

theorem relocateTypes?_id : (value : Option (List TypeExpr)) → relocateTypes? id value = value
  | none => by rw [relocateTypes?]
  | some value => by rw [relocateTypes?, relocateTypes_id value]

theorem relocateExpression?_id : (value : Option Expression) → relocateExpression? id value = value
  | none => by rw [relocateExpression?]
  | some value => by rw [relocateExpression?, value.relocate_id]

theorem relocateExpressions?_id : (value : Option (List Expression)) →
    relocateExpressions? id value = value
  | none => by rw [relocateExpressions?]
  | some value => by rw [relocateExpressions?, relocateExpressions_id value]

end

/-- Mapping over a container with a function that changes nothing changes nothing either. -/
theorem map_eq_self {α : Type} {change : α → α} (same : ∀ value, change value = value) :
    (∀ values : List α, values.map change = values) ∧
      ∀ value : Option α, value.map change = value := by
  have identity : change = id := funext same
  rw [identity]
  exact ⟨List.map_id, fun _ => Option.map_id_apply⟩

theorem Specifier.relocate_id (specifier : Specifier) : specifier.relocate id = specifier := by
  rw [Specifier.relocate, (map_eq_self Identifier.relocate_id).2]
  rfl

theorem Statement.relocate_id (statement : Statement) : statement.relocate id = statement := by
  have names := (map_eq_self Identifier.relocate_id).2
  have types := map_eq_self TypeExpr.relocate_id
  have typeParameters := (map_eq_self TypeParameter.relocate_id).1
  have expressions := (map_eq_self Expression.relocate_id).2
  have specifiers := (map_eq_self Specifier.relocate_id).1
  induction statement with
  | importing =>
      simp only [relocate, ImportDeclaration.relocate, names, specifiers, Span.relocate_id,
        ModuleName.relocate_id]
  | exporting span declaration induction => rw [relocate, induction, Span.relocate_id]
  | exportingNames =>
      rw [relocate, specifiers, (map_eq_self ModuleName.relocate_id).2, Span.relocate_id]
  | exportingDefault => rw [relocate, Expression.relocate_id, Span.relocate_id]
  | interface =>
      simp only [relocate, InterfaceDeclaration.relocate, typeParameters, types.1,
        (map_eq_self TypeMember.relocate_id).1, Span.relocate_id, Identifier.relocate_id]
  | typeAlias =>
      simp only [relocate, TypeAlias.relocate, typeParameters, TypeExpr.relocate_id,
        Span.relocate_id, Identifier.relocate_id]
  | function =>
      simp only [relocate, FunctionDeclaration.relocate, typeParameters, types.2,
        (map_eq_self Parameter.relocate_id).1, (map_eq_self FunctionBody.relocate_id).2,
        Span.relocate_id, Identifier.relocate_id]
  | binding =>
      simp only [relocate, VariableDeclaration.relocate, types.2, expressions, Span.relocate_id,
        Identifier.relocate_id]
  | expression => rw [relocate, Expression.relocate_id, Span.relocate_id]
  | returning => rw [relocate, expressions, Span.relocate_id]
  | empty => rw [relocate, Span.relocate_id]

end TypedScript
