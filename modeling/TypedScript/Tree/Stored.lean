import TypedScript.Token.Recorded
import TypedScript.Tree.Basic

/-!
The tree as it is stored. Every node holds its kind beside its range, a value like any other: what
reads the node afterwards goes by the kind that was put there when the node was built. Offsets and
counts have 32 bits.
-/

namespace TypedScript

structure NodeData where
  kind : Kind
  span : Span
deriving DecidableEq, Repr

namespace Stored

structure Identifier where
  data : NodeData
  text : String
deriving DecidableEq, Repr

structure Literal where
  data : NodeData
  value : LiteralValue
deriving DecidableEq, Repr

structure ModuleName where
  data : NodeData
  value : String
deriving DecidableEq, Repr

/-- The number of tokens has 32 bits like every offset. -/
structure FunctionBody where
  data : NodeData
  tokenCount : Nat
deriving DecidableEq, Repr

inductive PropertyKey where
  | identifier (name : Identifier)
  | literal (literal : Literal)
deriving DecidableEq, Repr

mutual

inductive TypeExpr where
  | named (data : NodeData) (name : Identifier) (arguments : Option (List TypeExpr))
  | primitive (data : NodeData) (keyword : Primitive)
  | literal (data : NodeData) (literal : Literal)
  | union (data : NodeData) (members : List TypeExpr)
  | intersection (data : NodeData) (members : List TypeExpr)
  | array (data : NodeData) (element : TypeExpr)
  | parenthesized (data : NodeData) (inner : TypeExpr)
  | object (data : NodeData) (members : List TypeMember)
  | tuple (data : NodeData) (elements : List TypeExpr)
  | function (data : NodeData) (typeParameters : List TypeParameter) (parameters : List Parameter)
      (result : TypeExpr)

inductive TypeMember where
  | property (data : NodeData) (name : Identifier) (optional : Bool)
      (declaredType : Option TypeExpr)
  | method (data : NodeData) (name : Identifier) (optional : Bool)
      (typeParameters : List TypeParameter) (parameters : List Parameter) (result : Option TypeExpr)

structure TypeParameter where
  data : NodeData
  name : Identifier
  constraint : Option TypeExpr
  fallback : Option TypeExpr

structure Parameter where
  data : NodeData
  isRest : Bool
  name : Identifier
  optional : Bool
  declaredType : Option TypeExpr
  initializer : Option Expression

inductive Expression where
  | identifier (name : Identifier)
  | literal (literal : Literal)
  | call (data : NodeData) (callee : Expression) (typeArguments : Option (List TypeExpr))
      (arguments : List Expression)
  | new (data : NodeData) (callee : Expression) (typeArguments : Option (List TypeExpr))
      (arguments : Option (List Expression))
  | binary (data : NodeData) (left : Expression) (operator : Punctuator) (right : Expression)
  | unary (data : NodeData) (operator : Punctuator) (operand : Expression)
  | conditional (data : NodeData) (condition whenTrue whenFalse : Expression)
  | property (data : NodeData) (object : Expression) (name : Identifier) (optional : Bool)
  | element (data : NodeData) (object index : Expression)
  | instantiation (data : NodeData) (expression : Expression) (typeArguments : List TypeExpr)
  | object (data : NodeData) (properties : List ObjectProperty)
  | array (data : NodeData) (elements : List Expression)
  | parenthesized (data : NodeData) (inner : Expression)
  | arrow (data : NodeData) (parameters : List Parameter) (result : Option TypeExpr)
      (body : ArrowBody)

inductive ArrowBody where
  | block (body : FunctionBody)
  | expression (value : Expression)

inductive ObjectProperty where
  | assignment (data : NodeData) (key : PropertyKey) (value : Expression)
  | shorthand (data : NodeData) (name : Identifier)

end

structure Specifier where
  data : NodeData
  propertyName : Option Identifier
  name : Identifier

structure ImportDeclaration where
  data : NodeData
  defaultBinding : Option Identifier
  namespaceBinding : Option Identifier
  namedBindings : List Specifier
  source : ModuleName

structure InterfaceDeclaration where
  data : NodeData
  name : Identifier
  typeParameters : List TypeParameter
  extended : List TypeExpr
  members : List TypeMember

structure TypeAlias where
  data : NodeData
  name : Identifier
  typeParameters : List TypeParameter
  aliased : TypeExpr

structure FunctionDeclaration where
  data : NodeData
  name : Identifier
  typeParameters : List TypeParameter
  parameters : List Parameter
  result : Option TypeExpr
  body : Option FunctionBody

structure VariableDeclaration where
  data : NodeData
  kind : VariableKind
  name : Identifier
  declaredType : Option TypeExpr
  initializer : Option Expression

inductive Statement where
  | importing (declaration : ImportDeclaration)
  | exporting (data : NodeData) (declaration : Statement)
  | exportingNames (data : NodeData) (specifiers : List Specifier) (source : Option ModuleName)
  | exportingDefault (data : NodeData) (expression : Expression)
  | interface (declaration : InterfaceDeclaration)
  | typeAlias (declaration : TypeAlias)
  | function (declaration : FunctionDeclaration)
  | binding (declaration : VariableDeclaration)
  | expression (data : NodeData) (expression : Expression)
  | returning (data : NodeData) (expression : Option Expression)
  | empty (data : NodeData)

structure Program where
  data : NodeData
  statements : List Statement

end Stored

/-! A tree of the grammar as it is stored: each node with the kind that belongs to its
constructor. -/

def Identifier.stored (name : Identifier) : Stored.Identifier :=
  ⟨⟨.token .identifier, name.span⟩, name.text⟩

def Literal.stored (constant : Literal) : Stored.Literal :=
  ⟨⟨constant.value.kind, constant.span⟩, constant.value⟩

def ModuleName.stored (name : ModuleName) : Stored.ModuleName :=
  ⟨⟨.token .stringLiteral, name.span⟩, name.value⟩

def FunctionBody.stored (body : FunctionBody) : Stored.FunctionBody :=
  ⟨⟨.node .functionBody, body.span⟩, low32 body.tokenCount⟩

def PropertyKey.stored : PropertyKey → Stored.PropertyKey
  | .identifier name => .identifier name.stored
  | .literal constant => .literal constant.stored

mutual

@[simp] def TypeExpr.stored : TypeExpr → Stored.TypeExpr
  | .named span name arguments =>
      .named ⟨.node .typeReference, span⟩ name.stored (storedTypes? arguments)
  | .primitive span keyword => .primitive ⟨.node .keywordType, span⟩ keyword
  | .literal span constant => .literal ⟨.node .literalType, span⟩ constant.stored
  | .union span members => .union ⟨.node .unionType, span⟩ (storedTypes members)
  | .intersection span members =>
      .intersection ⟨.node .intersectionType, span⟩ (storedTypes members)
  | .array span element => .array ⟨.node .arrayType, span⟩ element.stored
  | .parenthesized span inner => .parenthesized ⟨.node .parenthesizedType, span⟩ inner.stored
  | .object span members => .object ⟨.node .typeLiteral, span⟩ (storedMembers members)
  | .tuple span elements => .tuple ⟨.node .tupleType, span⟩ (storedTypes elements)
  | .function span typeParameters parameters result =>
      .function ⟨.node .functionType, span⟩ (storedTypeParameters typeParameters)
        (storedParameters parameters) result.stored

@[simp] def TypeMember.stored : TypeMember → Stored.TypeMember
  | .property span name optional declaredType =>
      .property ⟨.node .propertySignature, span⟩ name.stored optional (storedType? declaredType)
  | .method span name optional typeParameters parameters result =>
      .method ⟨.node .methodSignature, span⟩ name.stored optional
        (storedTypeParameters typeParameters) (storedParameters parameters) (storedType? result)

@[simp] def TypeParameter.stored : TypeParameter → Stored.TypeParameter
  | ⟨span, name, constraint, fallback⟩ =>
      ⟨⟨.node .typeParameter, span⟩, name.stored, storedType? constraint, storedType? fallback⟩

@[simp] def Parameter.stored : Parameter → Stored.Parameter
  | ⟨span, isRest, name, optional, declaredType, initializer⟩ =>
      ⟨⟨.node .parameter, span⟩, isRest, name.stored, optional, storedType? declaredType,
        storedExpression? initializer⟩

@[simp] def Expression.stored : Expression → Stored.Expression
  | .identifier name => .identifier name.stored
  | .literal constant => .literal constant.stored
  | .call span callee typeArguments arguments =>
      .call ⟨.node .callExpression, span⟩ callee.stored (storedTypes? typeArguments)
        (storedExpressions arguments)
  | .new span callee typeArguments arguments =>
      .new ⟨.node .newExpression, span⟩ callee.stored (storedTypes? typeArguments)
        (storedExpressions? arguments)
  | .binary span left operator right =>
      .binary ⟨.node .binaryExpression, span⟩ left.stored operator right.stored
  | .unary span operator operand =>
      .unary ⟨.node .prefixUnaryExpression, span⟩ operator operand.stored
  | .conditional span condition whenTrue whenFalse =>
      .conditional ⟨.node .conditionalExpression, span⟩ condition.stored whenTrue.stored
        whenFalse.stored
  | .property span base name optional =>
      .property ⟨.node .propertyAccessExpression, span⟩ base.stored name.stored optional
  | .element span base index =>
      .element ⟨.node .elementAccessExpression, span⟩ base.stored index.stored
  | .instantiation span expression typeArguments =>
      .instantiation ⟨.node .instantiationExpression, span⟩ expression.stored
        (storedTypes typeArguments)
  | .object span properties =>
      .object ⟨.node .objectLiteralExpression, span⟩ (storedProperties properties)
  | .array span elements =>
      .array ⟨.node .arrayLiteralExpression, span⟩ (storedExpressions elements)
  | .parenthesized span inner => .parenthesized ⟨.node .parenthesizedExpression, span⟩ inner.stored
  | .arrow span parameters result body =>
      .arrow ⟨.node .arrowFunction, span⟩ (storedParameters parameters) (storedType? result)
        body.stored

@[simp] def ArrowBody.stored : ArrowBody → Stored.ArrowBody
  | .block body => .block body.stored
  | .expression value => .expression value.stored

@[simp] def ObjectProperty.stored : ObjectProperty → Stored.ObjectProperty
  | .assignment span key value =>
      .assignment ⟨.node .propertyAssignment, span⟩ key.stored value.stored
  | .shorthand span name => .shorthand ⟨.node .shorthandPropertyAssignment, span⟩ name.stored

def storedTypes : List TypeExpr → List Stored.TypeExpr
  | [] => []
  | first :: rest => first.stored :: storedTypes rest

def storedMembers : List TypeMember → List Stored.TypeMember
  | [] => []
  | first :: rest => first.stored :: storedMembers rest

def storedTypeParameters : List TypeParameter → List Stored.TypeParameter
  | [] => []
  | first :: rest => first.stored :: storedTypeParameters rest

def storedParameters : List Parameter → List Stored.Parameter
  | [] => []
  | first :: rest => first.stored :: storedParameters rest

def storedExpressions : List Expression → List Stored.Expression
  | [] => []
  | first :: rest => first.stored :: storedExpressions rest

def storedProperties : List ObjectProperty → List Stored.ObjectProperty
  | [] => []
  | first :: rest => first.stored :: storedProperties rest

def storedType? : Option TypeExpr → Option Stored.TypeExpr
  | none => none
  | some value => some (value.stored)

def storedTypes? : Option (List TypeExpr) → Option (List Stored.TypeExpr)
  | none => none
  | some value => some (storedTypes value)

def storedExpression? : Option Expression → Option Stored.Expression
  | none => none
  | some value => some (value.stored)

def storedExpressions? : Option (List Expression) → Option (List Stored.Expression)
  | none => none
  | some value => some (storedExpressions value)

end

@[simp] theorem storedTypes_eq (values : List TypeExpr) :
    storedTypes values = values.map TypeExpr.stored :=
  eq_map_of_cons (by rw [storedTypes]) (fun _ _ => by rw [storedTypes]) values

@[simp] theorem storedMembers_eq (values : List TypeMember) :
    storedMembers values = values.map TypeMember.stored :=
  eq_map_of_cons (by rw [storedMembers]) (fun _ _ => by rw [storedMembers]) values

@[simp] theorem storedTypeParameters_eq (values : List TypeParameter) :
    storedTypeParameters values = values.map TypeParameter.stored :=
  eq_map_of_cons (by rw [storedTypeParameters]) (fun _ _ => by rw [storedTypeParameters]) values

@[simp] theorem storedParameters_eq (values : List Parameter) :
    storedParameters values = values.map Parameter.stored :=
  eq_map_of_cons (by rw [storedParameters]) (fun _ _ => by rw [storedParameters]) values

@[simp] theorem storedExpressions_eq (values : List Expression) :
    storedExpressions values = values.map Expression.stored :=
  eq_map_of_cons (by rw [storedExpressions]) (fun _ _ => by rw [storedExpressions]) values

@[simp] theorem storedProperties_eq (values : List ObjectProperty) :
    storedProperties values = values.map ObjectProperty.stored :=
  eq_map_of_cons (by rw [storedProperties]) (fun _ _ => by rw [storedProperties]) values

@[simp] theorem storedType?_eq (value : Option TypeExpr) :
    storedType? value = value.map TypeExpr.stored :=
  eq_map_of_some (by rw [storedType?]) (fun _ => by simp only [storedType?]) value

@[simp] theorem storedTypes?_eq (value : Option (List TypeExpr)) :
    storedTypes? value = value.map (List.map TypeExpr.stored) :=
  eq_map_of_some (by rw [storedTypes?])
    (fun _ => by simp only [storedTypes?, storedTypes_eq]) value

@[simp] theorem storedExpression?_eq (value : Option Expression) :
    storedExpression? value = value.map Expression.stored :=
  eq_map_of_some (by rw [storedExpression?]) (fun _ => by simp only [storedExpression?]) value

@[simp] theorem storedExpressions?_eq (value : Option (List Expression)) :
    storedExpressions? value = value.map (List.map Expression.stored) :=
  eq_map_of_some (by rw [storedExpressions?])
    (fun _ => by simp only [storedExpressions?, storedExpressions_eq]) value

def Specifier.stored (kind : NodeKind) (specifier : Specifier) : Stored.Specifier :=
  ⟨⟨.node kind, specifier.span⟩, specifier.propertyName.map Identifier.stored,
    specifier.name.stored⟩

def ImportDeclaration.stored (declaration : ImportDeclaration) : Stored.ImportDeclaration :=
  ⟨⟨.node .importDeclaration, declaration.span⟩,
    declaration.defaultBinding.map Identifier.stored,
    declaration.namespaceBinding.map Identifier.stored,
    declaration.namedBindings.map (Specifier.stored .importSpecifier), declaration.source.stored⟩

def InterfaceDeclaration.stored (declaration : InterfaceDeclaration) :
    Stored.InterfaceDeclaration :=
  ⟨⟨.node .interfaceDeclaration, declaration.span⟩, declaration.name.stored,
    declaration.typeParameters.map TypeParameter.stored,
    declaration.extended.map TypeExpr.stored, declaration.members.map TypeMember.stored⟩

def TypeAlias.stored (declaration : TypeAlias) : Stored.TypeAlias :=
  ⟨⟨.node .typeAliasDeclaration, declaration.span⟩, declaration.name.stored,
    declaration.typeParameters.map TypeParameter.stored, declaration.aliased.stored⟩

def FunctionDeclaration.stored (declaration : FunctionDeclaration) : Stored.FunctionDeclaration :=
  ⟨⟨.node .functionDeclaration, declaration.span⟩, declaration.name.stored,
    declaration.typeParameters.map TypeParameter.stored,
    declaration.parameters.map Parameter.stored, declaration.result.map TypeExpr.stored,
    declaration.body.map FunctionBody.stored⟩

def VariableDeclaration.stored (declaration : VariableDeclaration) : Stored.VariableDeclaration :=
  ⟨⟨.node .variableDeclaration, declaration.span⟩, declaration.kind, declaration.name.stored,
    declaration.declaredType.map TypeExpr.stored, declaration.initializer.map Expression.stored⟩

def Statement.stored : Statement → Stored.Statement
  | .importing declaration => .importing declaration.stored
  | .exporting span declaration =>
      .exporting ⟨.node .exportDeclaration, span⟩ declaration.stored
  | .exportingNames span specifiers source =>
      .exportingNames ⟨.node .exportDeclaration, span⟩
        (specifiers.map (Specifier.stored .exportSpecifier)) (source.map ModuleName.stored)
  | .exportingDefault span value =>
      .exportingDefault ⟨.node .exportDeclaration, span⟩ value.stored
  | .interface declaration => .interface declaration.stored
  | .typeAlias declaration => .typeAlias declaration.stored
  | .function declaration => .function declaration.stored
  | .binding declaration => .binding declaration.stored
  | .expression span value => .expression ⟨.node .expressionStatement, span⟩ value.stored
  | .returning span value =>
      .returning ⟨.node .returnStatement, span⟩ (value.map Expression.stored)
  | .empty span => .empty ⟨.node .emptyStatement, span⟩

def Program.stored (program : Program) : Stored.Program :=
  ⟨⟨.node .program, program.span⟩, program.statements.map Statement.stored⟩

end TypedScript
