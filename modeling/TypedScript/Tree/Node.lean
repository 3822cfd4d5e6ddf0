import TypedScript.Tree.Basic

/-!
The tree without its types: a node, whatever it is, has a kind, a range and children. Main
statement: a child is smaller than its parent, so that walks over the tree end.
-/

namespace TypedScript

inductive Node where
  | program (program : Program)
  | statement (statement : Statement)
  | type (type : TypeExpr)
  | expression (expression : Expression)
  | identifier (name : Identifier)
  | literal (literal : Literal)
  | moduleName (name : ModuleName)
  | importSpecifier (specifier : Specifier)
  | exportSpecifier (specifier : Specifier)
  | typeMember (member : TypeMember)
  | typeParameter (parameter : TypeParameter)
  | parameter (parameter : Parameter)
  | functionBody (body : FunctionBody)
  | objectProperty (property : ObjectProperty)
  | propertyKey (key : PropertyKey)

/-! The children of each kind of node, in the order of the text. -/

def Statement.children : Statement → List Node
  | .importing declaration =>
      declaration.defaultBinding.toList.map .identifier ++
        declaration.namespaceBinding.toList.map .identifier ++
        declaration.namedBindings.map .importSpecifier ++ [.moduleName declaration.source]
  | .exporting _ declaration => [.statement declaration]
  | .exportingNames _ specifiers source =>
      specifiers.map .exportSpecifier ++ source.toList.map .moduleName
  | .exportingDefault _ value => [.expression value]
  | .interface declaration =>
      [.identifier declaration.name] ++ declaration.typeParameters.map .typeParameter ++
        declaration.extended.map .type ++ declaration.members.map .typeMember
  | .typeAlias declaration =>
      [.identifier declaration.name] ++ declaration.typeParameters.map .typeParameter ++
        [.type declaration.aliased]
  | .function declaration =>
      [.identifier declaration.name] ++ declaration.typeParameters.map .typeParameter ++
        declaration.parameters.map .parameter ++ declaration.result.toList.map .type ++
        declaration.body.toList.map .functionBody
  | .binding declaration =>
      [.identifier declaration.name] ++ declaration.declaredType.toList.map .type ++
        declaration.initializer.toList.map .expression
  | .expression _ value => [.expression value]
  | .returning _ value => value.toList.map .expression
  | .empty _ => []

def TypeExpr.children : TypeExpr → List Node
  | .named _ name arguments => [.identifier name] ++ (arguments.getD []).map .type
  | .primitive .. => []
  | .literal _ constant => [.literal constant]
  | .union _ members | .intersection _ members => members.map .type
  | .array _ element => [.type element]
  | .parenthesized _ inner => [.type inner]
  | .object _ members => members.map .typeMember
  | .tuple _ elements => elements.map .type
  | .function _ typeParameters parameters result =>
      typeParameters.map .typeParameter ++ parameters.map .parameter ++ [.type result]

def TypeMember.children : TypeMember → List Node
  | .property _ name _ declaredType => [.identifier name] ++ declaredType.toList.map .type
  | .method _ name _ typeParameters parameters result =>
      [.identifier name] ++ typeParameters.map .typeParameter ++ parameters.map .parameter ++
        result.toList.map .type

def TypeParameter.children (parameter : TypeParameter) : List Node :=
  [.identifier parameter.name] ++ parameter.constraint.toList.map .type ++
    parameter.fallback.toList.map .type

def Parameter.children (parameter : Parameter) : List Node :=
  [.identifier parameter.name] ++ parameter.declaredType.toList.map .type ++
    parameter.initializer.toList.map .expression

def Expression.children : Expression → List Node
  | .identifier _ | .literal _ => []
  | .call _ callee typeArguments arguments =>
      [.expression callee] ++ (typeArguments.getD []).map .type ++ arguments.map .expression
  | .new _ callee typeArguments arguments =>
      [.expression callee] ++ (typeArguments.getD []).map .type ++
        (arguments.getD []).map .expression
  | .binary _ left _ right => [.expression left, .expression right]
  | .unary _ _ operand => [.expression operand]
  | .conditional _ condition whenTrue whenFalse =>
      [.expression condition, .expression whenTrue, .expression whenFalse]
  | .property _ base name _ => [.expression base, .identifier name]
  | .element _ base index => [.expression base, .expression index]
  | .instantiation _ base typeArguments => [.expression base] ++ typeArguments.map .type
  | .object _ properties => properties.map .objectProperty
  | .array _ elements => elements.map .expression
  | .parenthesized _ inner => [.expression inner]
  | .arrow _ parameters result body =>
      parameters.map .parameter ++ result.toList.map .type ++
        [match body with
          | .block body => .functionBody body
          | .expression value => .expression value]

namespace Node

def kind : Node → Kind
  | .program _ => .node .program
  | .statement content => .node content.kind
  | .type content => .node content.kind
  | .expression content => content.kind
  | .identifier _ => .token .identifier
  | .literal content => content.value.kind
  | .moduleName _ => .token .stringLiteral
  | .importSpecifier _ => .node .importSpecifier
  | .exportSpecifier _ => .node .exportSpecifier
  | .typeMember content => .node content.kind
  | .typeParameter _ => .node .typeParameter
  | .parameter _ => .node .parameter
  | .functionBody _ => .node .functionBody
  | .objectProperty content => .node content.kind
  | .propertyKey key => key.kind

def span : Node → Span
  | .program content => content.span
  | .statement content => content.span
  | .type content => content.span
  | .expression content => content.span
  | .identifier content => content.span
  | .literal content => content.span
  | .moduleName content => content.span
  | .importSpecifier content => content.span
  | .exportSpecifier content => content.span
  | .typeMember content => content.span
  | .typeParameter content => content.span
  | .parameter content => content.span
  | .functionBody content => content.span
  | .objectProperty content => content.span
  | .propertyKey content => content.span

def children : Node → List Node
  | .program content => content.statements.map .statement
  | .statement content => content.children
  | .type content => content.children
  | .expression content => content.children
  | .identifier _ | .literal _ | .moduleName _ | .functionBody _ => []
  | .importSpecifier content | .exportSpecifier content =>
      content.propertyName.toList.map .identifier ++ [.identifier content.name]
  | .typeMember content => content.children
  | .typeParameter content => content.children
  | .parameter content => content.children
  | .objectProperty (.assignment _ key value) => [.propertyKey key, .expression value]
  | .objectProperty (.shorthand _ name) => [.identifier name]
  | .propertyKey (.identifier name) => [.identifier name]
  | .propertyKey (.literal constant) => [.literal constant]

end Node

/-! A child is smaller than its parent. -/

private theorem sizeOf_lt_of_mem_list {α : Type} [SizeOf α] {value : α} {values : List α}
    (member : value ∈ values) : sizeOf value < sizeOf values :=
  List.sizeOf_lt_of_mem member

private theorem sizeOf_lt_of_mem_getD {α : Type} [SizeOf α] {value : α}
    {values : Option (List α)} (member : value ∈ values.getD []) :
    sizeOf value < sizeOf values := by
  cases values with
  | none => simp at member
  | some list =>
      have less : sizeOf value < sizeOf list := List.sizeOf_lt_of_mem member
      simp only [Option.some.sizeOf_spec]
      omega

private theorem sizeOf_lt_of_mem_toList {α : Type} [SizeOf α] {value : α} {values : Option α}
    (member : value ∈ values.toList) : sizeOf value < sizeOf values := by
  cases values with
  | none => simp at member
  | some other =>
      simp only [Option.toList_some, List.mem_singleton] at member
      simp [member]

attribute [local grind =] Node.program.sizeOf_spec Node.statement.sizeOf_spec Node.type.sizeOf_spec
  Node.expression.sizeOf_spec Node.identifier.sizeOf_spec Node.literal.sizeOf_spec
  Node.moduleName.sizeOf_spec Node.importSpecifier.sizeOf_spec Node.exportSpecifier.sizeOf_spec
  Node.typeMember.sizeOf_spec Node.typeParameter.sizeOf_spec Node.parameter.sizeOf_spec
  Node.functionBody.sizeOf_spec Node.objectProperty.sizeOf_spec Node.propertyKey.sizeOf_spec

attribute [local grind →] sizeOf_lt_of_mem_list sizeOf_lt_of_mem_getD sizeOf_lt_of_mem_toList

private theorem Statement.sizeOf_lt {statement : Statement} {child : Node}
    (member : child ∈ statement.children) : sizeOf child < sizeOf (Node.statement statement) := by
  cases statement with
  | importing declaration =>
      cases declaration
      grind [children, Statement.importing.sizeOf_spec, ImportDeclaration.mk.sizeOf_spec]
  | exporting => grind [children, Statement.exporting.sizeOf_spec]
  | exportingNames => grind [children, Statement.exportingNames.sizeOf_spec]
  | exportingDefault => grind [children, Statement.exportingDefault.sizeOf_spec]
  | interface declaration =>
      cases declaration
      grind [children, Statement.interface.sizeOf_spec, InterfaceDeclaration.mk.sizeOf_spec]
  | typeAlias declaration =>
      cases declaration
      grind [children, Statement.typeAlias.sizeOf_spec, TypeAlias.mk.sizeOf_spec]
  | function declaration =>
      cases declaration
      grind [children, Statement.function.sizeOf_spec, FunctionDeclaration.mk.sizeOf_spec]
  | binding declaration =>
      cases declaration
      grind [children, Statement.binding.sizeOf_spec, VariableDeclaration.mk.sizeOf_spec]
  | expression => grind [children, Statement.expression.sizeOf_spec]
  | returning => grind [children, Statement.returning.sizeOf_spec]
  | empty => grind [children]

private theorem TypeExpr.sizeOf_lt {type : TypeExpr} {child : Node}
    (member : child ∈ type.children) : sizeOf child < sizeOf (Node.type type) := by
  cases type with
  | named => grind [children, TypeExpr.named.sizeOf_spec]
  | primitive => grind [children]
  | literal => grind [children, TypeExpr.literal.sizeOf_spec]
  | union => grind [children, TypeExpr.union.sizeOf_spec]
  | intersection => grind [children, TypeExpr.intersection.sizeOf_spec]
  | array => grind [children, TypeExpr.array.sizeOf_spec]
  | parenthesized => grind [children, TypeExpr.parenthesized.sizeOf_spec]
  | object => grind [children, TypeExpr.object.sizeOf_spec]
  | tuple => grind [children, TypeExpr.tuple.sizeOf_spec]
  | function => grind [children, TypeExpr.function.sizeOf_spec]

private theorem TypeMember.sizeOf_lt {typeMember : TypeMember} {child : Node}
    (member : child ∈ typeMember.children) :
    sizeOf child < sizeOf (Node.typeMember typeMember) := by
  cases typeMember with
  | property => grind [children, TypeMember.property.sizeOf_spec]
  | method => grind [children, TypeMember.method.sizeOf_spec]

private theorem Expression.sizeOf_lt {expression : Expression} {child : Node}
    (member : child ∈ expression.children) :
    sizeOf child < sizeOf (Node.expression expression) := by
  cases expression with
  | identifier => grind [children]
  | literal => grind [children]
  | call => grind [children, Expression.call.sizeOf_spec]
  | new => grind [children, Expression.new.sizeOf_spec]
  | binary => grind [children, Expression.binary.sizeOf_spec]
  | unary => grind [children, Expression.unary.sizeOf_spec]
  | conditional => grind [children, Expression.conditional.sizeOf_spec]
  | property => grind [children, Expression.property.sizeOf_spec]
  | element => grind [children, Expression.element.sizeOf_spec]
  | instantiation => grind [children, Expression.instantiation.sizeOf_spec]
  | object => grind [children, Expression.object.sizeOf_spec]
  | array => grind [children, Expression.array.sizeOf_spec]
  | parenthesized => grind [children, Expression.parenthesized.sizeOf_spec]
  | arrow _ _ _ body =>
      cases body <;>
        grind [children, Expression.arrow.sizeOf_spec, ArrowBody.block.sizeOf_spec,
          ArrowBody.expression.sizeOf_spec]

namespace Node

theorem sizeOf_lt_of_mem_children {node child : Node} (member : child ∈ node.children) :
    sizeOf child < sizeOf node := by
  cases node with
  | program content =>
      cases content
      grind [children, Program.mk.sizeOf_spec]
  | statement => exact Statement.sizeOf_lt member
  | type => exact TypeExpr.sizeOf_lt member
  | expression => exact Expression.sizeOf_lt member
  | identifier => grind [children]
  | literal => grind [children]
  | moduleName => grind [children]
  | importSpecifier content =>
      cases content
      grind [children, Specifier.mk.sizeOf_spec]
  | exportSpecifier content =>
      cases content
      grind [children, Specifier.mk.sizeOf_spec]
  | typeMember => exact TypeMember.sizeOf_lt member
  | typeParameter content =>
      cases content
      grind [children, TypeParameter.children, TypeParameter.mk.sizeOf_spec]
  | parameter content =>
      cases content
      grind [children, Parameter.children, Parameter.mk.sizeOf_spec]
  | functionBody => grind [children]
  | objectProperty content =>
      cases content <;>
        grind [children, ObjectProperty.assignment.sizeOf_spec,
          ObjectProperty.shorthand.sizeOf_spec]
  | propertyKey content =>
      cases content <;>
        grind [children, PropertyKey.identifier.sizeOf_spec, PropertyKey.literal.sizeOf_spec]

theorem induction {motive : Node → Prop}
    (step : ∀ node, (∀ child ∈ node.children, motive child) → motive node) (node : Node) :
    motive node :=
  step node fun child _ => induction step child
termination_by node
decreasing_by exact sizeOf_lt_of_mem_children ‹_›

/-! Walks over the tree. -/

/-- The nodes at and below a node, each before its children, with their depths below some root. -/
def walk (depth : Nat) (node : Node) : List (Nat × Node) :=
  (depth, node) :: node.children.attach.flatMap fun ⟨child, _⟩ => child.walk (depth + 1)
termination_by node
decreasing_by exact sizeOf_lt_of_mem_children ‹_›

def preorder (node : Node) : List Node :=
  node :: node.children.attach.flatMap fun ⟨child, _⟩ => child.preorder
termination_by node
decreasing_by exact sizeOf_lt_of_mem_children ‹_›

theorem preorder_eq (node : Node) :
    node.preorder = node :: node.children.flatMap preorder := by
  rw [preorder]
  simp

end Node

end TypedScript
