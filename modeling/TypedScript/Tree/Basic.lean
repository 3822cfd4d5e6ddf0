import TypedScript.Lexicon.Kind
import TypedScript.Text.Span

/-!
The syntax tree. Every node holds the range of source text that it was read from, and no node
refers to the text itself. Bodies of functions are not read: a body only records where it stands
and how many tokens it holds.
-/

namespace TypedScript

/-! Names and literals. -/

structure Identifier where
  span : Span
  text : String
deriving DecidableEq, Repr

/-- What a literal denotes. Numbers keep their digits. -/
inductive LiteralValue where
  | string (value : String)
  | number (digits : String)
  | boolean (value : Bool)
  | null
deriving DecidableEq, Repr

structure Literal where
  span : Span
  value : LiteralValue
deriving DecidableEq, Repr

structure ModuleName where
  span : Span
  value : String
deriving DecidableEq, Repr

inductive Primitive where
  | any
  | bigint
  | boolean
  | never
  | number
  | object
  | string
  | symbol
  | undefined
  | unknown
  | void
deriving DecidableEq, Repr

namespace Primitive

def spelling : Primitive → String
  | .any => "any"
  | .bigint => "bigint"
  | .boolean => "boolean"
  | .never => "never"
  | .number => "number"
  | .object => "object"
  | .string => "string"
  | .symbol => "symbol"
  | .undefined => "undefined"
  | .unknown => "unknown"
  | .void => "void"

def name : Primitive → String
  | .any => "Any"
  | .bigint => "BigInt"
  | .boolean => "Boolean"
  | .never => "Never"
  | .number => "Number"
  | .object => "Object"
  | .string => "String"
  | .symbol => "Symbol"
  | .undefined => "Undefined"
  | .unknown => "Unknown"
  | .void => "Void"

def all : List Primitive := [
    .any, .bigint, .boolean, .never, .number, .object, .string, .symbol, .undefined, .unknown,
    .void]

theorem mem_all (primitive : Primitive) : primitive ∈ all := by
  cases primitive <;> decide

def ofSpelling? (text : String) : Option Primitive :=
  all.find? (·.spelling == text)

end Primitive

/-- A function's braces and the number of tokens between them. -/
structure FunctionBody where
  span : Span
  tokenCount : Nat
deriving DecidableEq, Repr

inductive PropertyKey where
  | identifier (name : Identifier)
  | literal (literal : Literal)
deriving DecidableEq, Repr

/-! Types and expressions. Parameters hold both, so they are defined together. -/

mutual

inductive TypeExpr where
  | named (span : Span) (name : Identifier) (arguments : Option (List TypeExpr))
  | primitive (span : Span) (keyword : Primitive)
  | literal (span : Span) (literal : Literal)
  | union (span : Span) (members : List TypeExpr)
  | intersection (span : Span) (members : List TypeExpr)
  | array (span : Span) (element : TypeExpr)
  | parenthesized (span : Span) (inner : TypeExpr)
  | object (span : Span) (members : List TypeMember)
  | tuple (span : Span) (elements : List TypeExpr)
  | function (span : Span) (typeParameters : List TypeParameter) (parameters : List Parameter)
      (result : TypeExpr)

inductive TypeMember where
  | property (span : Span) (name : Identifier) (optional : Bool) (declaredType : Option TypeExpr)
  | method (span : Span) (name : Identifier) (optional : Bool)
      (typeParameters : List TypeParameter) (parameters : List Parameter)
      (result : Option TypeExpr)

structure TypeParameter where
  span : Span
  name : Identifier
  constraint : Option TypeExpr
  fallback : Option TypeExpr

structure Parameter where
  span : Span
  isRest : Bool
  name : Identifier
  optional : Bool
  declaredType : Option TypeExpr
  initializer : Option Expression

inductive Expression where
  | identifier (name : Identifier)
  | literal (literal : Literal)
  | call (span : Span) (callee : Expression) (typeArguments : Option (List TypeExpr))
      (arguments : List Expression)
  /-- `new C` has no arguments at all, `new C()` has none between its parentheses. -/
  | new (span : Span) (callee : Expression) (typeArguments : Option (List TypeExpr))
      (arguments : Option (List Expression))
  | binary (span : Span) (left : Expression) (operator : Punctuator) (right : Expression)
  | unary (span : Span) (operator : Punctuator) (operand : Expression)
  | conditional (span : Span) (condition whenTrue whenFalse : Expression)
  | property (span : Span) (object : Expression) (name : Identifier) (optional : Bool)
  | element (span : Span) (object index : Expression)
  | instantiation (span : Span) (expression : Expression) (typeArguments : List TypeExpr)
  | object (span : Span) (properties : List ObjectProperty)
  | array (span : Span) (elements : List Expression)
  | parenthesized (span : Span) (inner : Expression)
  | arrow (span : Span) (parameters : List Parameter) (result : Option TypeExpr)
      (body : ArrowBody)

inductive ArrowBody where
  | block (body : FunctionBody)
  | expression (value : Expression)

/-- `key: value`, or a name that is both. -/
inductive ObjectProperty where
  | assignment (span : Span) (key : PropertyKey) (value : Expression)
  | shorthand (span : Span) (name : Identifier)

end

/-! Statements. -/

/-- `name` or `property as name` in the braces of an import or export. -/
structure Specifier where
  span : Span
  propertyName : Option Identifier
  name : Identifier
deriving DecidableEq, Repr

structure ImportDeclaration where
  span : Span
  defaultBinding : Option Identifier
  namespaceBinding : Option Identifier
  namedBindings : List Specifier
  source : ModuleName
deriving DecidableEq, Repr

structure InterfaceDeclaration where
  span : Span
  name : Identifier
  typeParameters : List TypeParameter
  extended : List TypeExpr
  members : List TypeMember

structure TypeAlias where
  span : Span
  name : Identifier
  typeParameters : List TypeParameter
  aliased : TypeExpr

structure FunctionDeclaration where
  span : Span
  name : Identifier
  typeParameters : List TypeParameter
  parameters : List Parameter
  result : Option TypeExpr
  body : Option FunctionBody

inductive VariableKind where
  | constant
  | mutable
deriving DecidableEq, Repr

structure VariableDeclaration where
  span : Span
  kind : VariableKind
  name : Identifier
  declaredType : Option TypeExpr
  initializer : Option Expression

inductive Statement where
  | importing (declaration : ImportDeclaration)
  | exporting (span : Span) (declaration : Statement)
  | exportingNames (span : Span) (specifiers : List Specifier) (source : Option ModuleName)
  | exportingDefault (span : Span) (expression : Expression)
  | interface (declaration : InterfaceDeclaration)
  | typeAlias (declaration : TypeAlias)
  | function (declaration : FunctionDeclaration)
  | binding (declaration : VariableDeclaration)
  | expression (span : Span) (expression : Expression)
  | returning (span : Span) (expression : Option Expression)
  | empty (span : Span)

structure Program where
  span : Span
  statements : List Statement

/-! Kinds and ranges. -/

namespace LiteralValue

def kind : LiteralValue → Kind
  | .string _ => .token .stringLiteral
  | .number _ => .token .numericLiteral
  | .boolean true => .node .trueLiteral
  | .boolean false => .node .falseLiteral
  | .null => .node .nullLiteral

end LiteralValue

namespace PropertyKey

def kind : PropertyKey → Kind
  | .identifier _ => .token .identifier
  | .literal constant => constant.value.kind

def span : PropertyKey → Span
  | .identifier name => name.span
  | .literal constant => constant.span

end PropertyKey

namespace TypeExpr

def kind : TypeExpr → NodeKind
  | .named .. => .typeReference
  | .primitive .. => .keywordType
  | .literal .. => .literalType
  | .union .. => .unionType
  | .intersection .. => .intersectionType
  | .array .. => .arrayType
  | .parenthesized .. => .parenthesizedType
  | .object .. => .typeLiteral
  | .tuple .. => .tupleType
  | .function .. => .functionType

def span : TypeExpr → Span
  | .named span .. | .primitive span .. | .literal span .. | .union span .. | .intersection span ..
  | .array span .. | .parenthesized span .. | .object span .. | .tuple span ..
  | .function span .. => span

end TypeExpr

namespace TypeMember

def kind : TypeMember → NodeKind
  | .property .. => .propertySignature
  | .method .. => .methodSignature

def span : TypeMember → Span
  | .property span .. | .method span .. => span

def optional : TypeMember → Bool
  | .property _ _ optional _ | .method _ _ optional _ _ _ => optional

end TypeMember

namespace Expression

def kind : Expression → Kind
  | .identifier _ => .token .identifier
  | .literal constant => constant.value.kind
  | .call .. => .node .callExpression
  | .new .. => .node .newExpression
  | .binary .. => .node .binaryExpression
  | .unary .. => .node .prefixUnaryExpression
  | .conditional .. => .node .conditionalExpression
  | .property .. => .node .propertyAccessExpression
  | .element .. => .node .elementAccessExpression
  | .instantiation .. => .node .instantiationExpression
  | .object .. => .node .objectLiteralExpression
  | .array .. => .node .arrayLiteralExpression
  | .parenthesized .. => .node .parenthesizedExpression
  | .arrow .. => .node .arrowFunction

def span : Expression → Span
  | .identifier name => name.span
  | .literal constant => constant.span
  | .call span .. | .new span .. | .binary span .. | .unary span .. | .conditional span ..
  | .property span .. | .element span .. | .instantiation span .. | .object span ..
  | .array span .. | .parenthesized span .. | .arrow span .. => span

end Expression

namespace ObjectProperty

def kind : ObjectProperty → NodeKind
  | .assignment .. => .propertyAssignment
  | .shorthand .. => .shorthandPropertyAssignment

def span : ObjectProperty → Span
  | .assignment span .. | .shorthand span .. => span

end ObjectProperty

namespace VariableKind

def name : VariableKind → String
  | .constant => "Const"
  | .mutable => "Let"

end VariableKind

namespace Statement

def kind : Statement → NodeKind
  | .importing _ => .importDeclaration
  | .exporting .. | .exportingNames .. | .exportingDefault .. => .exportDeclaration
  | .interface _ => .interfaceDeclaration
  | .typeAlias _ => .typeAliasDeclaration
  | .function _ => .functionDeclaration
  | .binding _ => .variableDeclaration
  | .expression .. => .expressionStatement
  | .returning .. => .returnStatement
  | .empty _ => .emptyStatement

def span : Statement → Span
  | .importing declaration => declaration.span
  | .exporting span .. | .exportingNames span .. | .exportingDefault span .. => span
  | .interface declaration => declaration.span
  | .typeAlias declaration => declaration.span
  | .function declaration => declaration.span
  | .binding declaration => declaration.span
  | .expression span .. | .returning span .. | .empty span => span

def declaredName? : Statement → Option Identifier
  | .interface declaration => some declaration.name
  | .typeAlias declaration => some declaration.name
  | .function declaration => some declaration.name
  | .binding declaration => some declaration.name
  | .exporting _ declaration => declaration.declaredName?
  | _ => none

end Statement

/-! Functions on trees go through lists and options by functions of their own. -/

section Containers

variable {α β : Type} {change : α → β}

theorem eq_map_of_cons {changeAll : List α → List β} (nil : changeAll [] = [])
    (cons : ∀ first rest, changeAll (first :: rest) = change first :: changeAll rest)
    (values : List α) : changeAll values = values.map change := by
  induction values with
  | nil => exact nil
  | cons first rest induction => rw [cons, induction, List.map_cons]

theorem eq_map_of_some {change? : Option α → Option β}
    (absent : change? none = none) (present : ∀ value, change? (some value) = some (change value))
    (value : Option α) : change? value = value.map change := by
  cases value with
  | none => exact absent
  | some value => exact present value

end Containers

end TypedScript
