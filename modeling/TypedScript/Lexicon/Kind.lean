import TypedScript.Lexicon.TokenKind

/-!
The kinds of tokens and nodes under one numbering, as listings and trees name them.
-/

namespace TypedScript

/-- The kinds of nodes. Names, strings and numbers have the kind of their token instead. -/
inductive NodeKind where
  | program
  | importDeclaration
  | importSpecifier
  | exportDeclaration
  | exportSpecifier
  | interfaceDeclaration
  | propertySignature
  | methodSignature
  | typeAliasDeclaration
  | functionDeclaration
  | functionBody
  | typeParameter
  | parameter
  | variableDeclaration
  | expressionStatement
  | returnStatement
  | emptyStatement
  | typeReference
  | keywordType
  | literalType
  | unionType
  | intersectionType
  | arrayType
  | parenthesizedType
  | typeLiteral
  | tupleType
  | functionType
  | trueLiteral
  | falseLiteral
  | nullLiteral
  | callExpression
  | newExpression
  | binaryExpression
  | prefixUnaryExpression
  | conditionalExpression
  | propertyAccessExpression
  | elementAccessExpression
  | instantiationExpression
  | objectLiteralExpression
  | propertyAssignment
  | shorthandPropertyAssignment
  | arrayLiteralExpression
  | parenthesizedExpression
  | arrowFunction
deriving DecidableEq, Repr

namespace NodeKind

def name : NodeKind → String
  | .program => "Program"
  | .importDeclaration => "ImportDeclaration"
  | .importSpecifier => "ImportSpecifier"
  | .exportDeclaration => "ExportDeclaration"
  | .exportSpecifier => "ExportSpecifier"
  | .interfaceDeclaration => "InterfaceDeclaration"
  | .propertySignature => "PropertySignature"
  | .methodSignature => "MethodSignature"
  | .typeAliasDeclaration => "TypeAliasDeclaration"
  | .functionDeclaration => "FunctionDeclaration"
  | .functionBody => "FunctionBody"
  | .typeParameter => "TypeParameter"
  | .parameter => "Parameter"
  | .variableDeclaration => "VariableDeclaration"
  | .expressionStatement => "ExpressionStatement"
  | .returnStatement => "ReturnStatement"
  | .emptyStatement => "EmptyStatement"
  | .typeReference => "TypeReference"
  | .keywordType => "KeywordType"
  | .literalType => "LiteralType"
  | .unionType => "UnionType"
  | .intersectionType => "IntersectionType"
  | .arrayType => "ArrayType"
  | .parenthesizedType => "ParenthesizedType"
  | .typeLiteral => "TypeLiteral"
  | .tupleType => "TupleType"
  | .functionType => "FunctionType"
  | .trueLiteral => "TrueLiteral"
  | .falseLiteral => "FalseLiteral"
  | .nullLiteral => "NullLiteral"
  | .callExpression => "CallExpression"
  | .newExpression => "NewExpression"
  | .binaryExpression => "BinaryExpression"
  | .prefixUnaryExpression => "PrefixUnaryExpression"
  | .conditionalExpression => "ConditionalExpression"
  | .propertyAccessExpression => "PropertyAccessExpression"
  | .elementAccessExpression => "ElementAccessExpression"
  | .instantiationExpression => "InstantiationExpression"
  | .objectLiteralExpression => "ObjectLiteralExpression"
  | .propertyAssignment => "PropertyAssignment"
  | .shorthandPropertyAssignment => "ShorthandPropertyAssignment"
  | .arrayLiteralExpression => "ArrayLiteralExpression"
  | .parenthesizedExpression => "ParenthesizedExpression"
  | .arrowFunction => "ArrowFunction"

def all : List NodeKind := [
    .program, .importDeclaration, .importSpecifier, .exportDeclaration, .exportSpecifier,
    .interfaceDeclaration, .propertySignature, .methodSignature, .typeAliasDeclaration,
    .functionDeclaration, .functionBody, .typeParameter, .parameter, .variableDeclaration,
    .expressionStatement, .returnStatement, .emptyStatement, .typeReference, .keywordType,
    .literalType, .unionType, .intersectionType, .arrayType, .parenthesizedType, .typeLiteral,
    .tupleType, .functionType, .trueLiteral, .falseLiteral, .nullLiteral, .callExpression,
    .newExpression, .binaryExpression, .prefixUnaryExpression, .conditionalExpression,
    .propertyAccessExpression, .elementAccessExpression, .instantiationExpression,
    .objectLiteralExpression, .propertyAssignment, .shorthandPropertyAssignment,
    .arrayLiteralExpression, .parenthesizedExpression, .arrowFunction]

theorem mem_all (kind : NodeKind) : kind ∈ all := by
  cases kind <;> decide

end NodeKind

inductive Kind where
  | unknown
  | token (kind : TokenKind)
  | node (kind : NodeKind)
deriving DecidableEq, Repr

namespace Kind

def name : Kind → String
  | .unknown => "Unknown"
  | .token kind => kind.name
  | .node kind => kind.name

/-- What messages call a kind: the spelling of a token that has only one, a noun for other tokens,
and the name of a node. -/
def title : Kind → String
  | .unknown => "Unknown"
  | .token kind => kind.title
  | .node kind => kind.name

def all : List Kind :=
  .unknown :: TokenKind.all.map .token ++ NodeKind.all.map .node

theorem mem_all (kind : Kind) : kind ∈ all := by
  cases kind with
  | unknown => simp [all]
  | token kind => simp [all, TokenKind.mem_all]
  | node kind => simp [all, NodeKind.mem_all]

def index (kind : Kind) : Nat :=
  all.idxOf kind

def ofName? (name : String) : Option Kind :=
  all.find? (·.name == name)

def tokenKind? : Kind → Option TokenKind
  | .token kind => some kind
  | _ => none

end Kind

end TypedScript
