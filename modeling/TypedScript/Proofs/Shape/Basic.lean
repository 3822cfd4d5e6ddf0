import TypedScript.Parser.Expressions
import TypedScript.Proofs.Depth.Basic
import TypedScript.Proofs.Printing

/-!
The shape of trees. Texts leave no choice in how their parts are grouped: lists of types are flat,
nothing follows the result of a function type, and operators group their operands by how tightly
they bind. What that comes to is said of one node at a time, and then of all nodes of a tree.
-/

namespace TypedScript

/-! Types. -/

namespace TypeExpr

def isElement : TypeExpr → Bool
  | .union .. | .intersection .. | .function .. => false
  | _ => true

/-- Lists of types are flat and no shorter than they must be. The result of a function type takes
all that it can, so a function type stands at the end of a list only, and never before `[]`. -/
def Canonical : TypeExpr → Prop
  | .named _ _ arguments => arguments ≠ some []
  | .union _ members =>
      2 ≤ members.length ∧ (∀ member ∈ members, member.isUnion = false) ∧
        ∀ member ∈ members.dropLast, ¬member.EndsInFunction
  | .intersection _ members =>
      2 ≤ members.length ∧
        (∀ member ∈ members, member.isUnion = false ∧ member.isIntersection = false) ∧
        ∀ member ∈ members.dropLast, ¬member.EndsInFunction
  | .array _ element => element.isElement = true
  | _ => True

variable {type : TypeExpr}

theorem isElement_of_not_endsInFunction (noUnion : type.isUnion = false)
    (noIntersection : type.isIntersection = false) (endsElse : ¬type.EndsInFunction) :
    type.isElement = true := by
  cases type with
  | union => cases noUnion
  | intersection => cases noIntersection
  | function => exact absurd .function endsElse
  | _ => rfl

end TypeExpr

/-! Expressions. -/

namespace Expression

def typeArguments? : Expression → Option (List TypeExpr)
  | .call _ _ typeArguments _ | .new _ _ typeArguments _ => typeArguments
  | .instantiation _ _ typeArguments => some typeArguments
  | _ => none

/-- Whether an assignment may store into the expression: no arrow function and no assignment. -/
def isTarget : Expression → Bool
  | .arrow .. => false
  | .binary _ _ mark _ => !mark.isAssignment
  | _ => true

/-- Whether the expression may be an operand, or the condition of a conditional: no arrow function,
no conditional and no assignment. -/
def isOperand : Expression → Bool
  | .arrow .. | .conditional .. => false
  | .binary _ _ mark _ => !mark.isAssignment
  | _ => true

def isUnaryOperand : Expression → Bool
  | .arrow .. | .conditional .. | .binary .. => false
  | _ => true

/-- Whether an access, a call or type arguments may follow the expression. -/
def isBase : Expression → Bool
  | .arrow .. | .conditional .. | .binary .. | .unary .. => false
  | _ => true

/-- Whether `new` may stand before the expression, without parentheses around it. -/
def isConstructor : Expression → Bool
  | .arrow .. | .conditional .. | .binary .. | .unary .. | .call .. | .instantiation .. => false
  | _ => true

/-- If the expression is a binary one, its operator binds at least as tightly as `precedence`
says. -/
def BindsFrom (precedence : Nat) : Expression → Prop
  | .binary _ _ mark _ => ∃ own, mark.precedence? = some own ∧ precedence ≤ own
  | _ => True

/-- The parts of an expression bind more tightly than the expression itself. Operators that bind
equally tightly are grouped from the left. -/
def Grouped : Expression → Prop
  | .binary _ left mark right =>
      if mark.isAssignment then left.isTarget = true
      else
        left.isOperand = true ∧ right.isOperand = true ∧
          ∃ precedence, mark.precedence? = some precedence ∧ left.BindsFrom precedence ∧
            right.BindsFrom (precedence + 1)
  | .conditional _ condition _ _ => condition.isOperand = true
  | .unary _ _ operand => operand.isUnaryOperand = true
  | .property _ base _ _ | .element _ base _ | .call _ base _ _ | .instantiation _ base _ =>
      base.isBase = true
  | .new _ callee _ _ => callee.isConstructor = true
  | _ => True

variable {value : Expression}

theorem isBase_of_isConstructor (isConstructor : value.isConstructor = true) :
    value.isBase = true := by
  cases value <;> first | rfl | cases isConstructor

theorem isUnaryOperand_of_isBase (isBase : value.isBase = true) : value.isUnaryOperand = true := by
  cases value <;> first | rfl | cases isBase

theorem isOperand_of_isUnaryOperand (isUnaryOperand : value.isUnaryOperand = true) :
    value.isOperand = true := by
  cases value <;> first | rfl | cases isUnaryOperand

theorem isTarget_of_isOperand (isOperand : value.isOperand = true) : value.isTarget = true := by
  cases value with
  | arrow => cases isOperand
  | binary => exact isOperand
  | _ => rfl

theorem bindsFrom_of_isUnaryOperand (isUnaryOperand : value.isUnaryOperand = true)
    (precedence : Nat) : value.BindsFrom precedence := by
  cases value with
  | binary => cases isUnaryOperand
  | _ => trivial

def isHead (allowCalls : Bool) (value : Expression) : Bool :=
  if allowCalls then value.isBase else value.isConstructor

theorem isBase_of_isHead {allowCalls : Bool} (isHead : value.isHead allowCalls = true) :
    value.isBase = true := by
  cases allowCalls with
  | false => exact isBase_of_isConstructor isHead
  | true => exact isHead

theorem isHead_of_isConstructor {allowCalls : Bool} (isConstructor : value.isConstructor = true) :
    value.isHead allowCalls = true := by
  cases allowCalls with
  | false => exact isConstructor
  | true => exact isBase_of_isConstructor isConstructor

end Expression

/-! All nodes of a tree. -/

namespace Node

def Everywhere (holds : Node → Prop) (node : Node) : Prop :=
  ∀ below ∈ node.preorder, holds below

/-- Types are in canonical shape, and no list of type arguments is empty. -/
def Canonical : Node → Prop
  | .type content => content.Canonical
  | .expression content => content.typeArguments? ≠ some []
  | _ => True

def Grouped : Node → Prop
  | .expression content => content.Grouped
  | _ => True

structure WellShaped (node : Node) : Prop where
  canonical : node.Canonical
  grouped : node.Grouped

variable {holds : Node → Prop} {node : Node}

theorem everywhere_iff :
    node.Everywhere holds ↔ holds node ∧ ∀ child ∈ node.children, child.Everywhere holds := by
  unfold Everywhere
  rw [preorder_eq, List.forall_mem_cons]
  refine and_congr_right fun _ => ?_
  constructor
  · intro below child member inner found
    exact below inner (List.mem_flatMap.mpr ⟨child, member, found⟩)
  · intro below inner found
    rcases List.mem_flatMap.mp found with ⟨child, member, found⟩
    exact below child member inner found

end Node

abbrev Shaped {α : Type} (node : α → Node) (value : α) : Prop :=
  (node value).Everywhere Node.WellShaped

namespace Node

variable {node : Node}

theorem shaped_type {type : TypeExpr} (canonical : type.Canonical)
    (below : ∀ child ∈ type.children, child.Everywhere WellShaped) : Shaped .type type :=
  everywhere_iff.mpr ⟨⟨canonical, trivial⟩, below⟩

theorem shaped_expression {value : Expression} (typeArguments : value.typeArguments? ≠ some [])
    (grouped : value.Grouped) (below : ∀ child ∈ value.children, child.Everywhere WellShaped) :
    Shaped .expression value :=
  everywhere_iff.mpr ⟨⟨typeArguments, grouped⟩, below⟩

theorem shaped_untyped {value : Expression} (untyped : value.typeArguments? = none)
    (grouped : value.Grouped) (below : ∀ child ∈ value.children, child.Everywhere WellShaped) :
    Shaped .expression value := by
  refine shaped_expression ?_ grouped below
  rw [untyped]
  exact (Option.some_ne_none _).symm

theorem shaped_plain (plain : node.counts = false)
    (below : ∀ child ∈ node.children, child.Everywhere WellShaped) :
    node.Everywhere WellShaped := by
  refine everywhere_iff.mpr ⟨?_, below⟩
  cases node with
  | type => cases plain
  | expression => cases plain
  | _ => exact ⟨trivial, trivial⟩

theorem shaped_leaf (plain : node.counts = false) (isLeaf : node.children = []) :
    node.Everywhere WellShaped := by
  refine shaped_plain plain fun child member => ?_
  rw [isLeaf] at member
  cases member

@[simp] theorem shaped_identifier (name : Identifier) : Shaped .identifier name :=
  shaped_leaf rfl rfl

@[simp] theorem shaped_literal (constant : Literal) : Shaped .literal constant :=
  shaped_leaf rfl rfl

@[simp] theorem shaped_functionBody (body : FunctionBody) : Shaped .functionBody body :=
  shaped_leaf rfl rfl

@[simp] theorem shaped_moduleName (name : ModuleName) : Shaped .moduleName name :=
  shaped_leaf rfl rfl

end Node

structure ShapedAs (isClass : Expression → Bool) (value : Expression) : Prop where
  shaped : Shaped .expression value
  ofClass : isClass value = true

theorem ShapedAs.imp {isClass isWider : Expression → Bool} {value : Expression}
    (shaped : ShapedAs isClass value) (wider : isClass value = true → isWider value = true) :
    ShapedAs isWider value :=
  ⟨shaped.shaped, wider shaped.ofClass⟩

structure ShapedArguments (arguments : List TypeExpr) : Prop where
  shaped : ∀ type ∈ arguments, Shaped .type type
  notEmpty : arguments ≠ []

theorem shapedArguments_getD {found : Option (List TypeExpr)}
    (shaped : ∀ arguments ∈ found, ShapedArguments arguments) :
    found ≠ some [] ∧ ∀ type ∈ found.getD [], Shaped .type type := by
  refine ⟨?_, forall_mem_getD fun list member => (shaped list member).shaped⟩
  rintro rfl
  exact (shaped [] rfl).notEmpty rfl

/-! What comes next after a tree. -/

namespace Cursor

def AtMark (mark : Punctuator) (cursor : Cursor) : Prop :=
  ∃ token, cursor.peek 0 = .ok token ∧ token.isMark mark = true

def AtArray (cursor : Cursor) : Prop :=
  ∃ first second, cursor.peek 0 = .ok first ∧
    (first.isMark .openBracket && !first.afterLineBreak) = true ∧
    cursor.peek 1 = .ok second ∧ second.kind = .punctuator .closeBracket

structure EndsType (cursor : Cursor) : Prop where
  noArray : ¬ cursor.AtArray
  noIntersection : ¬ cursor.AtMark .ampersand
  noUnion : ¬ cursor.AtMark .bar

def BindsUpTo (minimum : Nat) (cursor : Cursor) : Prop :=
  ∀ operator place, Parse.binaryOperator? cursor = .ok (some operator) place →
    operator.precedence ≤ minimum

end Cursor

/-- Whatever the parser yields has the property together with the place behind it. -/
structure Leaves {α : Type} (parser : Parse α) (holds : α → Cursor → Prop) : Prop where
  of_ok {before after : Cursor} {value : α} : parser before = .ok value after → holds value after

namespace Leaves

open Parse

variable {α β : Type} {holds : α → Cursor → Prop} {parser : Parse α} {next : α → Parse β}
  {result : β → Cursor → Prop}

theorem yields (leaves : Leaves parser holds) {satisfied : α → Prop}
    (implies : ∀ value after, holds value after → satisfied value) : Yields parser satisfied :=
  ⟨fun parsed => implies _ _ (leaves.of_ok parsed)⟩

theorem andThen (later : ∀ value, Leaves (next value) result) :
    Leaves (parser >>= next) result := by
  refine ⟨fun parsed => ?_⟩
  rcases bind_eq_ok.mp parsed with ⟨middle, between, _, parsed⟩
  exact (later middle).of_ok parsed

end Leaves

structure TypeExpr.EndsPrimary (type : TypeExpr) (after : Cursor) : Prop where
  shaped : Shaped .type type
  noUnion : type.isUnion = false
  noIntersection : type.isIntersection = false
  closed : type.EndsInFunction → after.EndsType

structure TypeExpr.EndsPostfix (type : TypeExpr) (after : Cursor) : Prop
    extends type.EndsPrimary after where
  noArray : ¬ after.AtArray

structure TypeExpr.EndsIntersection (type : TypeExpr) (after : Cursor) : Prop where
  shaped : Shaped .type type
  noUnion : type.isUnion = false
  noArray : ¬ after.AtArray
  noMore : ¬ after.AtMark .ampersand
  closed : type.EndsInFunction → after.EndsType

structure ShapedElement (type : TypeExpr) : Prop where
  shaped : Shaped .type type
  isElement : type.isElement = true

theorem ShapedElement.endsPrimary {type : TypeExpr} {after : Cursor}
    (element : ShapedElement type) :
    type.EndsPrimary after := by
  rcases element with ⟨shaped, isElement⟩
  cases type with
  | union => cases isElement
  | intersection => cases isElement
  | function => cases isElement
  | _ => exact ⟨shaped, rfl, rfl, nofun⟩

theorem Yields.leavesPrimary {parser : Parse TypeExpr} (yields : Yields parser ShapedElement) :
    Leaves parser TypeExpr.EndsPrimary :=
  ⟨fun parsed => (yields.of_ok parsed).endsPrimary⟩

structure TypeExpr.EndsUnion (type : TypeExpr) (after : Cursor) : Prop where
  shaped : Shaped .type type
  ends : after.EndsType

/-- Operands whose operators bind tighter than `minimum`, and the place behind them. -/
structure Expression.EndsBinary (minimum : Nat) (value : Expression) (after : Cursor) : Prop
    extends ShapedAs Expression.isOperand value where
  binds : value.BindsFrom (minimum + 1)
  noMore : after.BindsUpTo minimum

structure Level.Shaping (level : Level) : Prop where
  type : Leaves level.type TypeExpr.EndsUnion
  arraySuffix {start : Nat} {element : TypeExpr} :
    ShapedElement element → Leaves (level.arraySuffix start element) TypeExpr.EndsPostfix
  assignment : Yields level.assignment (Shaped .expression)
  unary : Yields level.unary (ShapedAs Expression.isUnaryOperand)
  newExpression : Yields level.newExpression (ShapedAs Expression.isConstructor)
  operator {start minimum width precedence : Nat} {left : Expression} {mark : Punctuator} :
    ShapedAs Expression.isOperand left → mark.precedence? = some precedence →
    left.BindsFrom precedence → minimum < precedence →
    Leaves (level.operator start minimum left mark width precedence)
      (Expression.EndsBinary minimum)
  suffix {start : Nat} {allowCalls : Bool} {base value : Expression} {before after : Cursor} :
    ShapedAs (Expression.isHead allowCalls) base →
    (allowCalls = true ∨ ¬ before.AtMark .openParen) →
    level.suffix start allowCalls base before = .ok value after →
    ShapedAs (Expression.isHead allowCalls) value
  typedSuffix {start : Nat} {base : Expression} {typeArguments : List TypeExpr} :
    ShapedAs Expression.isBase base → ShapedArguments typeArguments →
    Yields (level.typedSuffix start true base typeArguments) (ShapedAs Expression.isBase)

namespace Nesting

structure Shaping (nesting : Nesting) : Prop where
  inner {level : Level} : nesting.inner = some level → level.Shaping
  reading : nesting.Reading

variable {nesting : Nesting} {α : Type}

theorem Shaping.enter (shaping : nesting.Shaping) {expected : Expected} {next : Level → Parse α}
    {holds : α → Prop} (deeper : ∀ level, level.Shaping → Yields (next level) holds) :
    Yields (nesting.enter expected >>= next) holds := by
  refine ⟨fun parsed => ?_⟩
  rcases Parse.bind_eq_ok.mp parsed with ⟨level, between, entered, parsed⟩
  exact (deeper level (shaping.inner (enter_eq_ok.mp entered).1)).of_ok parsed

theorem Shaping.enterLeaving (shaping : nesting.Shaping) {expected : Expected}
    {next : Level → Parse α} {holds : α → Cursor → Prop}
    (deeper : ∀ level, level.Shaping → Leaves (next level) holds) :
    Leaves (nesting.enter expected >>= next) holds := by
  refine ⟨fun parsed => ?_⟩
  rcases Parse.bind_eq_ok.mp parsed with ⟨level, between, entered, parsed⟩
  exact (deeper level (shaping.inner (enter_eq_ok.mp entered).1)).of_ok parsed

theorem Shaping.typeLeaving (shaping : nesting.Shaping) : Leaves nesting.type TypeExpr.EndsUnion :=
  shaping.enterLeaving fun _ level => level.type

theorem Shaping.type (shaping : nesting.Shaping) : Yields nesting.type (Shaped .type) :=
  shaping.typeLeaving.yields fun _ _ => TypeExpr.EndsUnion.shaped

theorem Shaping.expression (shaping : nesting.Shaping) :
    Yields nesting.expression (Shaped .expression) :=
  shaping.enter fun _ level => level.assignment

end Nesting

end TypedScript
