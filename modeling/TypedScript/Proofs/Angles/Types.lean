import TypedScript.Parser.Expressions
import TypedScript.Proofs.Shape.Basic
import TypedScript.Proofs.Traversal

/-!
Types hold no expressions. The grammar would have room for one: a parameter may have an initial
value. But the parameters of types never get any.
-/

namespace TypedScript

namespace Node

def Expressionless (node : Node) : Prop :=
  node.Everywhere fun below => below.isExpression = false

variable {node : Node}

theorem Expressionless.everywhere {holds : Node → Prop} (expressionless : node.Expressionless)
    (others : ∀ node : Node, node.isExpression = false → holds node) : node.Everywhere holds :=
  fun below member => others below (expressionless below member)

theorem expressionless_of_children (noExpression : node.isExpression = false)
    (below : ∀ child ∈ node.children, child.Expressionless) : node.Expressionless :=
  everywhere_iff.mpr ⟨noExpression, below⟩

theorem expressionless_leaf (noExpression : node.isExpression = false)
    (isLeaf : node.children = []) : node.Expressionless := by
  refine expressionless_of_children noExpression fun child member => ?_
  rw [isLeaf] at member
  cases member

@[simp] theorem expressionless_identifier (name : Identifier) :
    (Node.identifier name).Expressionless :=
  expressionless_leaf rfl rfl

@[simp] theorem expressionless_literal (constant : Literal) :
    (Node.literal constant).Expressionless :=
  expressionless_leaf rfl rfl

end Node

abbrev Typing {α : Type} (node : α → Node) (value : α) : Prop :=
  (node value).Expressionless

structure Level.YieldsTypes (level : Level) : Prop where
  type : Yields level.type (Typing .type)
  arraySuffix {start : Nat} {element : TypeExpr} :
    Typing .type element → Yields (level.arraySuffix start element) (Typing .type)

def Nesting.YieldsTypes (nesting : Nesting) : Prop :=
  ∀ level, nesting.inner = some level → level.YieldsTypes

namespace Nesting.YieldsTypes

variable {nesting : Nesting} {α : Type}

theorem enter (yields : nesting.YieldsTypes) {expected : Expected} {next : Level → Parse α}
    {holds : α → Prop} (deeper : ∀ level, level.YieldsTypes → Yields (next level) holds) :
    Yields (nesting.enter expected >>= next) holds := by
  refine ⟨fun parsed => ?_⟩
  rcases Parse.bind_eq_ok.mp parsed with ⟨level, between, entered, parsed⟩
  exact (deeper level (yields level (enter_eq_ok.mp entered).1)).of_ok parsed

theorem type (yields : nesting.YieldsTypes) : Yields nesting.type (Typing .type) :=
  yields.enter fun _ level => level.type

end Nesting.YieldsTypes

open Node

attribute [local grind =] Node.children TypeExpr.children TypeMember.children
  TypeParameter.children Parameter.children

attribute [local grind .] expressionless_identifier expressionless_literal

namespace Parse

variable {nesting : Nesting}

/-! Functions. -/

theorem declaredType?_typing (yields : nesting.YieldsTypes) :
    Yields (declaredType? nesting) fun found => ∀ type ∈ found, Typing .type type :=
  .afterMark .colon yields.type

theorem typeParameter_typing (yields : nesting.YieldsTypes) :
    Yields (typeParameter nesting) (Typing .typeParameter) := by
  apply Yields.andThen
  intro start
  apply Yields.andThen
  intro name
  apply (Yields.afterWord "extends" yields.type).bind
  intro constraint constraintTyping
  apply (Yields.afterMark .equals yields.type).bind
  intro fallback fallbackTyping
  apply Yields.andThen
  intro span
  apply Yields.pure
  refine expressionless_of_children rfl fun child member => ?_
  grind

theorem typeParameters_typing (yields : nesting.YieldsTypes) :
    Yields (typeParameters nesting) fun parameters =>
      ∀ parameter ∈ parameters, Typing .typeParameter parameter := by
  apply Yields.andThen
  intro found
  split
  · have turn : Yields (typeParameterTurn nesting) (Turn.Holds (Typing .typeParameter)) := by
      apply (typeParameter_typing yields).bind
      intro parameter typing
      apply Yields.andThen
      intro found
      split
      · apply Yields.andThen
        intro closing
        split
        · exact .pure typing
        · exact .pure typing
      · exact .pure typing
    apply (Yields.repeated turn).bind
    intro parameters typing
    apply Yields.andThen
    intro closing
    exact .pure typing
  · exact .pure (by simp)

theorem parameter_typing (yields : nesting.YieldsTypes) :
    Yields (parameter nesting false) (Typing .parameter) := by
  have noInitializer : Yields (initializer? nesting false) (· = none) := .pure rfl
  apply Yields.andThen
  intro start
  apply Yields.andThen
  intro isRest
  apply Yields.andThen
  intro name
  apply Yields.andThen
  intro optional
  apply (declaredType?_typing yields).bind
  intro declaredType typing
  apply noInitializer.bind
  rintro _ rfl
  apply Yields.andThen
  intro span
  apply Yields.pure
  refine expressionless_of_children rfl fun child member => ?_
  grind

theorem parameters_typing (yields : nesting.YieldsTypes) :
    Yields (parameters nesting false) fun parameters =>
      ∀ parameter ∈ parameters, Typing .parameter parameter := by
  apply Yields.andThen
  intro opening
  apply (Yields.commaList .closeParen (parameter_typing yields)).bind
  intro parameters typing
  apply Yields.andThen
  intro closing
  exact .pure typing

theorem functionType_typing (yields : nesting.YieldsTypes) :
    Yields (functionType nesting) (Typing .type) := by
  apply Yields.andThen
  intro start
  apply (typeParameters_typing yields).bind
  intro typeParameters typeParametersTyping
  apply (parameters_typing yields).bind
  intro parameters parametersTyping
  apply Yields.andThen
  intro arrow
  apply yields.type.bind
  intro result resultTyping
  apply Yields.andThen
  intro span
  apply Yields.pure
  refine expressionless_of_children rfl fun child member => ?_
  grind

/-! Type arguments and members. -/

theorem requiredType_typing (yields : nesting.YieldsTypes) :
    Yields (requiredType nesting) (Typing .type) := by
  apply Yields.andThen
  intro starts
  exact yields.type

theorem typeArguments_typing (yields : nesting.YieldsTypes) :
    Yields (typeArguments nesting) fun arguments => ∀ type ∈ arguments, Typing .type type := by
  apply Yields.andThen
  intro opening
  apply (Yields.repeated ((requiredType_typing yields).bind fun _ => Yields.commaTurn)).bind
  intro arguments typing
  apply Yields.andThen
  intro closing
  exact .pure typing

theorem typeArguments?_typing (yields : nesting.YieldsTypes) :
    Yields (typeArguments? nesting) fun found =>
      ∀ arguments ∈ found, ∀ type ∈ arguments, Typing .type type := by
  apply Yields.andThen
  intro found
  split
  · exact (typeArguments_typing yields).present
  · exact .absent

theorem typeMember_typing (yields : nesting.YieldsTypes) :
    Yields (typeMember nesting) (Typing .typeMember) := by
  have propertyTyping (start : Nat) (name : Identifier) (optional : Bool) :
      Yields (propertySignature nesting start name optional) (Typing .typeMember) := by
    apply (declaredType?_typing yields).bind
    intro declaredType typing
    apply Yields.andThen
    intro span
    apply Yields.pure
    refine expressionless_of_children rfl fun child member => ?_
    grind
  have methodTyping (start : Nat) (name : Identifier) (optional : Bool) :
      Yields (methodSignature nesting start name optional) (Typing .typeMember) := by
    apply (typeParameters_typing yields).bind
    intro typeParameters typeParametersTyping
    apply (parameters_typing yields).bind
    intro parameters parametersTyping
    apply (declaredType?_typing yields).bind
    intro result resultTyping
    apply Yields.andThen
    intro span
    apply Yields.pure
    refine expressionless_of_children rfl fun child member => ?_
    grind
  apply Yields.andThen
  intro start
  apply Yields.andThen
  intro name
  apply Yields.andThen
  intro optional
  apply Yields.andThen
  intro token
  split
  · exact methodTyping start name optional
  · exact methodTyping start name optional
  · exact propertyTyping start name optional

theorem typeMembers_typing (yields : nesting.YieldsTypes) :
    Yields (typeMembers nesting) fun members => ∀ member ∈ members, Typing .typeMember member := by
  have turn : Yields (memberTurn nesting) (Turn.Holds (Typing .typeMember)) := by
    apply Yields.andThen
    intro token
    split
    · exact .pure trivial
    · exact .unexpected
    · apply (typeMember_typing yields).bind
      intro member typing
      apply Yields.andThen
      intro separated
      exact .pure typing
  apply Yields.andThen
  intro opening
  apply (Yields.repeated turn).bind
  intro members typing
  apply Yields.andThen
  intro closing
  exact .pure typing

/-! All types. -/

theorem typeReference_typing (yields : nesting.YieldsTypes) :
    Yields (typeReference nesting) (Typing .type) := by
  apply Yields.andThen
  intro start
  apply Yields.andThen
  intro token
  split
  · apply Yields.andThen
    intro first
    apply Yields.andThen
    intro parts
    apply Yields.andThen
    intro nameSpan
    apply (typeArguments?_typing yields).bind
    intro arguments typing
    have argumentsTyping := forall_mem_getD typing
    apply Yields.andThen
    intro span
    apply Yields.pure
    refine expressionless_of_children rfl fun child member => ?_
    grind
  · exact .typeExpected

theorem literalType_typing : Yields literalType (Typing .type) := by
  apply Yields.andThen
  intro token
  split
  · apply Yields.andThen
    intro span
    apply Yields.pure
    refine expressionless_of_children rfl fun child member => ?_
    grind
  · exact .typeExpected

theorem nameType_typing (yields : nesting.YieldsTypes) :
    Yields (nameType nesting) (Typing .type) := by
  apply Yields.andThen
  intro token
  split
  · exact literalType_typing
  · split
    · exact typeReference_typing yields
    · apply Yields.andThen
      intro kind
      split
      · exact typeReference_typing yields
      · apply Yields.andThen
        intro taken
        apply Yields.andThen
        intro span
        exact .pure (expressionless_leaf rfl rfl)

theorem primaryType_typing (yields : nesting.YieldsTypes) :
    Yields (primaryType nesting) (Typing .type) := by
  have parenthesized : Yields (parenthesizedType nesting) (Typing .type) := by
    apply Yields.andThen
    intro start
    apply Yields.andThen
    intro opening
    apply yields.type.bind
    intro inner typing
    apply Yields.andThen
    intro closing
    apply Yields.andThen
    intro span
    apply Yields.pure
    refine expressionless_of_children rfl fun child member => ?_
    grind
  have object : Yields (objectType nesting) (Typing .type) := by
    apply Yields.andThen
    intro start
    apply (typeMembers_typing yields).bind
    intro members typing
    apply Yields.andThen
    intro span
    apply Yields.pure
    refine expressionless_of_children rfl fun child member => ?_
    grind
  have tuple : Yields (tupleType nesting) (Typing .type) := by
    apply Yields.andThen
    intro start
    apply Yields.andThen
    intro opening
    apply (Yields.commaList .closeBracket (requiredType_typing yields)).bind
    intro elements typing
    apply Yields.andThen
    intro closing
    apply Yields.andThen
    intro span
    apply Yields.pure
    refine expressionless_of_children rfl fun child member => ?_
    grind
  apply Yields.andThen
  intro token
  split
  · exact nameType_typing yields
  · exact literalType_typing
  · exact literalType_typing
  · apply Yields.andThen
    intro isFunction
    split
    · exact functionType_typing yields
    · exact parenthesized
  · exact functionType_typing yields
  · exact object
  · exact tuple
  · exact .typeExpected

section Suffixes

variable {start : Nat} {element : TypeExpr}

theorem arraySuffixes_typing (yields : nesting.YieldsTypes) (typing : Typing .type element) :
    Yields (arraySuffixes nesting start element) (Typing .type) := by
  apply Yields.andThen
  intro token
  split
  · apply Yields.andThen
    intro kind
    split
    · exact yields.enter fun _ level => level.arraySuffix typing
    · exact .pure typing
  · exact .pure typing

theorem arraySuffix_typing (yields : nesting.YieldsTypes) (typing : Typing .type element) :
    Yields (arraySuffix nesting start element) (Typing .type) := by
  apply Yields.andThen
  intro opening
  apply Yields.andThen
  intro closing
  apply Yields.andThen
  intro span
  apply arraySuffixes_typing yields
  refine expressionless_of_children rfl fun child member => ?_
  grind

end Suffixes

theorem listType_typing {mark : Punctuator} {build : Span → List TypeExpr → TypeExpr}
    {member : Parse TypeExpr}
    (children : ∀ span members, (build span members).children = members.map .type)
    (typing : Yields member (Typing .type)) :
    Yields (listType mark build member) (Typing .type) := by
  have turn : Yields (markTurn mark member) (Turn.Holds (Typing .type)) := by
    apply Yields.andThen
    intro found
    split
    · exact typing.map fun _ typing => typing
    · exact .pure trivial
  apply Yields.andThen
  intro start
  apply Yields.andThen
  intro leading
  apply typing.bind
  intro first firstTyping
  apply Yields.andThen
  intro found
  split
  · apply (Yields.repeated turn).bind
    intro others othersTyping
    apply Yields.andThen
    intro span
    apply Yields.pure
    refine expressionless_of_children rfl fun child member => ?_
    rw [Node.children, children] at member
    grind
  · exact .pure firstTyping

theorem unionType_typing (yields : nesting.YieldsTypes) :
    Yields (unionType nesting) (Typing .type) := by
  have postfixes : Yields (postfixType nesting) (Typing .type) := by
    apply Yields.andThen
    intro start
    apply (primaryType_typing yields).bind
    intro element typing
    exact arraySuffixes_typing yields typing
  exact listType_typing (fun _ _ => rfl) (listType_typing (fun _ _ => rfl) postfixes)

end Parse

theorem Nesting.ofRoom_yieldsTypes (rules : Rules) (room : Nat) :
    (ofRoom rules room).YieldsTypes := by
  induction room with
  | zero => exact nofun
  | succ room induction =>
      rintro level ⟨⟩
      exact ⟨Parse.unionType_typing induction, Parse.arraySuffix_typing induction⟩

end TypedScript
