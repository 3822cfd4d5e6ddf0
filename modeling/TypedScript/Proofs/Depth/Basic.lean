import TypedScript.Proofs.Reading.Levels

/-!
How deep trees are. The depth of a tree is the greatest number of types and expressions on a path
from its root to a leaf. A rule of the grammar is shown to keep to a bound from the bounds that its
parts keep to, so all that is said of a parser here is what its values are like.
-/

namespace TypedScript

/-! Depth. -/

namespace Node

def counts : Node → Bool
  | .type _ | .expression _ => true
  | _ => false

inductive Path : Node → List Node → Prop
  | leaf {node : Node} (isLeaf : node.children = []) : Path node [node]
  | step {node child : Node} {path : List Node} (member : child ∈ node.children)
      (below : Path child path) : Path node (node :: path)

/-- No path down from the node meets more than `bound` types and expressions. -/
def Within (bound : Nat) (node : Node) : Prop :=
  ∀ path, node.Path path → path.countP counts ≤ bound

variable {bound : Nat} {node : Node}

theorem Within.mono {larger : Nat} (within : node.Within bound) (le : bound ≤ larger) :
    node.Within larger :=
  fun path down => Nat.le_trans (within path down) le

theorem within_succ (below : ∀ child ∈ node.children, child.Within bound) :
    node.Within (bound + 1) := by
  intro path down
  cases down with
  | leaf => exact Nat.le_trans List.countP_le_length (Nat.le_add_left 1 bound)
  | step member down =>
      rw [List.countP_cons]
      have inner := below _ member _ down
      split <;> omega

theorem within_plain (plain : node.counts = false)
    (below : ∀ child ∈ node.children, child.Within bound) : node.Within bound := by
  intro path down
  cases down with
  | leaf => simp [plain]
  | step member down =>
      rw [List.countP_cons, plain]
      exact below _ member _ down

theorem within_leaf (plain : node.counts = false) (isLeaf : node.children = []) :
    node.Within bound := by
  refine within_plain plain fun child member => ?_
  rw [isLeaf] at member
  cases member

@[simp] theorem within_identifier (name : Identifier) : (Node.identifier name).Within bound :=
  within_leaf rfl rfl

@[simp] theorem within_literal (constant : Literal) : (Node.literal constant).Within bound :=
  within_leaf rfl rfl

@[simp] theorem within_functionBody (body : FunctionBody) :
    (Node.functionBody body).Within bound :=
  within_leaf rfl rfl

@[simp] theorem within_moduleName (name : ModuleName) : (Node.moduleName name).Within bound :=
  within_leaf rfl rfl

end Node

theorem forall_mem_getD {α : Type} {holds : α → Prop} {found : Option (List α)}
    (each : ∀ list ∈ found, ∀ item ∈ list, holds item) : ∀ item ∈ found.getD [], holds item := by
  cases found with
  | none => simp
  | some list => exact each list rfl

abbrev Keeps {α : Type} (node : α → Node) (bound : Nat) (value : α) : Prop :=
  (node value).Within bound

/-! What the values of a parser are like. -/

def Parse.Turn.Holds {α : Type} (holds : α → Prop) : Turn α → Prop
  | .stop => True
  | .last item => holds item
  | .more item => holds item

structure Yields {α : Type} (parser : Parse α) (holds : α → Prop) : Prop where
  of_ok {before after : Cursor} {value : α} : parser before = .ok value after → holds value

namespace Yields

open Parse

variable {α β : Type} {holds : α → Prop} {result : β → Prop} {parser : Parse α}
  {next : α → Parse β}

theorem bind (first : Yields parser holds)
    (later : ∀ value, holds value → Yields (next value) result) :
    Yields (parser >>= next) result := by
  refine ⟨fun parsed => ?_⟩
  rcases bind_eq_ok.mp parsed with ⟨middle, between, read, parsed⟩
  exact (later middle (first.of_ok read)).of_ok parsed

theorem andThen (later : ∀ value, Yields (next value) result) :
    Yields (parser >>= next) result := by
  refine ⟨fun parsed => ?_⟩
  rcases bind_eq_ok.mp parsed with ⟨middle, between, _, parsed⟩
  exact (later middle).of_ok parsed

theorem pure {value : α} (satisfied : holds value) : Yields (Pure.pure value) holds := by
  refine ⟨fun parsed => ?_⟩
  rcases pure_eq_ok.mp parsed with ⟨rfl, _⟩
  exact satisfied

theorem any : Yields parser fun _ => True :=
  ⟨fun _ => trivial⟩

theorem imp {weaker : α → Prop} (yields : Yields parser holds)
    (implies : ∀ value, holds value → weaker value) : Yields parser weaker :=
  ⟨fun parsed => implies _ (yields.of_ok parsed)⟩

theorem map {change : α → β} (yields : Yields parser holds)
    (implies : ∀ value, holds value → result (change value)) :
    Yields (change <$> parser) result := by
  refine ⟨fun parsed => ?_⟩
  rcases map_eq_ok.mp parsed with ⟨inner, read, rfl⟩
  exact implies inner (yields.of_ok read)

theorem present (yields : Yields parser holds) :
    Yields (some <$> parser) fun found => ∀ value ∈ found, holds value := by
  refine yields.map fun value satisfied other member => ?_
  cases member
  exact satisfied

theorem absent : Yields (Pure.pure none) fun found : Option α => ∀ value ∈ found, holds value :=
  pure (by simp)

theorem unexpected {expected : Expected} : Yields (unexpected expected) holds :=
  ⟨fun parsed => absurd parsed unexpected_ne_ok⟩

theorem typeExpected : Yields typeExpected holds :=
  ⟨fun parsed => absurd parsed typeExpected_ne_ok⟩

/-! Something that may be missing, and repetition. -/

theorem afterMark (mark : Punctuator) (yields : Yields parser holds) :
    Yields (afterMark mark parser) fun found => ∀ value ∈ found, holds value := by
  apply andThen
  intro found
  split
  · exact yields.present
  · exact absent

theorem afterWord (word : String) (yields : Yields parser holds) :
    Yields (afterWord word parser) fun found => ∀ value ∈ found, holds value := by
  apply andThen
  intro found
  split
  · exact yields.present
  · exact absent

theorem speculate {isFinal : SyntaxError → Bool} {attempt : Parse (Option α)}
    (yields : Yields attempt fun found => ∀ value ∈ found, holds value) :
    Yields (speculate isFinal attempt) fun found => ∀ value ∈ found, holds value := by
  refine ⟨fun parsed => ?_⟩
  rcases speculate_eq_ok parsed with ⟨value, rfl, read⟩ | ⟨rfl, _⟩
  · exact yields.of_ok read
  · simp

theorem repeated {turn : Parse (Turn α)} (yields : Yields turn (Turn.Holds holds)) :
    Yields (repeated turn) fun items => ∀ item ∈ items, holds item := by
  refine ⟨fun {before after items} parsed => ?_⟩
  fun_induction Parse.repeated turn before generalizing items with
  | case1 => cases parsed
  | case2 =>
      cases parsed
      simp
  | case3 _ item _ run =>
      cases parsed
      have satisfied : holds item := yields.of_ok run
      simpa using satisfied
  | case4 => cases parsed
  | case5 _ item _ run _ _ _ later induction =>
      cases parsed
      have satisfied : holds item := yields.of_ok run
      exact List.forall_mem_cons.mpr ⟨satisfied, induction later⟩
  | case6 _ item _ run _ =>
      cases parsed
      have satisfied : holds item := yields.of_ok run
      simpa using satisfied

theorem commaTurn {item : α} (satisfied : holds item) :
    Yields (commaTurn item) (Turn.Holds holds) := by
  apply andThen
  intro found
  split
  · exact pure satisfied
  · exact pure satisfied

theorem commaList (closing : Punctuator) (yields : Yields parser holds) :
    Yields (commaList closing parser) fun items => ∀ item ∈ items, holds item := by
  apply repeated
  apply andThen
  intro found
  split
  · exact pure trivial
  · exact yields.bind fun _ => commaTurn

end Yields

/-! Levels. -/

/-- What the rules of a level yield. Types and expressions keep to a bound each; what goes on with
a tree that is there already makes it deeper by no more than `wraps`. -/
structure Level.Bounded (level : Level) (types expressions wraps : Nat) : Prop where
  type : Yields level.type (Keeps .type types)
  arraySuffix {bound start : Nat} {element : TypeExpr} :
    Keeps .type bound element →
    Yields (level.arraySuffix start element) (Keeps .type (bound + wraps))
  assignment : Yields level.assignment (Keeps .expression expressions)
  unary : Yields level.unary (Keeps .expression expressions)
  newExpression : Yields level.newExpression (Keeps .expression expressions)
  operator {bound start minimum width precedence : Nat} {left : Expression} {mark : Punctuator} :
    expressions ≤ bound → Keeps .expression bound left →
    Yields (level.operator start minimum left mark width precedence)
      (Keeps .expression (bound + wraps))
  suffix {bound start : Nat} {allowCalls : Bool} {base : Expression} :
    expressions ≤ bound → Keeps .expression bound base →
    Yields (level.suffix start allowCalls base) (Keeps .expression (bound + wraps))
  typedSuffix {bound start : Nat} {allowCalls : Bool} {base : Expression}
      {typeArguments : List TypeExpr} :
    expressions ≤ bound → Keeps .expression bound base →
    (∀ type ∈ typeArguments, Keeps .type bound type) →
    Yields (level.typedSuffix start allowCalls base typeArguments)
      (Keeps .expression (bound + wraps))

namespace Nesting

structure Bounded (nesting : Nesting) (types expressions room : Nat) : Prop where
  inner {level : Level} : nesting.inner = some level → level.Bounded types expressions room
  types_le : types ≤ expressions

variable {nesting : Nesting} {types expressions room : Nat} {α : Type}

theorem Bounded.enter (bounded : nesting.Bounded types expressions room) {expected : Expected}
    {next : Level → Parse α} {holds : α → Prop}
    (deeper : ∀ level, level.Bounded types expressions room → Yields (next level) holds) :
    Yields (nesting.enter expected >>= next) holds := by
  refine ⟨fun parsed => ?_⟩
  rcases Parse.bind_eq_ok.mp parsed with ⟨level, between, entered, parsed⟩
  exact (deeper level (bounded.inner (enter_eq_ok.mp entered).1)).of_ok parsed

theorem Bounded.type (bounded : nesting.Bounded types expressions room) :
    Yields nesting.type (Keeps .type types) :=
  bounded.enter fun _ level => level.type

theorem Bounded.expression (bounded : nesting.Bounded types expressions room) :
    Yields nesting.expression (Keeps .expression expressions) :=
  bounded.enter fun _ level => level.assignment

end Nesting

end TypedScript
