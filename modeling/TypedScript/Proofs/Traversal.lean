import TypedScript.Outline
import TypedScript.Tree.Node

/-!
Two walks over a tree. One goes from a node to its children, whatever they are; the other knows
every kind of node and goes straight to the statements, types, expressions and parameters below it.
Main statement: the second meets just what the first meets of these, in the same order and as often,
so the counts in a listing are the numbers of types and expressions in the tree.
-/

namespace TypedScript

namespace Visit

def node : Visit → Node
  | .statement content => .statement content
  | .type content => .type content
  | .expression content => .expression content
  | .typeParameter content => .typeParameter content
  | .parameter content => .parameter content

def isStatement : Visit → Bool
  | .statement _ => true
  | _ => false

end Visit

namespace Node

def isStatement : Node → Bool
  | .statement _ => true
  | _ => false

def isType : Node → Bool
  | .type _ => true
  | _ => false

def isExpression : Node → Bool
  | .expression _ => true
  | _ => false

def isParameter : Node → Bool
  | .parameter _ => true
  | _ => false

def isTypeParameter : Node → Bool
  | .typeParameter _ => true
  | _ => false

/-- What the walk that knows the kinds of nodes meets at a node itself. -/
def visit? : Node → Option Visit
  | .statement content => some (.statement content)
  | .type content => some (.type content)
  | .expression content => some (.expression content)
  | .typeParameter content => some (.typeParameter content)
  | .parameter content => some (.parameter content)
  | _ => none

/-- What the walk that knows the kinds of nodes meets from a node on. -/
def visits : Node → List Visit
  | .program content => content.visits
  | .statement content => content.visits
  | .type content => content.visits
  | .expression content => content.visits
  | .typeMember content => content.visits
  | .typeParameter content => content.visits
  | .parameter content => content.visits
  | .objectProperty content => content.visits
  | .identifier _ | .literal _ | .moduleName _ | .importSpecifier _ | .exportSpecifier _
  | .functionBody _ | .propertyKey _ => []

/-! What is met at a node, and then at each of its children. One statement for each kind of node. -/

section Steps

attribute [local simp] visits visit? children List.flatMap_map

theorem visits_program (program : Program) :
    program.visits = (Node.program program).children.flatMap visits := by
  simp [Program.visits]

theorem visits_statement (statement : Statement) :
    statement.visits = .statement statement :: statement.children.flatMap visits := by
  cases statement <;> simp [Statement.visits, Statement.children]

theorem visits_type (type : TypeExpr) :
    type.visits = .type type :: type.children.flatMap visits := by
  cases type with
  | named span name arguments =>
      cases arguments <;> simp [TypeExpr.visits, TypeExpr.children]
  | _ => simp [TypeExpr.visits, TypeExpr.children]

theorem visits_typeMember (member : TypeMember) :
    member.visits = member.children.flatMap visits := by
  cases member with
  | property span name optional declaredType =>
      cases declaredType <;> simp [TypeMember.visits, TypeMember.children]
  | method span name optional typeParameters parameters result =>
      cases result <;> simp [TypeMember.visits, TypeMember.children]

theorem visits_typeParameter (parameter : TypeParameter) :
    parameter.visits = .typeParameter parameter :: parameter.children.flatMap visits := by
  rcases parameter with ⟨span, name, constraint, fallback⟩
  cases constraint <;> cases fallback <;>
    simp [TypeParameter.visits, TypeParameter.children]

theorem visits_parameter (parameter : Parameter) :
    parameter.visits = .parameter parameter :: parameter.children.flatMap visits := by
  rcases parameter with ⟨span, isRest, name, optional, declaredType, initializer⟩
  cases declaredType <;> cases initializer <;> simp [Parameter.visits, Parameter.children]

theorem visits_expression (expression : Expression) :
    expression.visits = .expression expression :: expression.children.flatMap visits := by
  cases expression with
  | call span callee types arguments =>
      cases types <;> simp [Expression.visits, Expression.children]
  | new span callee types arguments =>
      cases types <;> cases arguments <;> simp [Expression.visits, Expression.children]
  | arrow span parameters result body =>
      cases result <;> cases body <;>
        simp [Expression.visits, ArrowBody.visits, Expression.children]
  | _ => simp [Expression.visits, Expression.children]

theorem visits_objectProperty (property : ObjectProperty) :
    property.visits = (Node.objectProperty property).children.flatMap visits := by
  cases property <;> simp [ObjectProperty.visits]

theorem visits_eq (node : Node) :
    node.visits = node.visit?.toList ++ node.children.flatMap visits := by
  cases node with
  | program content => exact visits_program content
  | statement content => exact visits_statement content
  | type content => exact visits_type content
  | expression content => exact visits_expression content
  | typeMember content => exact visits_typeMember content
  | typeParameter content => exact visits_typeParameter content
  | parameter content => exact visits_parameter content
  | objectProperty content => exact visits_objectProperty content
  | propertyKey content => cases content <;> simp
  | identifier | literal | moduleName | importSpecifier | exportSpecifier | functionBody => simp

end Steps

theorem filterMap_preorder (node : Node) : node.preorder.filterMap visit? = node.visits := by
  induction node using Node.induction with
  | step node induction =>
      have below : (node.children.flatMap preorder).filterMap visit? =
          node.children.flatMap visits := by
        rw [List.filterMap_flatMap, List.flatMap_def, List.flatMap_def,
          List.map_congr_left induction]
      rw [preorder_eq, visits_eq, ← below]
      cases found : node.visit? with
      | none => exact List.filterMap_cons_none found
      | some visit => exact List.filterMap_cons_some found

/-! Selections from the two walks. -/

section Selections

variable {among : Visit → Bool} {select : Node → Bool}

/-- A test of nodes and a test of what is met agree if nodes pass just when they are met and what
is met passes. -/
theorem map_filter_filterMap_visit?
    (agree : ∀ node, select node = node.visit?.any among) (nodes : List Node) :
    ((nodes.filterMap visit?).filter among).map Visit.node = nodes.filter select := by
  induction nodes with
  | nil => rfl
  | cons node rest induction =>
      have same := agree node
      cases found : node.visit? with
      | none =>
          rw [found] at same
          rw [List.filterMap_cons_none found, List.filter_cons_of_neg (by simp [same]), induction]
      | some visit =>
          have shown : visit.node = node := by
            cases node <;> cases found <;> rfl
          rw [found] at same
          rw [List.filterMap_cons_some found]
          by_cases passes : among visit = true <;> simp_all

theorem countP_visits (agree : ∀ node, select node = node.visit?.any among) (node : Node) :
    node.visits.countP among = node.preorder.countP select := by
  rw [← filterMap_preorder, List.countP_eq_length_filter, List.countP_eq_length_filter,
    ← map_filter_filterMap_visit? agree, List.length_map]

end Selections

end Node

/-- The two walks over a program meet the same statements, types and expressions in the same order,
and as many parameters and type parameters; so a listing gives the numbers of types and expressions
that the tree holds. -/
theorem visits_agree_with_preorder (program : Program) :
    let nodes := (Node.program program).preorder
    (program.visits.filter fun visit =>
        visit.isStatement || visit.isType || visit.isExpression).map Visit.node =
      (nodes.filter fun node => node.isStatement || node.isType || node.isExpression) ∧
    program.visits.countP Visit.isParameter = nodes.countP Node.isParameter ∧
    program.visits.countP Visit.isTypeParameter = nodes.countP Node.isTypeParameter ∧
    ∀ file source,
      let types := nodes.countP Node.isType
      let expressions := nodes.countP Node.isExpression
      let counts :=
        s!"{program.statements.length} statements, {types} types, {expressions} expressions"
      let lines := program.statements.flatMap (Outline.lines (LineMap.ofText source) source 1)
      program.outline file source = s!"{file}: {counts}\n" ++ String.join lines := by
  intro nodes
  have all : program.visits = (Node.program program).visits := rfl
  refine ⟨?_, ?_, ?_, ?_⟩
  · rw [all, ← Node.filterMap_preorder]
    exact Node.map_filter_filterMap_visit? (fun node => by cases node <;> rfl) nodes
  · exact Node.countP_visits (fun node => by cases node <;> rfl) (.program program)
  · exact Node.countP_visits (fun node => by cases node <;> rfl) (.program program)
  · intro file source
    have types : program.visits.countP Visit.isType = nodes.countP Node.isType :=
      Node.countP_visits (fun node => by cases node <;> rfl) (.program program)
    have expressions : program.visits.countP Visit.isExpression = nodes.countP Node.isExpression :=
      Node.countP_visits (fun node => by cases node <;> rfl) (.program program)
    unfold Program.outline
    rw [types, expressions]

end TypedScript
