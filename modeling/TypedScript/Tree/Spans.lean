import TypedScript.Tree.Node

/-!
The law of ranges: every node lies within its parent, and siblings follow each other without
overlap.
-/

namespace TypedScript

structure SpanViolation where
  parentKind : Kind
  parentSpan : Span
  childKind : Kind
  childSpan : Span
  /-- The sibling just before the child, if the child begins before that sibling ends; none if the
  child does not lie within its parent. -/
  previous : Option Span
deriving DecidableEq, Repr

namespace SpanViolation

def message (violation : SpanViolation) : String :=
  let child := s!"{violation.childKind.name} at {violation.childSpan.text}"
  match violation.previous with
  | some previous => s!"{child} overlaps or precedes its sibling at {previous.text}"
  | none =>
      let parent := s!"{violation.parentKind.name} at {violation.parentSpan.text}"
      s!"{child} escapes its parent {parent}"

end SpanViolation

namespace Node

def childViolation? (parent : Node) (previous : Option Span) (child : Node) :
    Option SpanViolation :=
  let violation := SpanViolation.mk parent.kind parent.span child.kind child.span
  if !parent.span.contains child.span then some (violation none)
  else
    match previous with
    | some before => if child.span.start < before.stop then some (violation (some before)) else none
    | none => none

/-- The first violation at or below a node. Children are looked at in order, each with everything
below it before the next. -/
def violation? (node : Node) : Option SpanViolation :=
  let previous := none :: node.children.map fun child => some child.span
  (node.children.attach.zip previous).findSome? fun (⟨child, _⟩, before) =>
    (node.childViolation? before child).or child.violation?
termination_by node
decreasing_by exact sizeOf_lt_of_mem_children ‹_›

end Node

def Program.spanViolation? (program : Program) : Option SpanViolation :=
  (Node.program program).violation?

end TypedScript
