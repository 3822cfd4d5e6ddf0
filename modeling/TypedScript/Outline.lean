import TypedScript.Text.LineMap
import TypedScript.Text.Quoted
import TypedScript.Tree.Visit

/-!
A short listing of a program: its statements, and how many types and expressions it holds.
-/

namespace TypedScript

namespace Outline

/-- What the line of a statement shows after its kind: the name that it declares, or the module
that it imports from. An export shows nothing, since what it exports has a line of its own. -/
def detail : Statement → String
  | .importing declaration => " " ++ Quoted.text declaration.source.value
  | .exporting .. => ""
  | statement =>
      match statement.declaredName? with
      | some name => " " ++ name.text
      | none => ""

/-- The line of a statement that is indented by `depth` steps of two blanks. -/
def line (map : LineMap) (source : String) (depth : Nat) (statement : Statement) : String :=
  let blanks := String.ofList (List.replicate (2 * depth) ' ')
  let place := map.position source statement.span.start
  s!"{blanks}{place.text} {statement.kind.name}{detail statement}\n"

def lines (map : LineMap) (source : String) (depth : Nat) (statement : Statement) : List String :=
  line map source depth statement ::
    match statement with
    | .exporting _ declaration => lines map source (depth + 1) declaration
    | _ => []

end Outline

def Program.outline (file source : String) (program : Program) : String :=
  let map := LineMap.ofText source
  let types := program.visits.countP Visit.isType
  let expressions := program.visits.countP Visit.isExpression
  let counts :=
    s!"{program.statements.length} statements, {types} types, {expressions} expressions"
  s!"{file}: {counts}\n" ++ String.join (program.statements.flatMap (Outline.lines map source 1))

end TypedScript
