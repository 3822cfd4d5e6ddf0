import TypedScript.Text.LineMap
import TypedScript.Tree.Basic

/-!
Searching a program for functions by name. Only the statements of the program itself are looked
at, and what they export; functions inside of others are not.
-/

namespace TypedScript

/-- A regular expression, as far as a search needs it: the bytes of a text that match first. They
are whole characters of the text. -/
structure Regex where
  find? : String → Option Span
  inText : ∀ {text : String} {hit : Span}, find? text = some hit →
    ∃ before inside after : String, text = before ++ inside ++ after ∧
      hit = ⟨before.utf8ByteSize, (before ++ inside).utf8ByteSize⟩

inductive FunctionForm where
  | function
  /-- A variable whose initial value is an arrow function. -/
  | arrow
deriving DecidableEq, Repr

namespace FunctionForm

def name : FunctionForm → String
  | .function => "function"
  | .arrow => "arrow"

def ofName? : String → Option FunctionForm
  | "function" => some .function
  | "arrow" => some .arrow
  | _ => none

end FunctionForm

def Statement.function? : Statement → Option (Identifier × FunctionForm)
  | .function declaration => some (declaration.name, .function)
  | .binding declaration =>
      match declaration.initializer with
      | some (.arrow ..) => some (declaration.name, .arrow)
      | _ => none
  | .exporting _ declaration => declaration.function?
  | _ => none

structure FoundFunction where
  name : String
  form : FunctionForm
  position : Position
  hit : Span
deriving DecidableEq, Repr

namespace FoundFunction

/-- What is shown in colour begins and ends with a sequence for the terminal. -/
def yellow (text : String) : String :=
  "\x1b[93m" ++ text ++ "\x1b[0m"

def slice (found : FoundFunction) (part : Span) : String :=
  (part.slice? found.name).getD ""

def markedName (color : Bool) (found : FoundFunction) : String :=
  let hit := found.slice found.hit
  found.slice ⟨0, found.hit.start⟩ ++ (if color then yellow hit else hit) ++
    found.slice ⟨found.hit.stop, found.name.utf8ByteSize⟩

def line (color : Bool) (found : FoundFunction) : String :=
  s!"  {found.form.name} [{found.position.text}]: {found.markedName color}\n"

/-- A line for each function under the name of the file; nothing if there are none. -/
def listing (color : Bool) (file : String) (found : List FoundFunction) : String :=
  if found.isEmpty then "" else s!"{file}:\n" ++ String.join (found.map (line color))

end FoundFunction

def Program.findFunctions (source : String) (regex : Regex) (form : Option FunctionForm)
    (program : Program) : List FoundFunction :=
  let map := LineMap.ofText source
  let functions := program.statements.filterMap Statement.function?
  (functions.filter fun found => form.all (· == found.2)).filterMap fun (name, form) =>
    (regex.find? name.text).map fun hit =>
      ⟨name.text, form, map.position source name.span.start, hit⟩

end TypedScript
