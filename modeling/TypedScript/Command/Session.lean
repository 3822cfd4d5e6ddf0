import TypedScript.Command.Report
import TypedScript.Files.Basic
import TypedScript.Outline
import TypedScript.Parser.Entry
import TypedScript.Tree.Encoding

/-!
Showing source files. Every file is processed on its own. The results are then settled one after
another: a file that cannot be read, or that holds an error, is reported and counted, and any other
is shown. Whatever is printed or counted is kept in one state, which all files share.
-/

namespace TypedScript

structure Outcome where
  exitCode : Nat
  output : String
  errors : String
deriving DecidableEq, Repr

structure InputFile where
  name : String
  content : Except ReadError String

structure FileResult (α : Type) where
  name : String
  outcome : Except ReadError (String × Except SyntaxError α)

def InputFile.process (work : String → Except SyntaxError α) (file : InputFile) : FileResult α :=
  ⟨file.name, file.content.map fun source => (source, work source)⟩

def processFiles (work : String → Except SyntaxError α) (files : List InputFile) :
    List (FileResult α) :=
  files.map (·.process work)

structure Summary where
  diagnostics : List Diagnostic
  unreadable : Nat
deriving DecidableEq, Repr

namespace Summary

def empty : Summary := ⟨[], 0⟩

def isClean (summary : Summary) : Bool :=
  !summary.diagnostics.any Diagnostic.isError && summary.unreadable == 0

def count (summary : Summary) : Nat :=
  Diagnostic.errorCount summary.diagnostics + summary.unreadable

end Summary

structure Session where
  output : String
  errors : String
  summary : Summary
deriving DecidableEq, Repr

namespace Session

def start : Session := ⟨"", "", .empty⟩

def withOutput (session : Session) (text : String) : Session :=
  { session with output := session.output ++ text }

def withErrors (session : Session) (text : String) : Session :=
  { session with errors := session.errors ++ text }

def withUnreadable (session : Session) : Session :=
  { session with summary.unreadable := session.summary.unreadable + 1 }

def withDiagnostic (session : Session) (diagnostic : Diagnostic) : Session :=
  { session with summary.diagnostics := session.summary.diagnostics ++ [diagnostic] }

end Session

abbrev Run := StateM Session

namespace Run

def print (text : String) : Run Unit :=
  modify (·.withOutput text)

def printError (text : String) : Run Unit :=
  modify (·.withErrors (text ++ "\n"))

end Run

section Loops

variable (host : Host) (style : ReportStyle)

/-- Reports a file that failed, and hands on the output of one that did not. -/
def settle (result : FileResult α) : Run (Option (String × α)) := do
  match result.outcome with
  | .error error =>
      Run.printError (host.errorText s!"cannot read '{result.name}': {error.message}")
      modify Session.withUnreadable
      return none
  | .ok (source, .ok output) => return some (source, output)
  | .ok (source, .error error) =>
      Run.printError (error.report host style result.name source)
      modify (·.withDiagnostic (error.diagnostic.inFile result.name))
      return none

/-- Settles results one after another. What is shown of one is up to `step`, which collects
something along the way. -/
def settleAll (step : σ → String → String → α → Run σ) : List (FileResult α) → σ → Run σ
  | [], collected => return collected
  | result :: rest, collected => do
      match ← settle host style result with
      | none => settleAll step rest collected
      | some (source, output) =>
          settleAll step rest (← step collected result.name source output)

def showFound (results : List (FileResult (List FoundFunction))) : Run Unit := do
  let any ← settleAll host style
    (fun any name _ found => do
      Run.print (FoundFunction.listing host.colorsOutput name found)
      return any || !found.isEmpty)
    results false
  unless any do
    Run.print "Nothing found\n"

def showTokens (results : List (FileResult String)) : Run Unit :=
  settleAll host style
    (fun _ name _ dump => do
      Run.print s!"{name}:\n"
      Run.print dump)
    results ()

def showOutlines (results : List (FileResult Program)) : Run Unit :=
  settleAll host style (fun _ name source program => Run.print (program.outline name source))
    results ()

def showTrees (results : List (FileResult Program)) : Run Unit := do
  let trees ← settleAll host style
    (fun trees name _ program =>
      return trees ++ [JsonValue.object [("file", .string name), ("program", program.json)]])
    results []
  Run.print ((JsonValue.array trees).pretty ++ "\n")

end Loops

def countText (host : Host) (count : Nat) : String :=
  let plural := if count = 1 then "" else "s"
  let text := s!"Found {count} error{plural}."
  if host.colorsErrors then s!"\n\x1b[31m{text}\x1b[0m" else s!"\n{text}"

def printSummary (host : Host) : Run Unit := do
  let count := (← get).summary.count
  unless count = 0 do
    Run.printError (countText host count)

inductive Mode where
  | outline
  | json
  | tokens
  | search (regex : Regex) (form : Option FunctionForm)

def Mode.show (host : Host) (style : ReportStyle) (options : ParseOptions)
    (files : List InputFile) : Mode → Run Unit
  | .outline => showOutlines host style (processFiles (parseProgram options) files)
  | .json => showTrees host style (processFiles (parseProgram options) files)
  | .tokens =>
      showTokens host style <| processFiles (fun source =>
        (lex options.keywords source).dump.mapError .lexical) files
  | .search regex form =>
      showFound host style <| processFiles (fun source =>
        (parseProgram options source).map (·.findFunctions source regex form)) files

/-- Shows files, in their order. The exit code says whether all of them could be shown. -/
def showFiles (host : Host) (mode : Mode) (style : ReportStyle) (options : ParseOptions)
    (files : List InputFile) : Outcome :=
  let run : Run Unit := do
    mode.show host style options files
    printSummary host
  let session := (run.run .start).2
  { exitCode := if session.summary.isClean then 0 else 1
    output := session.output
    errors := session.errors }

end TypedScript
