import TypedScript.Command.Arguments
import TypedScript.Command.Session
import TypedScript.Pattern.Reader
import TypedScript.Pattern.Regex
import TypedScript.Project

/-!
Carrying out a command.
-/

namespace TypedScript

/-- Why a command cannot be carried out at all. -/
inductive SetupError where
  | unreadableProject (path : String) (error : ReadError)
  | invalidProject (path : String)
  | options (error : OptionsError)
  | noInput
  | invalidPattern (pattern : String)
deriving DecidableEq, Repr

namespace SetupError

def message : SetupError → String
  | .unreadableProject path error => s!"cannot read {path}: {error.message}"
  | .invalidProject path => s!"invalid project file: {path}"
  | .options error => error.message
  | .noInput => "no input files; pass files or --project"
  | .invalidPattern pattern => s!"invalid search pattern: {pattern}"

end SetupError

namespace Command

def defaultProject : String := "tsyn.json"

def projectPath? [Monad m] (source : FileSource m) (command : Command) : m (Option String) := do
  match command.project, command.files with
  | some path, _ => return some path
  | none, _ :: _ => return none
  | none, [] => return if ← source.holds defaultProject then some defaultProject else none

def readProject [Monad m] (source : FileSource m) (path : String) :
    m (Except SetupError Project) := do
  match ← source.read path with
  | .error error => return .error (.unreadableProject path error)
  | .ok text =>
      match Project.ofString? text with
      | none => return .error (.invalidProject path)
      | some project => return .ok project

/-- The files and options of a command: those of the project, and then those of the command line.
The nesting limit of the command line goes before that of the project. -/
def inputs (command : Command) (project : Option (String × Project)) :
    Except SetupError (List String × ParseOptions) := do
  let (paths, options) ← match project with
    | none => .ok ([], ParseOptions.default)
    | some (path, project) =>
        let options ← project.options.mapError .options
        .ok (project.paths (Path.parent path), options)
  let options := match command.maxDepth with
    | none => options
    | some limit => options.withLimit limit
  match paths ++ command.files with
  | [] => .error .noInput
  | paths => .ok (paths, options)

section Hosted

variable (host : Host)

def mode (command : Command) : Except SetupError Mode :=
  match command.find with
  | some text =>
      match host.regex? text with
      | none => .error (.invalidPattern text)
      | some regex => .ok (.search regex command.kind)
  | none =>
      match command.format.getD .outline with
      | .outline => .ok .outline
      | .json => .ok .json
      | .tokens => .ok .tokens

def style (command : Command) : ReportStyle :=
  if command.plain then .plain else .labelled

def failed (error : SetupError) : Outcome :=
  ⟨2, "", host.errorText error.message ++ "\n"⟩

def runWith [Monad m] (source : FileSource m) (command : Command)
    (project : Option (String × Project)) : m Outcome := do
  match command.inputs project, command.mode host with
  | .error error, _ => return failed host error
  | .ok _, .error error => return failed host error
  | .ok (paths, options), .ok mode =>
      let files ← paths.mapM fun path => return ⟨path, ← source.read path⟩
      return showFiles host mode command.style options files

def run [Monad m] (source : FileSource m) (command : Command) : m Outcome := do
  match ← command.projectPath? source with
  | none => command.runWith host source none
  | some path =>
      match ← readProject source path with
      | .error error => return failed host error
      | .ok project => command.runWith host source (some (path, project))

end Hosted

end Command

namespace Stop

def helpLines : List String := [
    "Parse typed script sources into syntax trees",
    "",
    "Usage: tsyn [OPTIONS] [FILE]...",
    "",
    "Options:",
    "  -p, --project <PATH>    Path to a tsyn.json project file",
    "  -f, --format <FORMAT>   What to print for each file: outline, json or tokens",
    "      --find <PATTERN>    List top-level functions whose name matches instead",
    "      --kind <KIND>       Only list functions of this form: function or arrow",
    "      --plain             Print errors as single lines",
    "      --max-depth <N>     Maximum nesting depth of types and expressions, at most 1000",
    "  -j, --jobs <JOBS>       Number of worker threads",
    "  -v, --verbose...        Increase logging verbosity",
    "      --json-logs         Emit logs as JSON lines",
    "  -h, --help              Print help",
    "  -V, --version           Print version"]

def helpText : String :=
  String.join (helpLines.map (· ++ "\n"))

def outcome : Stop → Outcome
  | .usage error => ⟨2, "", s!"error: {error.message}\n"⟩
  | .help => ⟨0, helpText, ""⟩
  | .version => ⟨0, "tsyn 0.1.0\n", ""⟩

end Stop

/-- Regular expressions are patterns, and nothing that is printed goes to a terminal. -/
def Host.plain : Host where
  regex? text := (Pattern.ofString? text).map Pattern.regex
  layout := SourceError.brief
  colorsOutput := false
  colorsErrors := false

def runArguments [Monad m] (source : FileSource m) (arguments : List String)
    (host : Host := .plain) : m Outcome :=
  match Command.ofArguments arguments with
  | .error stop => return stop.outcome
  | .ok command => command.run host source

end TypedScript
