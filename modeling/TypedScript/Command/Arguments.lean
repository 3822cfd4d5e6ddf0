import TypedScript.Options
import TypedScript.Search
import TypedScript.Text.Numeral

/-!
The command line. Options may be written in full after two hyphens, or, some of them, as a letter
after one hyphen; letters may be joined. Everything else is the path of a source file.
-/

namespace TypedScript

inductive Format where
  | outline
  | json
  | tokens
deriving DecidableEq, Repr

namespace Format

def ofName? : String → Option Format
  | "outline" => some .outline
  | "json" => some .json
  | "tokens" => some .tokens
  | _ => none

end Format

inductive Setting where
  | project
  | format
  | find
  | kind
  | maxDepth
  | jobs
deriving DecidableEq, Repr

inductive Switch where
  | plain
  | verbose
  | jsonLogs
  | help
  | version
deriving DecidableEq, Repr

inductive UsageError where
  | unknownOption (written : String)
  | missingValue (written : String)
  | unexpectedValue (written : String)
  | invalidValue (value : String)
  | repeatedOption
  | formatOfSearch
  | kindWithoutSearch
deriving DecidableEq, Repr

namespace UsageError

def message : UsageError → String
  | .unknownOption written => s!"unexpected argument '{written}'"
  | .missingValue written => s!"a value is required for '{written}'"
  | .unexpectedValue written => s!"unexpected value in '{written}'"
  | .invalidValue value => s!"invalid value '{value}'"
  | .repeatedOption => "an option cannot be used multiple times"
  | .formatOfSearch => "--find cannot be used with --format"
  | .kindWithoutSearch => "--kind requires --find"

end UsageError

/-- Why a command line leads to no command. -/
inductive Stop where
  | usage (error : UsageError)
  | help
  | version
deriving DecidableEq, Repr

/-- What a command line asks for. An option that is not given is absent. -/
structure Command where
  files : List String
  project : Option String
  format : Option Format
  find : Option String
  kind : Option FunctionForm
  maxDepth : Option Nat
  jobs : Option Nat
  plain : Bool
  verbosity : Nat
  jsonLogs : Bool
deriving DecidableEq, Repr

namespace Command

def empty : Command where
  files := []
  project := none
  format := none
  find := none
  kind := none
  maxDepth := none
  jobs := none
  plain := false
  verbosity := 0
  jsonLogs := false

/-! Values. -/

def path? (value : String) : Option String :=
  if value.isEmpty then none else some value

def limit? (value : String) : Option Nat :=
  (Numeral.read? 10 (ParseOptions.greatestLimit + 1) value.toList).filter (0 < ·)

def jobs? (value : String) : Option Nat :=
  Numeral.read? 10 Numeral.bound64 value.toList

def settle (before : Option α) (read? : String → Option α) (value : String) :
    Except Stop (Option α) :=
  match read? value with
  | none => .error (.usage (.invalidValue value))
  | found => if before.isSome then .error (.usage .repeatedOption) else .ok found

def withSetting (command : Command) (value : String) : Setting → Except Stop Command
  | .project => return { command with project := ← settle command.project path? value }
  | .format => return { command with format := ← settle command.format Format.ofName? value }
  | .find => return { command with find := ← settle command.find some value }
  | .kind => return { command with kind := ← settle command.kind FunctionForm.ofName? value }
  | .maxDepth => return { command with maxDepth := ← settle command.maxDepth limit? value }
  | .jobs => return { command with jobs := ← settle command.jobs jobs? value }

def withSwitch (command : Command) : Switch → Except Stop Command
  | .plain =>
      if command.plain then .error (.usage .repeatedOption) else .ok { command with plain := true }
  | .jsonLogs =>
      if command.jsonLogs then .error (.usage .repeatedOption)
      else .ok { command with jsonLogs := true }
  | .verbose => .ok { command with verbosity := command.verbosity + 1 }
  | .help => .error .help
  | .version => .error .version

def withFile (command : Command) (path : String) : Except Stop Command :=
  match path? path with
  | none => .error (.usage (.invalidValue path))
  | some path => .ok { command with files := command.files ++ [path] }

end Command

inductive Argument where
  | file (path : String)
  | alone (switch : Switch)
  | valued (setting : Setting) (value : String)
  /-- An option whose value is the next argument. -/
  | awaiting (setting : Setting)
deriving DecidableEq, Repr

namespace Argument

def long? : String → Option (Setting ⊕ Switch)
  | "project" => some (.inl .project)
  | "format" => some (.inl .format)
  | "find" => some (.inl .find)
  | "kind" => some (.inl .kind)
  | "max-depth" => some (.inl .maxDepth)
  | "jobs" => some (.inl .jobs)
  | "plain" => some (.inr .plain)
  | "verbose" => some (.inr .verbose)
  | "json-logs" => some (.inr .jsonLogs)
  | "help" => some (.inr .help)
  | "version" => some (.inr .version)
  | _ => none

def short? : Char → Option (Setting ⊕ Switch)
  | 'p' => some (.inl .project)
  | 'f' => some (.inl .format)
  | 'j' => some (.inl .jobs)
  | 'v' => some (.inr .verbose)
  | 'h' => some (.inr .help)
  | 'V' => some (.inr .version)
  | _ => none

/-- Reads an option in full; `body` follows the hyphens of `written`. A value may be joined to the
name by an equals sign. -/
def ofLong (written : String) (body : List Char) : Except UsageError Argument :=
  let name := body.takeWhile (· != '=')
  match long? (String.ofList name), body.drop name.length with
  | none, _ => .error (.unknownOption written)
  | some (.inl setting), [] => .ok (.awaiting setting)
  | some (.inl setting), _ :: value => .ok (.valued setting (String.ofList value))
  | some (.inr switch), [] => .ok (.alone switch)
  | some (.inr _), _ :: _ => .error (.unexpectedValue written)

/-- Reads letters that are joined. What follows the letter of an option with a value is its value,
with or without an equals sign. -/
def ofLetters (written : String) : List Char → Except UsageError (List Argument)
  | [] => .ok []
  | letter :: rest =>
      match short? letter with
      | none => .error (.unknownOption written)
      | some (.inr switch) => return .alone switch :: (← ofLetters written rest)
      | some (.inl setting) =>
          match rest with
          | [] => .ok [.awaiting setting]
          | '=' :: value => .ok [.valued setting (String.ofList value)]
          | value => .ok [.valued setting (String.ofList value)]

def isOption (written : String) : Bool :=
  written.startsWith "-" && written != "-"

def read (written : String) : Except UsageError (List Argument) :=
  if isOption written then
    match written.toList with
    | '-' :: '-' :: body => return [← ofLong written body]
    | letters => ofLetters written (letters.drop 1)
  else
    .ok [.file written]

end Argument

namespace Command

def withArgument (command : Command) : Argument → Except Stop Command
  | .file path => command.withFile path
  | .alone switch => command.withSwitch switch
  | .valued setting value => command.withSetting value setting
  | .awaiting _ => .ok command

def awaited? : List Argument → Option Setting
  | [] => none
  | [.awaiting setting] => some setting
  | _ :: rest => awaited? rest

def readFrom (command : Command) : List String → Except Stop Command
  | [] => .ok command
  | "--" :: files => files.foldlM withFile command
  | written :: rest => do
      let arguments ← (Argument.read written).mapError .usage
      let command ← arguments.foldlM withArgument command
      match awaited? arguments, rest with
      | none, rest => command.readFrom rest
      | some _, [] => .error (.usage (.missingValue written))
      | some setting, value :: rest =>
          if Argument.isOption value then .error (.usage (.missingValue written))
          else do
            let command ← command.withSetting value setting
            command.readFrom rest

def ofArguments (arguments : List String) : Except Stop Command := do
  let command ← empty.readFrom arguments
  if command.find.isSome && command.format.isSome then .error (.usage .formatOfSearch)
  else if command.kind.isSome && command.find.isNone then .error (.usage .kindWithoutSearch)
  else .ok command

end Command

end TypedScript
