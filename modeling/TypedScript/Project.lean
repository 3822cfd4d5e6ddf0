import TypedScript.Files.Path
import TypedScript.Json.Basic
import TypedScript.Json.Text
import TypedScript.Options

/-!
Project files: which files to read, and with which options. Everything in a project file may be
left out.
-/

namespace TypedScript

inductive OptionsError where
  | zeroLimit
  | limitTooLarge (limit : Nat)
  | unknownKeyword (word : String)
deriving DecidableEq, Repr

namespace OptionsError

def message : OptionsError → String
  | .zeroLimit => "maxNestingDepth must be at least 1"
  | .limitTooLarge limit =>
      s!"maxNestingDepth must be at most {ParseOptions.greatestLimit}, got {limit}"
  | .unknownKeyword word => s!"'{word}' is not a reserved word"

end OptionsError

structure ParseSettings where
  nestingLimit : Option Nat
  /-- The words to reserve instead of all. -/
  keywords : Option (List String)
deriving DecidableEq, Repr

namespace ParseSettings

def ofJson? (json : JsonText) : Option ParseSettings := do
  match ← json.record? ["maxNestingDepth", "keywords"] with
  | [limit, keywords] =>
      return ⟨← limit.optional? (JsonText.natural? Numeral.bound32),
        ← keywords.optional? (JsonText.list? JsonText.text?)⟩
  | _ => none

def json (settings : ParseSettings) : JsonValue :=
  .object [("maxNestingDepth", .ofOption .number settings.nestingLimit),
    ("keywords", .ofOption (.ofList .string) settings.keywords)]

/-- The nesting limit that is asked for. Unlike `ParseOptions.withLimit`, this refuses a limit that
is not allowed. -/
def limit (settings : ParseSettings) : Except OptionsError Nat :=
  match settings.nestingLimit with
  | none => .ok ParseOptions.default.nestingLimit
  | some limit =>
      if limit = 0 then .error .zeroLimit
      else if ParseOptions.greatestLimit < limit then .error (.limitTooLarge limit)
      else .ok limit

def keywordSet (settings : ParseSettings) : Except OptionsError KeywordSet :=
  match settings.keywords with
  | none => .ok ParseOptions.default.keywords
  | some words => (KeywordSet.ofSpellings words).mapError .unknownKeyword

def options (settings : ParseSettings) : Except OptionsError ParseOptions := do
  let limit ← settings.limit
  return ⟨limit, ← settings.keywordSet⟩

end ParseSettings

structure Project where
  settings : Option ParseSettings
  /-- Paths of source files, relative to the project file. -/
  files : Option (List String)
deriving DecidableEq, Repr

namespace Project

def ofJson? (json : JsonText) : Option Project := do
  match ← json.record? ["parseOptions", "files"] with
  | [settings, files] =>
      return ⟨← settings.optional? ParseSettings.ofJson?,
        ← files.optional? (JsonText.list? JsonText.text?)⟩
  | _ => none

def ofString? (text : String) : Option Project :=
  (JsonText.ofString? text).bind ofJson?

def json (project : Project) : JsonValue :=
  .object [("parseOptions", .ofOption ParseSettings.json project.settings),
    ("files", .ofOption (.ofList .string) project.files)]

def options (project : Project) : Except OptionsError ParseOptions :=
  match project.settings with
  | none => .ok .default
  | some settings => settings.options

/-- The source files as seen from where the directory of the project file is `base`. -/
def paths (project : Project) (base : String) : List String :=
  (project.files.getD []).map (Path.join base)

end Project

end TypedScript
