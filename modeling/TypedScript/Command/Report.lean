import TypedScript.Parser.Error
import TypedScript.Search

/-!
How errors are reported. An error in a file is a single line, or it is shown in the text where it
was found; the layout of that is not part of the program.
-/

namespace TypedScript

structure SourceError where
  message : String
  code : Nat
  /-- What is said of the text that the error points to. -/
  label : String
  span : Span
  file : String
  source : String
deriving DecidableEq, Repr

namespace SourceError

def ofError (file source : String) (error : SyntaxError) : SourceError where
  message := error.diagnostic.text
  code := error.diagnostic.code
  label := error.label
  span := error.span
  file := file
  source := source

def brief (error : SourceError) : String :=
  s!"{error.file}: error TS{error.code}: {error.message}\n  {error.label}"

end SourceError

/-- What a run relies on: regular expressions, the layout of errors that are shown in their source,
and the terminals that it may print to. -/
structure Host where
  /-- The regular expression that is written in a text. -/
  regex? : String → Option Regex
  layout : SourceError → String
  colorsOutput : Bool
  colorsErrors : Bool

inductive ReportStyle where
  | plain
  | labelled
deriving DecidableEq, Repr

def SyntaxError.report (host : Host) (style : ReportStyle) (file source : String)
    (error : SyntaxError) : String :=
  match style with
  | .plain => (error.diagnostic.inFile file).line
  | .labelled => host.layout (.ofError file source error)

def Host.errorText (host : Host) (message : String) : String :=
  (if host.colorsErrors then "\x1b[1m\x1b[31merror\x1b[0m" else "error") ++ s!": {message}"

end TypedScript
