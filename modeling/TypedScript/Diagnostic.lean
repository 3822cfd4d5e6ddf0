import TypedScript.Text.Numeral
import TypedScript.Text.Position
import TypedScript.Text.Span

/-!
Numbered messages for the user.
-/

namespace TypedScript

inductive Severity where
  | warning
  | error
deriving DecidableEq, Repr

namespace Severity

def text : Severity → String
  | .warning => "warning"
  | .error => "error"

end Severity

/-! A template may hold placeholders: the index of an argument in braces. -/

namespace Template

/-- The argument that a placeholder stands for, and what comes after it; `chars` begins right
after the opening brace. -/
def placeholder? (arguments : List String) (chars : List Char) :
    Option (List Char × List Char) :=
  match chars.dropWhile (· != '\x7d') with
  | [] => none
  | _ :: after =>
      (Numeral.read? 10 Numeral.bound64 (chars.takeWhile (· != '\x7d'))).bind fun index =>
        arguments[index]?.map fun argument => (argument.toList, after)

theorem placeholder?_length_lt {arguments : List String} {chars text after : List Char}
    (found : placeholder? arguments chars = some (text, after)) :
    after.length < chars.length := by
  have bound := (List.dropWhile_suffix (l := chars) (· != '\x7d')).length_le
  unfold placeholder? at found
  split at found
  · cases found
  · next shape =>
      rw [shape, List.length_cons] at bound
      simp only [Option.bind_eq_some_iff, Option.map_eq_some_iff, Prod.mk.injEq] at found
      obtain ⟨_, _, _, _, _, rfl⟩ := found
      omega

/-- Puts the arguments in place of their placeholders. A brace that opens no placeholder of an
argument stays as it is. -/
def fillChars (arguments : List String) : List Char → List Char
  | [] => []
  | char :: rest =>
      if char == '\x7b' then
        match _found : placeholder? arguments rest with
        | some (text, after) => text ++ fillChars arguments after
        | none => char :: fillChars arguments rest
      else
        char :: fillChars arguments rest
termination_by chars => chars.length
decreasing_by
  · have := placeholder?_length_lt _found
    simp only [List.length_cons]
    omega
  all_goals simp

def fill (template : String) (arguments : List String) : String :=
  String.ofList (fillChars arguments template.toList)

end Template

structure Message where
  code : Nat
  severity : Severity
  template : String
deriving DecidableEq, Repr

namespace Message

def unterminatedString : Message := ⟨1002, .error, "Unterminated string literal."⟩

def invalidCharacter : Message := ⟨1127, .error, "Invalid character."⟩

def identifierExpected : Message := ⟨1003, .error, "Identifier expected."⟩

def tokenExpected : Message := ⟨1005, .error, "'\x7b0\x7d' expected."⟩

def unexpectedToken : Message :=
  ⟨1012, .error, "Unexpected token '\x7b0\x7d'. \x7b1\x7d expected."⟩

def typeExpected : Message := ⟨1110, .error, "Type expected."⟩

def unexpectedEnd : Message := ⟨1126, .error, "Unexpected end of text."⟩

def nestingLimitExceeded : Message := ⟨1200, .error, "Maximum nesting depth of \x7b0\x7d exceeded."⟩

end Message

structure Diagnostic where
  code : Nat
  severity : Severity
  text : String
  file : Option String
  /-- Where the text stands that the message is about. -/
  place : Option (Position × Span)
deriving DecidableEq, Repr

namespace Diagnostic

def ofMessage (message : Message) (arguments : List String) : Diagnostic :=
  ⟨message.code, message.severity, Template.fill message.template arguments, none, none⟩

def withPlace (diagnostic : Diagnostic) (position : Position) (span : Span) : Diagnostic :=
  { diagnostic with place := some (position, span) }

def inFile (diagnostic : Diagnostic) (file : String) : Diagnostic :=
  { diagnostic with file := some file }

def isError (diagnostic : Diagnostic) : Bool :=
  diagnostic.severity == .error

def line (diagnostic : Diagnostic) : String :=
  let place := match diagnostic.file, diagnostic.place with
    | some file, some (position, _) => s!"{file}({position.line},{position.column}): "
    | some file, none => file ++ ": "
    | none, _ => ""
  s!"{place}{diagnostic.severity.text} TS{diagnostic.code}: {diagnostic.text}"

def errorCount (diagnostics : List Diagnostic) : Nat :=
  diagnostics.countP isError

end Diagnostic

end TypedScript
