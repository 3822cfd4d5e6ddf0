/-!
Where files come from.
-/

namespace TypedScript

inductive ReadError where
  | missing
  | directory
  /-- A file stands where the path needs a directory. -/
  | notDirectory
  | notText
  | nullInPath
  | other (reason : String)
deriving DecidableEq, Repr

namespace ReadError

def message : ReadError → String
  | .missing => "No such file or directory (os error 2)"
  | .directory => "Is a directory (os error 21)"
  | .notDirectory => "Not a directory (os error 20)"
  | .notText => "stream did not contain valid UTF-8"
  | .nullInPath => "file name contained an unexpected NUL byte"
  | .other reason => reason

end ReadError

structure FileSource (m : Type → Type) where
  /-- Whether a path leads to a file or directory. -/
  holds : String → m Bool
  read : String → m (Except ReadError String)

def readText (bytes : ByteArray) : Except ReadError String :=
  match String.fromUTF8? bytes with
  | some text => .ok text
  | none => .error .notText

end TypedScript
