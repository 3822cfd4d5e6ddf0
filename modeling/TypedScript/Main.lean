import TypedScript.Command.Run

/-!
The program itself: it reads files from the disk and prints what the run of its command line
leaves behind.
-/

namespace TypedScript

def ReadError.ofSystem (error : IO.Error) : ReadError :=
  match error with
  | .noFileOrDirectory .. => .missing
  | .inappropriateType _ 21 _ => .directory
  | .inappropriateType .. => .notDirectory
  | error => .other (toString error)

def readFromDisk (path : String) : IO (Except ReadError String) := do
  try
    return readText (← IO.FS.readBinFile path)
  catch error =>
    return .error (.ofSystem error)

def disk : FileSource IO where
  holds path := do
    match ← readFromDisk path with
    | .error .missing | .error .notDirectory => return false
    | _ => return true
  read := readFromDisk

end TypedScript

open TypedScript in
def main (arguments : List String) : IO UInt32 := do
  let outcome ← runArguments disk arguments
  (← IO.getStdout).putStr outcome.output
  (← IO.getStderr).putStr outcome.errors
  return outcome.exitCode.toUInt32
