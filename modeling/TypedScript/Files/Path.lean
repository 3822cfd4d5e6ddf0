/-!
Paths of files. A path is kept as it was written, also where another one would lead to the same
place.
-/

namespace TypedScript.Path

/-- A path that is relative to the directory `base`. Nothing is put between them if `base` is empty
or ends in a slash; an absolute path stays as it is. -/
def join (base path : String) : String :=
  if path.startsWith "/" then path
  else if base.isEmpty || base.endsWith "/" then base ++ path
  else base ++ "/" ++ path

/-- Whether a part between two slashes leads nowhere. -/
def isIdle (part : String) : Bool :=
  part.isEmpty || part == "."

/-- What a path begins with: the root, a leading dot that is a part of its own, or nothing; and the
parts after it. -/
def split (path : String) : String × List String :=
  match path.toList with
  | '/' :: rest => ("/", (String.ofList rest).splitOn "/")
  | ['.'] => (".", [])
  | '.' :: '/' :: rest => (".", (String.ofList ('/' :: rest)).splitOn "/")
  | _ => ("", path.splitOn "/")

def trim (parts : List String) : List String :=
  (parts.reverse.dropWhile isIdle).reverse

/-- The directory that holds what a path leads to: the path without its last part. It is empty if
nothing is left. -/
def parent (path : String) : String :=
  let (start, parts) := split path
  let parts := trim parts
  if parts.isEmpty then ""
  else start ++ String.intercalate "/" (trim parts.dropLast)

end TypedScript.Path
