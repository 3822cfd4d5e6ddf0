import TypedScript.Files.Basic

/-!
A directory tree that is held in memory. Paths are walked part by part from the directory that the
tree stands for. Nothing is known of what lies outside of it, so no name is found there.
-/

namespace TypedScript

/-- The files of a directory and the directories in it. Each file is given by the parts of its
path. -/
structure FileTree where
  files : List (List String × ByteArray)

namespace FileTree

def ofList (files : List (String × ByteArray)) : FileTree :=
  ⟨files.map fun (path, bytes) => (path.splitOn "/", bytes)⟩

inductive Entry where
  | file (bytes : ByteArray)
  /-- A directory, given by its path from the root of the tree. -/
  | directory (path : List String)
  | outside

def lookup (tree : FileTree) (path : List String) : Except ReadError Entry :=
  match tree.files.lookup path with
  | some bytes => .ok (.file bytes)
  | none =>
      if tree.files.any fun file => path.isPrefixOf file.1 then .ok (.directory path)
      else .error .missing

def enter (tree : FileTree) (entry : Entry) (part : String) : Except ReadError Entry :=
  match entry with
  | .file _ => .error .notDirectory
  | .directory path =>
      if part.isEmpty || part == "." then .ok entry
      else if part == ".." then
        .ok (if path.isEmpty then .outside else .directory path.dropLast)
      else tree.lookup (path ++ [part])
  | .outside =>
      if part.isEmpty || part == "." || part == ".." then .ok entry else .error .missing

def find (tree : FileTree) (path : String) : Except ReadError Entry :=
  if path.isEmpty then .error .missing
  else if path.contains '\x00' then .error .nullInPath
  else
    (path.splitOn "/").foldlM tree.enter (if path.startsWith "/" then .outside else .directory [])

def read (tree : FileTree) (path : String) : Except ReadError String := do
  match ← tree.find path with
  | .file bytes => readText bytes
  | .directory _ | .outside => .error .directory

def source (tree : FileTree) : FileSource Id where
  holds path := (tree.find path).isOk
  read path := tree.read path

end FileTree

end TypedScript
