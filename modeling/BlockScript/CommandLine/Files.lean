import BlockScript.Failure

/-!
A table of files, with the directory that relative paths start in. Directories exist where a file
lies in them, and on the way to the working directory. A path is followed part by part: `.` stays,
`..` leaves, and every part but the last has to be a directory. Nothing lies above the root. A slash
at the end of a path asks for a directory, so no file can be read or written there.
-/
namespace BlockScript

abbrev Path := List Text

inductive Content where
  | text (t : Text)
  /-- Bytes that are no text. -/
  | binary
  deriving DecidableEq

structure Files where
  working : Path := []
  entries : List (Path × Content)
  deriving DecidableEq

namespace Files

def get? (files : Files) (path : Path) : Option Content := files.entries.lookup path

def isDirectory (files : Files) (path : Path) : Bool :=
  path.isPrefixOf files.working ||
    files.entries.any fun (p, _) => path.isPrefixOf p && path ≠ p

def put (files : Files) (path : Path) (content : Content) : Files :=
  { files with
    entries :=
      if (files.get? path).isSome then
        files.entries.map fun e => if e.1 = path then (path, content) else e
      else files.entries ++ [(path, content)] }

inductive Location where
  | directory (path : Path)
  | file (path : Path)
  /-- Nothing is there, but its directory is. -/
  | free (path : Path)

def locate (files : Files) (path : Path) : Location :=
  if files.isDirectory path then .directory path
  else if (files.get? path).isSome then .file path
  else .free path

def longestName : Nat := 255

def longestPath : Nat := 4095

def enter (files : Files) (part : Text) : Location → Except FileError Location
  | .file _ => .error .notDirectory
  | .free _ => .error .notFound
  | .directory path =>
      if longestName < part.utf8Length then .error .nameTooLong
      else if part = "." then .ok (.directory path)
      else if part = ".." then .ok (files.locate path.dropLast)
      else .ok (files.locate (path ++ [part]))

def start (files : Files) (path : Text) : Path :=
  if path.head? = some '/' then [] else files.working

def follow (files : Files) (path : Text) : Except FileError Location :=
  if path = [] then .error .notFound
  else if longestPath < path.utf8Length then .error .nameTooLong
  else
    ((path.splitOn '/').filter (· ≠ [])).foldlM (fun place part => files.enter part place)
      (.directory (files.start path))

def isSlashed (path : Text) : Bool := path.endsWith (· == '/')

def read (files : Files) (path : Text) : Except FileError Text := do
  match ← files.follow path with
  | .directory _ => throw .isDirectory
  | .free _ => throw .notFound
  | .file p =>
      if isSlashed path then throw .notDirectory
      else
        match files.get? p with
        | some (.text t) => return t
        | _ => throw .notText

def write (files : Files) (path text : Text) : Except FileError Files := do
  match ← files.follow path with
  | .directory _ => throw .isDirectory
  | .free p | .file p =>
      if isSlashed path then throw .isDirectory else return files.put p (.text text)

end Files

/-- The name in a path without its extension. A dot at the start of the name begins none. -/
def fileStem (path : Text) : Option Text :=
  match ((path.splitOn '/').filter fun part => part ≠ [] && part ≠ ".").getLast? with
  | none => none
  | some name =>
    if name = ".." then none
    else
      let extension := name.reverse.takeWhile (· ≠ '.')
      let stem := name.take (name.length - extension.length - 1)
      if stem = [] then some name else some stem

end BlockScript
