/-!
# Files

A tree of files and a current directory in it. A path is followed component by component, from the
root when it starts with a slash and from the current directory otherwise; everything before the
last component has to be a directory.
-/

namespace Spreadsheet

/-- What a path leads to. -/
inductive Entry where
  | file (content : ByteArray)
  | directory

/-- Files and directories by their components from the root. The root, the current directory and
directories on the way to an entry need none of their own, and a later entry replaces an earlier
one. -/
structure Files where
  current : List String
  entries : List (List String × Entry)

/-- Why a path cannot be used. -/
inductive FileFault where
  | notFound
  | notDirectory
  | isDirectory
  | nameTooLong
  | nulInPath
deriving DecidableEq

/-- The wording of a file fault. -/
def FileFault.message : FileFault → String
  | .notFound => "No such file or directory (os error 2)"
  | .notDirectory => "Not a directory (os error 20)"
  | .isDirectory => "Is a directory (os error 21)"
  | .nameTooLong => "File name too long (os error 36)"
  | .nulInPath => "file name contained an unexpected NUL byte"

namespace Files

/-- The entry at some components. -/
def entry? (files : Files) (place : List String) : Option Entry :=
  match files.entries.reverse.lookup place with
  | some e => some e
  | none =>
    let known := files.current :: files.entries.map (·.1)
    if known.any place.isPrefixOf then some .directory else none

/-- The files with a content stored at some components. -/
def store (files : Files) (place : List String) (content : ByteArray) : Files :=
  { files with entries := files.entries ++ [(place, .file content)] }

/-- Bytes that one component may take. -/
def longestName : Nat := 255

/-- Bytes that a path may take. -/
def longestPath : Nat := 4095

/-- One step along a path, from a directory. -/
def walk (files : Files) (place : List String) (component : String) :
    Except FileFault (List String) :=
  match files.entry? place with
  | none => .error .notFound
  | some (.file _) => .error .notDirectory
  | some .directory =>
    if component = "." then .ok place
    else if component = ".." then .ok place.dropLast
    else if longestName < component.utf8ByteSize then .error .nameTooLong
    else .ok (place ++ [component])

/-- The components of a path; empty ones do not count. -/
def components (path : String) : List String :=
  ((path.toList.splitOn '/').filter (· ≠ [])).map String.ofList

/-- The path can only lead to a directory. -/
def namesDirectory (path : String) : Bool :=
  path.endsWith "/" || (components path).getLast?.any fun c => c == "." || c == ".."

/-- The components that a path leads to. -/
def follow (files : Files) (path : String) : Except FileFault (List String) :=
  if path.toList.contains '\x00' then .error .nulInPath
  else if longestPath < path.utf8ByteSize then .error .nameTooLong
  else if path = "" then .error .notFound
  else (components path).foldlM files.walk (if path.startsWith "/" then [] else files.current)

/-- What a path leads to. -/
def find (files : Files) (path : String) : Except FileFault Entry := do
  let place ← files.follow path
  match files.entry? place with
  | none => .error .notFound
  | some (.file content) =>
    if namesDirectory path then .error .notDirectory else .ok (.file content)
  | some .directory => .ok .directory

/-- The content of the file at a path. -/
def read (files : Files) (path : String) : Except FileFault ByteArray := do
  match ← files.find path with
  | .file content => .ok content
  | .directory => .error .isDirectory

/-- The files with a content written to a path. -/
def write (files : Files) (path : String) (content : ByteArray) : Except FileFault Files := do
  let place ← files.follow path
  if namesDirectory path then .error .isDirectory
  else match files.entry? place with
    | some .directory => .error .isDirectory
    | _ => .ok (files.store place content)

/-- Where a path leads when it is taken by its words, from a directory. -/
def place (current : List String) (path : String) : List String :=
  (if path.startsWith "/" then [] else current) ++ (components path).filter (· ≠ ".")

/-- Files given by their paths, which are taken by their words. -/
def ofList (current : List String) (given : List (String × Entry)) : Files :=
  ⟨current, given.map fun (path, e) => (place current path, e)⟩

end Files

end Spreadsheet
