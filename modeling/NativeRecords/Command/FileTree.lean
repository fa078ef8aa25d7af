/-
# NativeRecords.Command.FileTree -- files and directories

A file tree says of every absolute path, given by its components, whether it is a file, a
directory, below a file, or missing. The root is always a directory.
-/

namespace NativeRecords.Command

/-- Why a path cannot be read or written. -/
inductive FileFault where
  /-- A file was expected at a directory. -/
  | isDirectory
  /-- A path runs through a file. -/
  | notDirectory
  /-- A directory was to be made at a file. -/
  | alreadyExists
  /-- There is nothing at the path. -/
  | notFound

/-- What is at a path. -/
inductive PathStatus where
  | file (content : String)
  | directory
  | belowFile
  | missing

/-- Files and directories by the components of their absolute paths. -/
structure FileTree where
  files : List (List String × String) := []
  directories : List (List String) := []

namespace FileTree

/-- The proper beginnings of a path, the shortest first. -/
def parents (path : List String) : List (List String) :=
  (List.range path.length).map path.take

/-- The content of a file. -/
def content? (tree : FileTree) (path : List String) : Option String := tree.files.lookup path

/-- What is at a path. -/
def status (tree : FileTree) (path : List String) : PathStatus :=
  match tree.content? path with
  | some content => .file content
  | none =>
    if path = [] ∨ path ∈ tree.directories then .directory
    else if (parents path).any fun parent => (tree.content? parent).isSome then .belowFile
    else .missing

/-- Whether there is a file or a directory at a path. -/
def has (tree : FileTree) (path : List String) : Bool :=
  match tree.status path with
  | .file _ => true
  | .directory => true
  | _ => false

/-- The content of a file, which has to be one. -/
def read (tree : FileTree) (path : List String) : Except FileFault String :=
  match tree.status path with
  | .file content => .ok content
  | .directory => .error .isDirectory
  | .belowFile => .error .notDirectory
  | .missing => .error .notFound

/-- Makes a directory and those above it, as far as they are missing. -/
def makeDirectory (tree : FileTree) (path : List String) : Except FileFault FileTree :=
  match tree.status path with
  | .directory => .ok tree
  | .file _ => .error .alreadyExists
  | .belowFile => .error .notDirectory
  | .missing =>
    let made := (parents path ++ [path]).filter fun parent => parent ∉ tree.directories
    .ok { tree with directories := tree.directories ++ made }

/-- Puts a file in its place, or adds it at the end. -/
def putFile (path : List String) (content : String) :
    List (List String × String) → List (List String × String)
  | [] => [(path, content)]
  | (other, old) :: rest =>
    if other = path then (path, content) :: rest else (other, old) :: putFile path content rest

/-- Writes a file into a directory that is there. -/
def write (tree : FileTree) (path : List String) (content : String) :
    Except FileFault FileTree :=
  match tree.status path with
  | .directory => .error .isDirectory
  | .belowFile => .error .notDirectory
  | _ => .ok { tree with files := putFile path content tree.files }

/-- Adds a file and the directories above it. -/
def add (tree : FileTree) (path : List String) (content : String) : FileTree where
  files := putFile path content tree.files
  directories :=
    tree.directories ++ (parents path).filter fun parent => parent ∉ tree.directories

end FileTree
end NativeRecords.Command
