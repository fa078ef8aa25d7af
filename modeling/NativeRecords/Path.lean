/-
# NativeRecords.Path -- file paths and the names of generated files

A path is a root and its components. Empty components and `.` vanish when a path is read, `..`
stays. Exactly two slashes at the start are a root of their own; any other number of them is the
plain root.

The file generated for an input lies in the directory of its language and is named after the
input: the parts of the name between hyphens and underscores, each with an upper-case first
letter.
-/
import NativeRecords.Text.Upper

namespace NativeRecords

/-- Cuts a text at every character that satisfies `isSeparator`; the pieces may be empty. -/
def splitAtAny (isSeparator : Char → Bool) : List Char → List (List Char)
  | [] => [[]]
  | c :: rest =>
    if isSeparator c then [] :: splitAtAny isSeparator rest
    else
      match splitAtAny isSeparator rest with
      | [] => [[c]]
      | piece :: pieces => (c :: piece) :: pieces

/-- A file path: the slashes that it starts with, as far as they count, and its components. -/
structure Path where
  root : String := ""
  components : List String := []
deriving DecidableEq

namespace Path

/-- Whether a piece between slashes is a component of a path. -/
def isComponent (piece : String) : Bool := piece ≠ "" && piece ≠ "."

/-- The components of a path as it is written. -/
def componentsOf (text : String) : List String :=
  ((splitAtAny (· = '/') text.toList).map String.ofList).filter isComponent

/-- The root of a path as it is written. -/
def rootOf (text : String) : String :=
  match (text.toList.takeWhile (· = '/')).length with
  | 0 => ""
  | 2 => "//"
  | _ => "/"

/-- Reads a path. -/
def ofString (text : String) : Path := ⟨rootOf text, componentsOf text⟩

/-- A path below another; an absolute one replaces it. -/
def join (path below : Path) : Path :=
  if below.root = "" then ⟨path.root, path.components ++ below.components⟩ else below

/-- The written form of a path; a path without root and components is the current directory. -/
def toString (path : Path) : String :=
  let text := path.root ++ "/".intercalate path.components
  if text = "" then "." else text

/-- The last component. -/
def name (path : Path) : String := path.components.getLast?.getD ""

/-- A name up to its last dot, unless the name starts or ends with that dot. -/
def stemOf (name : List Char) : List Char :=
  let ending := name.reverse.takeWhile (· ≠ '.')
  let start := (name.reverse.dropWhile (· ≠ '.')).drop 1
  if ending.isEmpty || start.isEmpty then name else start.reverse

/-- The last component up to its last dot. -/
def stem (path : Path) : String := String.ofList (stemOf path.name.toList)

end Path

/-- A word with its first letter in upper case. -/
def capitalize : List Char → List Char
  | [] => []
  | c :: rest => upperCase c ++ rest

/-- Whether `c` separates the words of a file name. -/
def isWordSeparator (c : Char) : Bool := c = '-' || c = '_'

/-- The name of the file generated for an input, without its extension. -/
def fileStem (input : String) : String :=
  String.ofList
    ((splitAtAny isWordSeparator (Path.ofString input).stem.toList).flatMap capitalize)

/-- The path of the file generated for an input: in the directory of the language, below the
output directory. -/
def outputPath (output input language extension : String) : Path :=
  ((Path.ofString output).join (Path.ofString language)).join
    (Path.ofString (fileStem input ++ "." ++ extension))

end NativeRecords
