/-
# NativeRecords.Main -- the command line program

The program looks up what is at the paths named on its command line, runs the command on that part
of the file system, and writes the files of the report.
-/
import NativeRecords.Command.Run

namespace NativeRecords.Command

/-- Adds to a tree what is at a path of the file system. -/
def lookUp (tree : FileTree) (path : List String) : IO FileTree := do
  let location := (← IO.currentDir) / absoluteText path
  if ← location.isDir then
    return { tree with directories := tree.directories ++ FileTree.parents path ++ [path] }
  else if ← location.pathExists then
    return tree.add path (← IO.FS.readFile location)
  else
    return tree

/-- Writes the files of `after` that `before` does not have. -/
def writeChanges (before after : FileTree) : IO Unit :=
  for (path, content) in after.files do
    if before.content? path != some content then
      IO.FS.createDirAll (absoluteText path.dropLast)
      IO.FS.writeFile (absoluteText path) content

/-- Runs the command in the current directory and returns its exit code. -/
def execute (words : List String) : IO UInt32 := do
  let current := Path.componentsOf (← IO.currentDir).toString
  let arguments := (Arguments.read? {} words).getD {}
  let named := (arguments.config.toList ++ arguments.words).map (resolvePath current)
  let before ← named.foldlM lookUp { directories := [[], current] }
  let report := run before current words
  writeChanges before report.progress.tree
  IO.print report.stdout
  IO.eprint report.stderr
  return report.ending.exitCode.toUInt32

end NativeRecords.Command

/-- The entry point of the program. -/
def main (words : List String) : IO UInt32 := NativeRecords.Command.execute words
