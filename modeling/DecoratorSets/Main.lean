import DecoratorSets.CommandLine.Run

/-!
# The program

The program looks at the paths that the request names, carries out the request
on what it found, and prints and writes what comes of it.
-/

namespace DecoratorSets

namespace CommandLine

/-- The number under which the system reports a directory where a file was
expected. -/
def isDirectoryCode : UInt32 := 21

/-- What a path leads to, if it leads to something. -/
def lookAt (path : String) : IO (Option FileEntry) := do
  try
    return some (.file (← IO.FS.readFile path))
  catch
    | .inappropriateType _ code _ =>
      return if code = isDirectoryCode then some .directory else none
    | _ => return none

/-- Adds what is found under a path to a tree. -/
def lookInto (tree : FileTree) (path : String) : IO FileTree := do
  match tree.locate path with
  | .error _ => return tree
  | .ok l =>
    match ← lookAt path with
    | some (.file text) => return { tree with files := tree.files ++ [(l, text)] }
    | some .directory => return { tree with directories := tree.directories ++ [l] }
    | none => return tree

/-- The paths of the directories on the way to a path, and the path itself. -/
def wayTo (path : String) : List String :=
  let parts := FilePath.parts path
  (List.range (parts.length + 1)).map fun n =>
    FilePath.ofParts (FilePath.isAbsolute path) (parts.take n)

/-- Prints lines, one after the other. -/
def putLines (out : IO.FS.Stream) (lines : List String) : IO Unit := do
  for line in lines do out.putStrLn line

/-- Writes the files of a tree that are new or have another text than before. -/
def writeFiles (before after : FileTree) : IO Unit := do
  for l in after.directories do
    IO.FS.createDirAll (FilePath.ofParts l.absolute l.names)
  for (l, text) in after.files do
    if before.files.lookup l ≠ some text then
      IO.FS.writeFile (FilePath.ofParts l.absolute l.names) text

/-- Runs the program and gives its exit code. -/
def program (args : List String) : IO UInt32 := do
  let paths := match Request.ofArguments args with
    | .ok request => request.paths
    | .error _ => []
  let tree ← (paths.flatMap wayTo).foldlM lookInto ⟨[], []⟩
  let outcome := run tree args
  writeFiles tree outcome.progress.files
  putLines (← IO.getStdout) outcome.progress.output
  putLines (← IO.getStderr) outcome.progress.errors
  return outcome.exitCode.toUInt32

end CommandLine

end DecoratorSets

/-- Runs the program. -/
def main (args : List String) : IO UInt32 := DecoratorSets.CommandLine.program args
