import Literate.CommandLine.Run

/-! The program itself. It reads the files that the arguments are about, runs on them as a
value, and then writes what the run changed. -/

namespace Literate.Program

/-- A location as the file system knows it. -/
def entry (location : Location) : IO.FS.DirEntry :=
  { root := "/", fileName := String.ofList (Text.join ['/'] location) }

/-- What is on disk at an entry. Directories beyond the depth are taken for empty. -/
def load : (depth : Nat) → IO.FS.DirEntry → IO Node
  | 0, _ => return .directory []
  | depth + 1, entry => do
    if ← entry.path.isDir then
      let inner ← (← entry.path.readDir).toList.mapM fun child => do
        return (child.fileName.toList, ← load depth child)
      return .directory inner
    else return .file (← IO.FS.readBinFile entry.path)

/-- More levels than a path has room for. -/
def depth : Nat := 2048

/-- The tree with everything at the end of a path, and what is met on the way to it. -/
def fetchFrom (here : Location) : List Text → FileTree → IO FileTree
  | [], tree => return tree.put here (← load depth (entry here))
  | segment :: rest, tree => do
    if segment = [] || segment = ['.'] then fetchFrom here rest tree
    else if segment = ['.', '.'] then fetchFrom here.dropLast rest tree
    else
      let next := here ++ [segment]
      if (tree.get? next).isSome then fetchFrom next rest tree
      else if ← (entry next).path.isDir then fetchFrom next rest (tree.put next (.directory []))
      else if ← (entry next).path.pathExists then return tree.put next (← load 1 (entry next))
      else return tree

def fetch (tree : FileTree) (path : Path) : IO FileTree := fetchFrom (tree.origin path) path.segments tree

/-- The directories down to the current one, all of them empty. -/
def start : IO FileTree := do
  let current := (Path.segments (← IO.currentDir).toString.toList).filter (· ≠ [])
  return { root := current.foldr (fun name inner => .directory [(name, inner)]) (.directory []), current }

/-- The files that a command is about. -/
def gather (tree : FileTree) : CommandLine.Command → IO FileTree
  | .blocks arguments => fetch tree arguments.file
  | .build arguments => do
    let configured ← fetch tree arguments.configPath
    match arguments.settings configured with
    | .error _ => return configured
    | .ok settings => fetch (← fetch configured settings.input) settings.output

/-- Writes what is new or different after a run. -/
def save (before after : FileTree) : IO Unit := do
  for (location, content) in FileTree.changes { before with current := [] } { after with current := [] } do
    match content with
    | none => IO.FS.createDir (entry location).path
    | some bytes => IO.FS.writeBinFile (entry location).path bytes

end Literate.Program

open Literate in
def main (arguments : List String) : IO UInt32 := do
  let texts := arguments.map String.toList
  let terminal ← IO.getEnv "TERM"
  let empty ← Program.start
  let tree ← match CommandLine.parse (CommandLine.withDefaultCommand texts) with
    | .ok invocation => Program.gather empty invocation.command
    | .error _ => pure empty
  let outcome := CommandLine.run texts (terminal.map String.toList) tree
  Program.save tree outcome.tree
  (← IO.getStdout).putStr (String.ofList outcome.stdout)
  (← IO.getStderr).putStr (String.ofList outcome.stderr)
  return outcome.exit.toUInt32
