import Literate.Failure
import Literate.Input

/-! Finding the input files below a directory. Entries whose name starts with a dot are
hidden, and the directory the output goes to is left out. The result is ordered by
path, component by component, with the index files in front. -/

namespace Literate

namespace Discovery

def isHidden (name : Text) : Bool := name.head? = some '.'

/-- The files below a directory with these entries, by their relative locations. The walk
goes into subdirectories only if asked to, and never into the excluded one. -/
def walk (recursive : Bool) (excluded : Option Location) (here : Location) (entries : List (Text × Node)) :
    List Location :=
  match entries with
  | [] => []
  | (name, .directory inner) :: rest =>
    if isHidden name || !recursive || excluded = some (here ++ [name]) then walk recursive excluded here rest
    else (walk recursive excluded (here ++ [name]) inner).map (name :: ·) ++ walk recursive excluded here rest
  | (name, .file _) :: rest =>
    if isHidden name then walk recursive excluded here rest
    else [name] :: walk recursive excluded here rest
termination_by sizeOf entries
decreasing_by
  · exact Node.sizeOf_rest _ _
  · exact Node.sizeOf_inner _ _ _
  · exact Node.sizeOf_rest _ _
  · exact Node.sizeOf_rest _ _
  · exact Node.sizeOf_rest _ _

/-- All filters as patterns, or the first that is not one. -/
def compile : List Text → Except Failure (List Glob)
  | [] => .ok []
  | filter :: filters =>
    match Glob.parse filter with
    | .error error => .error (.filter filter error)
    | .ok glob => (compile filters).map (glob :: ·)

/-- The file matches one of the patterns, or there are none. -/
def isSelected (globs : List Glob) (file : Input) : Bool :=
  globs.isEmpty || globs.any (·.isMatch file.filterText)

/-- The input file at a location below the base directory. -/
def fileAt (base : Path) (location : Location) : Input := ⟨base, Text.join ['/'] location⟩

/-- Index files in front, each of the two groups in its order. -/
def indexFirst (files : List Input) : List Input :=
  files.filter (·.isIndex) ++ files.filter (!·.isIndex)

/-- The selected files below a directory in processing order. Filters are checked before
the directory is read. -/
def find (tree : FileTree) (root : Path) (filters : List Text) (recursive : Bool) (exclude : Option Path) :
    Except Failure (List Input) :=
  match compile filters with
  | .error failure => .error failure
  | .ok globs =>
    match tree.resolve root with
    | .error error => .error (.read root error)
    | .ok location =>
      match tree.get? location with
      | none => .error (.read root .missing)
      | some (.file _) => .error (.read root .notDirectory)
      | some (.directory entries) =>
        let excluded := exclude.bind fun path => (tree.resolve path).toOption
        let found := (walk recursive excluded location entries).mergeSort Location.precedes
        .ok (indexFirst ((found.map (fileAt root)).filter (isSelected globs)))

end Discovery

end Literate
