import Literate.Path

/-! Files and directories as a value. The tree is what a run of the program reads and
changes; every operation either gives the changed tree or says why it could not. -/

namespace Literate

/-- A file, or a directory with its named entries. -/
inductive Node where
  | file (bytes : ByteArray)
  | directory (entries : List (Text × Node))

/-- The names on the way from the root to a node. -/
abbrev Location := List Text

/-- At or before another location in the order of names on the way. -/
def Location.precedes : (first second : Location) → Bool
  | [], _ => true
  | _ :: _, [] => false
  | name :: first, other :: second => if name = other then precedes first second else name.precedes other

namespace Node

/-- The entry with this name. -/
def child? (name : Text) : Node → Option Node
  | file _ => none
  | directory entries => entries.lookup name

def isDirectory : Node → Bool
  | file _ => false
  | directory _ => true

/-- The node at a location. -/
def get? (node : Node) : Location → Option Node
  | [] => some node
  | name :: rest => (node.child? name).bind fun child => get? child rest

/-- Entries with one of them replaced in its place, or added at the end. -/
def replaceEntry (name : Text) (node : Node) : List (Text × Node) → List (Text × Node)
  | [] => [(name, node)]
  | (other, old) :: entries =>
    if other = name then (name, node) :: entries else (other, old) :: replaceEntry name node entries

/-- The tree with a node put at a location. Nothing changes where the directory that
would hold it is missing. -/
def put (node : Node) (location : Location) (new : Node) : Node :=
  match location, node with
  | [], _ => new
  | _ :: _, file bytes => file bytes
  | [name], directory entries => directory (replaceEntry name new entries)
  | name :: rest, directory entries =>
    match entries.lookup name with
    | some child => directory (replaceEntry name (put child rest new) entries)
    | none => directory entries

/-- The tree without the node at a location. -/
def erase (node : Node) (location : Location) : Node :=
  match location, node with
  | [], _ => node
  | _ :: _, file bytes => file bytes
  | [name], directory entries => directory (entries.filter (·.1 ≠ name))
  | name :: rest, directory entries =>
    match entries.lookup name with
    | some child => directory (replaceEntry name (erase child rest) entries)
    | none => directory entries

/-- What is inside a directory is smaller than a list of entries with the directory. -/
theorem sizeOf_inner (name : Text) (inner rest : List (Text × Node)) :
    sizeOf inner < sizeOf ((name, directory inner) :: rest) := by
  simp only [List.cons.sizeOf_spec, Prod.mk.sizeOf_spec, directory.sizeOf_spec]
  omega

theorem sizeOf_rest (entry : Text × Node) (rest : List (Text × Node)) : sizeOf rest < sizeOf (entry :: rest) := by
  simp only [List.cons.sizeOf_spec]
  omega

/-- Every entry below a list of entries, with its location: the bytes of a file, or
nothing for a directory. -/
def listing (entries : List (Text × Node)) : List (Location × Option ByteArray) :=
  match entries with
  | [] => []
  | (name, file bytes) :: rest => ([name], some bytes) :: listing rest
  | (name, directory inner) :: rest =>
    ([name], none) :: (listing inner).map (fun (location, content) => (name :: location, content)) ++ listing rest
termination_by sizeOf entries
decreasing_by
  · exact sizeOf_rest _ _
  · exact sizeOf_inner _ _ _
  · exact sizeOf_rest _ _

end Node

/-- Why an operation on files fails. -/
inductive FileError where
  | missing
  | alreadyExists
  | notDirectory
  | isDirectory
  | invalidText
deriving DecidableEq

def FileError.message : FileError → String
  | missing => "No such file or directory (os error 2)"
  | alreadyExists => "File exists (os error 17)"
  | notDirectory => "Not a directory (os error 20)"
  | isDirectory => "Is a directory (os error 21)"
  | invalidText => "stream did not contain valid UTF-8"

/-- All files, and the directory that relative paths start from. -/
structure FileTree where
  root : Node := .directory []
  current : Location := []

namespace FileTree

def get? (tree : FileTree) (location : Location) : Option Node := tree.root.get? location

def put (tree : FileTree) (location : Location) (node : Node) : FileTree :=
  { tree with root := tree.root.put location node }

/-- Follows path segments from a location. Each segment, also an empty one, is looked up
in a directory. -/
def follow (tree : FileTree) : Location → List Text → Except FileError Location
  | here, [] => .ok here
  | here, segment :: rest =>
    match tree.get? here with
    | none => .error .missing
    | some (.file _) => .error .notDirectory
    | some (.directory entries) =>
      if segment = [] || segment = ['.'] then tree.follow here rest
      else if segment = ['.', '.'] then tree.follow here.dropLast rest
      else if (entries.lookup segment).isSome then tree.follow (here ++ [segment]) rest
      else .error .missing

/-- Where following a path starts. -/
def origin (tree : FileTree) (path : Path) : Location := if path.isAbsolute then [] else tree.current

/-- The location of an existing file or directory. -/
def resolve (tree : FileTree) (path : Path) : Except FileError Location :=
  if path = [] then .error .missing else tree.follow (tree.origin path) path.segments

/-- The location a path names, whether or not something is there. Its directory must exist. -/
def target (tree : FileTree) (path : Path) : Except FileError Location :=
  match path.segments.getLast? with
  | none | some [] | some ['.'] | some ['.', '.'] => tree.resolve path
  | some name =>
    match tree.follow (tree.origin path) path.segments.dropLast with
    | .error error => .error error
    | .ok directory =>
      match tree.get? directory with
      | some (.directory _) => .ok (directory ++ [name])
      | some (.file _) => .error .notDirectory
      | none => .error .missing

/-- The node a path leads to. -/
def node (tree : FileTree) (path : Path) : Except FileError Node :=
  match tree.resolve path with
  | .error error => .error error
  | .ok location => (tree.get? location).elim (.error .missing) .ok

def isPresent (tree : FileTree) (path : Path) : Bool := (tree.node path).isOk

def isDirectory (tree : FileTree) (path : Path) : Bool :=
  match tree.node path with
  | .ok node => node.isDirectory
  | .error _ => false

/-- The bytes of a file. -/
def read (tree : FileTree) (path : Path) : Except FileError ByteArray :=
  match tree.node path with
  | .ok (.file bytes) => .ok bytes
  | .ok (.directory _) => .error .isDirectory
  | .error error => .error error

/-- The text of a file, which must be valid UTF-8. -/
def readText (tree : FileTree) (path : Path) : Except FileError Text :=
  match tree.read path with
  | .error error => .error error
  | .ok bytes =>
    match String.fromUTF8? bytes with
    | some text => .ok text.toList
    | none => .error .invalidText

/-- The tree with a file written, whether or not it was there. -/
def write (tree : FileTree) (path : Path) (bytes : ByteArray) : Except FileError FileTree :=
  match tree.target path with
  | .error error => .error error
  | .ok location =>
    match tree.get? location with
    | some (.directory _) => .error .isDirectory
    | _ => .ok (tree.put location (.file bytes))

def writeText (tree : FileTree) (path : Path) (text : Text) : Except FileError FileTree :=
  tree.write path (String.ofList text).toUTF8

/-- The tree with the bytes of one file written to another. The destination is emptied
before the source is read, so a file copied onto itself ends up empty. -/
def copy (tree : FileTree) (source destination : Path) : Except FileError FileTree :=
  match tree.read source, tree.write destination .empty with
  | .ok _, .ok emptied =>
    match emptied.read source with
    | .ok bytes => emptied.write destination bytes
    | .error error => .error error
  | .error error, _ | _, .error error => .error error

/-- The tree with one new directory. -/
def makeDirectory (tree : FileTree) (path : Path) : Except FileError FileTree :=
  match tree.target path with
  | .error error => .error error
  | .ok location =>
    if (tree.get? location).isSome then .error .alreadyExists else .ok (tree.put location (.directory []))

set_option linter.unusedVariables false in
/-- Makes a directory and those above it that are missing. Directories already made when
one cannot be stay. -/
def makeDirectories (tree : FileTree) (path : Path) : Option FileError × FileTree :=
  if path = [] then (none, tree)
  else
    match tree.makeDirectory path with
    | .ok made => (none, made)
    | .error error =>
      if error ≠ .missing then (if tree.isDirectory path then none else some error, tree)
      else
        match found : path.parent? with
        | none => (some error, tree)
        | some parent =>
          match tree.makeDirectories parent with
          | (some error, stopped) => (some error, stopped)
          | (none, above) =>
            match above.makeDirectory path with
            | .ok made => (none, made)
            | .error error => (if above.isDirectory path then none else some error, above)
termination_by path.length
decreasing_by exact Path.parent?_length found

/-- What is below the current directory. -/
def listing (tree : FileTree) : List (Location × Option ByteArray) :=
  match tree.get? tree.current with
  | some (.directory entries) => Node.listing entries
  | _ => []

/-- What is below the current directory now and was not there, or not the same, before. -/
def changes (before after : FileTree) : List (Location × Option ByteArray) :=
  after.listing.filter fun entry => !before.listing.any fun old => old.1 = entry.1 && old.2 == entry.2

end FileTree

end Literate
