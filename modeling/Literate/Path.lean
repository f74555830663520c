import Literate.Text.Basic

/-! Paths as they are written. Operations keep the spelling: nothing is normalised,
and slashes and dots that a path has without need stay where an operation does not
touch them. -/

namespace Literate

/-- A path as text, with `/` between its components. -/
abbrev Path := Text

namespace Path

/-- The pieces between the slashes, empty ones and dots included. -/
def segments (path : Path) : List Text := path.splitWhere (· = '/')

def isAbsolute (path : Path) : Bool := path.head? = some '/'

/-- The path `path` below a directory. An absolute path is below no other. -/
def join (directory path : Path) : Path :=
  if isAbsolute path || directory.isEmpty then path
  else if directory.getLast? = some '/' then directory ++ path
  else directory ++ ['/'] ++ path

/-- A reversed path without the slashes and single dots that end it. The dot or slash
that is the whole path stays. -/
def dropIdle : Text → Text
  | ['/'] => ['/']
  | '/' :: rest => dropIdle rest
  | '.' :: '/' :: rest => dropIdle ('/' :: rest)
  | path => path

/-- The path up to the end of its last component. -/
def body (path : Path) : Path := (dropIdle path.reverse).reverse

/-- What follows the last slash of the body, and what stands in front of it. -/
def splitLast (path : Path) : Path × Text :=
  let reversed := path.body.reverse
  ((reversed.dropWhile (· ≠ '/')).reverse, (reversed.takeWhile (· ≠ '/')).reverse)

/-- The path without its last component. The empty path and the root have none. -/
def parent? (path : Path) : Option Path :=
  match splitLast path with
  | (_, []) => none
  | (front, _) => some front.body

theorem dropIdle_length (path : Text) : (dropIdle path).length ≤ path.length := by
  fun_induction dropIdle path with
  | case1 => exact Nat.le_refl _
  | case2 rest _ ih => exact Nat.le_succ_of_le ih
  | case3 rest ih => exact Nat.le_succ_of_le ih
  | case4 => exact Nat.le_refl _

theorem body_length (path : Path) : path.body.length ≤ path.length := by
  simpa [body] using dropIdle_length path.reverse

/-- A parent is shorter than its path, so going up ends. -/
theorem parent?_length {path parent : Path} (found : path.parent? = some parent) : parent.length < path.length := by
  unfold parent? at found
  split at found
  · cases found
  next front name nonempty same =>
    cases found
    have split : path.body.length = front.length + name.length := by
      have whole := congrArg List.length (List.takeWhile_append_dropWhile (p := (· ≠ '/')) (l := path.body.reverse))
      simp only [splitLast, Prod.mk.injEq] at same
      rw [← same.1, ← same.2]
      simp only [List.length_append, List.length_reverse] at whole ⊢
      omega
    have positive : 0 < name.length := List.length_pos_iff.mpr nonempty
    have shorter := body_length front
    have whole := body_length path
    omega

/-- The last component, if it is the name of a file or directory. -/
def fileName? (path : Path) : Option Text :=
  match (splitLast path).2 with
  | [] | ['.'] | ['.', '.'] => none
  | name => some name

/-- A file name cut at its last dot. A dot at the start is part of the name. -/
def splitName (name : Text) : Text × Option Text :=
  let reversed := name.reverse
  match reversed.dropWhile (· ≠ '.') with
  | [] | ['.'] => (name, none)
  | _ :: stem => (stem.reverse, some (reversed.takeWhile (· ≠ '.')).reverse)

/-- The file name without its extension. -/
def stem? (path : Path) : Option Text := path.fileName?.map fun name => (splitName name).1

/-- What follows the last dot of the file name. -/
def extension? (path : Path) : Option Text := path.fileName?.bind fun name => (splitName name).2

/-- The path with everything after the stem of its file name replaced. -/
def setExtension (path : Path) (extension : Text) : Path :=
  match path.stem? with
  | none => path
  | some stem => (splitLast path).1 ++ stem ++ if extension.isEmpty then [] else ['.'] ++ extension

/-- The path with another extension, or with none if the new one is empty. The old
extension is taken off first; if no file name is left then, the rest stays as it is. -/
def withExtension (path : Path) (extension : Text) : Path :=
  match path.extension? with
  | none => setExtension path extension
  | some old => setExtension (path.take (path.length - old.length)) extension

end Path

end Literate
