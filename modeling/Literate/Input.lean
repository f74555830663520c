import Literate.Path

/-! An input file, and where the file made from it goes. -/

namespace Literate

/-- A file below a base directory. -/
structure Input where
  base : Path
  relative : Path
deriving DecidableEq

namespace Input

def path (file : Input) : Path := file.base.join file.relative

/-- The relative path as filters see it, with slashes only. -/
def filterText (file : Input) : Text := file.relative.map fun c => if c = '\\' then '/' else c

def extension? (file : Input) : Option Text := file.relative.extension?

def stem (file : Input) : Text := file.relative.stem?.getD []

/-- Index files are processed before all others. -/
def isIndex (file : Input) : Bool := file.stem.equalIgnoringCase "index".toList

/-- The same relative path below an output directory, with another extension if one is given. -/
def destination (file : Input) (directory : Path) (extension : Option Text) : Path :=
  match extension with
  | some extension => directory.join (file.relative.withExtension extension)
  | none => directory.join file.relative

end Input

end Literate
