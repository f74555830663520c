import Literate.Fault
import Literate.FileTree
import Literate.Glob

/-! The ways in which producing documentation can fail. -/

namespace Literate

inductive Failure where
  | read (path : Path) (error : FileError)
  | write (path : Path) (error : FileError)
  | filter (pattern : Text) (error : Glob.Error)
  /-- A source that cannot be split into blocks, with its text to show the place. -/
  | split (path : Path) (source : Text) (fault : Fault)
  | settingsRead (path : Path) (error : FileError)
  | settingsParse (path : Path) (reason : String)

def Failure.message : Failure → String
  | read path error => s!"cannot read {String.ofList path}: {error.message}"
  | write path error => s!"cannot write {String.ofList path}: {error.message}"
  | filter pattern error => s!"invalid filter '{String.ofList pattern}': {error.message}"
  | split path _ fault => s!"cannot weave {String.ofList path}: {fault.message}"
  | settingsRead path error => s!"failed to read config file at {String.ofList path}: {error.message}"
  | settingsParse path reason => s!"failed to parse config file at {String.ofList path}: {reason}"

end Literate
