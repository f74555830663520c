import Literate.Block.Splitter
import Literate.Failure
import Literate.Toml.Reader

/-! Everything that controls a run, and reading it from a configuration file. -/

namespace Literate

structure Settings where
  /-- The directory input files are read from. -/
  input : Path := ".".toList
  /-- The directory documentation is written to. -/
  output : Path := "docs".toList
  format : Format := .plain
  /-- Take the common margin off comments. -/
  trim : Bool := false
  /-- The language named in code blocks. -/
  language : Text := "csharp".toList
  /-- Extension of the sources that are split into blocks. -/
  sourceExtension : Text := "cs".toList
  markdownExtension : Text := "md".toList
  /-- Patterns for the paths of input files; all files if there are none. -/
  filters : List Text := []
  /-- Go into subdirectories of the input directory. -/
  recursive : Bool := false
deriving DecidableEq

namespace Settings

def layout (settings : Settings) : Layout :=
  { format := settings.format, trim := settings.trim, language := settings.language }

/-- An extension is the configured one, whatever the case of its letters. The configured
one may be written with dots in front. -/
def matchesExtension (extension : Option Text) (configured : Text) : Bool :=
  extension.any (·.equalIgnoringCase (configured.dropWhile (· = '.')))

def isSource (settings : Settings) (extension : Option Text) : Bool :=
  matchesExtension extension settings.sourceExtension

def isMarkdown (settings : Settings) (extension : Option Text) : Bool :=
  matchesExtension extension settings.markdownExtension

/-- The texts of an array of strings. -/
def strings? : List Toml.Value → Option (List Text)
  | [] => some []
  | .string text :: rest => (strings? rest).map (text :: ·)
  | _ :: _ => none

/-- A format given by its name, or by a table with the name as its only key and nothing under it. -/
def format? : Toml.Value → Option Format
  | .string name | .table _ [(name, .table _ [])] | .table _ [(name, .array [])] => Format.named? name
  | _ => none

/-- The settings with one of them set as a configuration file says. -/
def set (settings : Settings) (key : Text) (value : Toml.Value) : Except String Settings :=
  match String.ofList key, value with
  | "input", .string path => .ok { settings with input := path }
  | "output", .string path => .ok { settings with output := path }
  | "format", value =>
    match format? value with
    | some format => .ok { settings with format }
    | none => .error "unknown format"
  | "trim", .boolean trim => .ok { settings with trim }
  | "language", .string language => .ok { settings with language }
  | "source_ext", .string sourceExtension => .ok { settings with sourceExtension }
  | "markdown_ext", .string markdownExtension => .ok { settings with markdownExtension }
  | "filters", .array items =>
    match strings? items with
    | some filters => .ok { settings with filters }
    | none => .error "filters must be strings"
  | "recursive", .boolean recursive => .ok { settings with recursive }
  | key, _ => .error s!"unexpected setting or value for {key}"

def setAll (settings : Settings) : Toml.Table → Except String Settings
  | [] => .ok settings
  | (key, value) :: rest =>
    match settings.set key value with
    | .ok changed => changed.setAll rest
    | .error reason => .error reason

/-- The settings a configuration text describes. What it does not mention has its default. -/
def parse (text : Text) : Except String Settings :=
  match Toml.parse text with
  | .ok table => setAll {} table
  | .error error => .error (error.message text)

/-- The name of configuration files. -/
def fileName : Text := "weave.toml".toList

/-- Settings from the configuration file at a path. -/
def load (tree : FileTree) (path : Path) : Except Failure Settings :=
  match tree.readText path with
  | .error error => .error (.settingsRead path error)
  | .ok text =>
    match parse text with
    | .ok settings => .ok settings
    | .error reason => .error (.settingsParse path reason)

/-- Settings from the configuration file of a directory, if it has one. -/
def loadFrom (tree : FileTree) (directory : Path) : Except Failure (Option Settings) :=
  let path := directory.join fileName
  if tree.isPresent path then (load tree path).map some else .ok none

end Settings

end Literate
