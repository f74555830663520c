import Literate.Discovery
import Literate.Log
import Literate.Page
import Literate.Settings

/-! Generating documentation: every input file is split into blocks, rendered, copied or
skipped, one after the other. The first failure ends the run; what was written until then
stays. -/

namespace Literate

/-- What a run reads and changes. -/
structure World where
  tree : FileTree := {}
  log : List LogEntry := []

/-- A piece of work that may fail. What it changed before it failed stays changed. -/
def Job (α : Type) := World → Except Failure α × World

namespace Job

instance : Monad Job where
  pure value := fun world => (.ok value, world)
  bind job next := fun world =>
    match job world with
    | (.ok value, changed) => next value changed
    | (.error failure, changed) => (.error failure, changed)

/-- The value of a computation that changes nothing. -/
def ofTree (compute : FileTree → Except Failure α) : Job α := fun world => (compute world.tree, world)

/-- Changes the files, unless the change fails. -/
def change (update : FileTree → Except Failure FileTree) : Job Unit := fun world =>
  match update world.tree with
  | .ok tree => (.ok (), { world with tree })
  | .error failure => (.error failure, world)

def log (level : LogLevel) (source : LogSource) (message : String) : Job Unit := fun world =>
  (.ok (), { world with log := world.log ++ [⟨level, source, message⟩] })

end Job

/-- The text of a source file, without byte order marks in front. -/
def sourceText (tree : FileTree) (path : Path) : Except Failure Text :=
  match tree.readText path with
  | .ok text => .ok (text.dropWhile (· = '\ufeff'))
  | .error error => .error (.read path error)

/-- The blocks of a source file. -/
def Chain.ofFile (tree : FileTree) (path : Path) (layout : Layout) : Except Failure Chain :=
  match sourceText tree path with
  | .error failure => .error failure
  | .ok source => (Chain.ofSource source 0 layout).mapError (Failure.split path source)

/-- What became of an input file. -/
inductive Entry where
  /-- Documentation was written to this path. -/
  | generated (path : Path)
  /-- The file was copied to this path. -/
  | copied (path : Path)
  /-- The file at this path is of no use in the output format. -/
  | skipped (path : Path)
deriving DecidableEq

/-- What became of all input files, in processing order. -/
structure Report where
  generated : List Path := []
  copied : List Path := []
  skipped : List Path := []
deriving DecidableEq

/-- The entries by what became of the files. -/
def Report.ofEntries (entries : List Entry) : Report where
  generated := entries.filterMap fun | .generated path => some path | _ => none
  copied := entries.filterMap fun | .copied path => some path | _ => none
  skipped := entries.filterMap fun | .skipped path => some path | _ => none

namespace Generation

/-- Makes the directory of an output path. -/
def prepare (output : Path) : Job Unit := fun world =>
  match output.parent? with
  | none => (.ok (), world)
  | some parent =>
    match world.tree.makeDirectories parent with
    | (none, tree) => (.ok (), { world with tree })
    | (some error, tree) => (.error (.write parent error), { world with tree })

/-- Writes a text file. -/
def write (output : Path) (text : Text) : Job Unit :=
  Job.change fun tree => (tree.writeText output text).mapError (Failure.write output)

def info (message : String) : Job Unit := Job.log .info .generation message

def debug (message : String) : Job Unit := Job.log .debug .generation message

/-- A text as it stands in messages. -/
def display (text : Text) : String := String.ofList text

/-- The document made from the blocks of a file. -/
def document (settings : Settings) (file : Input) (chain : Chain) : Text :=
  match settings.format with
  | .plain => chain.document
  | .styled => page (chain.title?.getD file.stem) chain.html

/-- Documents a source file. -/
def weave (settings : Settings) (file : Input) : Job Entry := do
  let output := file.destination settings.output (some settings.format.extension)
  prepare output
  info s!"Generating {settings.format.name} from file '{display file.relative}' into file '{display output}'"
  let chain ← Job.ofTree fun tree => Chain.ofFile tree file.path settings.layout
  debug s!"'{display file.relative}' split into {chain.length} blocks"
  write output (document settings file chain)
  return .generated output

/-- Makes a page from a markdown file. -/
def renderMarkdown (settings : Settings) (file : Input) : Job Entry := do
  let output := file.destination settings.output (some settings.format.extension)
  prepare output
  info s!"Rendering '{display file.relative}' into file '{display output}'"
  let text ← Job.ofTree fun tree => sourceText tree file.path
  write output (page ((Markdown.title? text).getD file.stem) (Markdown.render text))
  return .generated output

/-- Copies a file unchanged. -/
def copy (settings : Settings) (file : Input) : Job Entry := do
  let output := file.destination settings.output none
  prepare output
  info s!"Copying from file '{display file.relative}' into '{display output}'"
  Job.change fun tree => (tree.copy file.path output).mapError (Failure.write output)
  return .copied output

/-- Leaves a file out. -/
def skip (file : Input) : Job Entry := do
  debug s!"Skipping '{display file.relative}'"
  return .skipped file.path

/-- Processes one input file as its extension and the output format say. -/
def process (settings : Settings) (file : Input) : Job Entry :=
  if settings.isSource file.extension? then weave settings file
  else
    match settings.format with
    | .plain => copy settings file
    | .styled => if settings.isMarkdown file.extension? then renderMarkdown settings file else skip file

/-- Processes files in order up to the first failure. -/
def processAll (settings : Settings) : List Input → Job (List Entry)
  | [] => pure []
  | file :: files => do
    let entry ← process settings file
    let entries ← processAll settings files
    return entry :: entries

/-- The files a run processes: all that are found, but not the configuration file. -/
def inputs (settings : Settings) (tree : FileTree) : Except Failure (List Input) :=
  (Discovery.find tree settings.input settings.filters settings.recursive (some settings.output)).map
    (·.filter (·.relative ≠ Settings.fileName))

/-- Generates documentation for all input files. -/
def run (settings : Settings) : Job Report := do
  info s!"Creating documentation for files in directory: {display settings.input}"
  let files ← Job.ofTree (inputs settings)
  let entries ← processAll settings files
  info "Done."
  return Report.ofEntries entries

end Generation

end Literate
