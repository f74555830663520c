import Literate.CommandLine.Arguments
import Literate.Diagnostic.Snippet
import Literate.Generation
import Literate.Settings.Listing

/-! What a command does, as a function from arguments and files to output and files. -/

namespace Literate.CommandLine

namespace Build

/-- Settings with those replaced that arguments give. Switches can only be turned on. -/
def override (build : Build) (settings : Settings) : Settings where
  input := build.input.getD settings.input
  output := build.output.getD settings.output
  format := build.format.getD settings.format
  trim := settings.trim || build.trim
  language := build.language.getD settings.language
  sourceExtension := build.sourceExtension.getD settings.sourceExtension
  markdownExtension := build.markdownExtension.getD settings.markdownExtension
  filters := if build.filters.isEmpty then settings.filters else build.filters
  recursive := settings.recursive || build.recursive

/-- The configuration file: the one that is named, or else the one in the input directory. -/
def configPath (build : Build) : Path := build.config.getD ((build.input.getD ['.']).join Settings.fileName)

/-- The settings without the arguments. A configuration file that is named must exist, the
one in the input directory need not. -/
def configured (build : Build) (tree : FileTree) : Except Failure Settings :=
  match build.config with
  | some path => Settings.load tree path
  | none => (Settings.loadFrom tree (build.input.getD ['.'])).map (·.getD {})

/-- The settings of the run. -/
def settings (build : Build) (tree : FileTree) : Except Failure Settings :=
  (build.configured tree).map build.override

/-- Generates documentation and prints nothing. -/
def run (build : Build) : Job Text := do
  let settings ← Job.ofTree build.settings
  if let some path := build.config then
    Job.log .info .commandLine s!"Using configuration from {String.ofList path}"
  Job.log .debug .commandLine (String.ofList settings.listing)
  let report ← Generation.run settings
  Job.log .info .commandLine
    s!"{report.generated.length} generated, {report.copied.length} copied, {report.skipped.length} skipped"
  return []

end Build

namespace Blocks

def layout (blocks : Blocks) : Layout :=
  { format := blocks.format, trim := blocks.trim, language := blocks.language.getD ({} : Layout).language }

/-- A block under a heading. -/
def shown (index : Nat) (block : Block) : Text :=
  s!"--- {index} {block.kind.name} ---\n".toList ++ block.contents ++
    if block.contents.getLast? = some '\n' then [] else ['\n']

/-- Prints the blocks of a file. -/
def run (blocks : Blocks) : Job Text := do
  let chain ← Job.ofTree fun tree => Chain.ofFile tree blocks.file blocks.layout
  return (chain.mapIdx shown).flatten

end Blocks

def Command.run : Command → Job Text
  | .build arguments => arguments.run
  | .blocks arguments => arguments.run

/-- What a run of the program leaves behind. -/
structure Outcome where
  exit : Nat
  stdout : Text := []
  stderr : Text := []
  tree : FileTree

/-- A failure as it is reported. A source that cannot be split is shown at the place of the fault. -/
def reported (color : Bool) : Failure → Text
  | .split path source fault => (fault.inFile 0).diagnostic.render color path source
  | failure => s!"error: {failure.message}\n".toList

/-- Terminals show colour unless their type says that they cannot. -/
def showsColor (terminal : Option Text) : Bool := terminal.any (· ≠ "dumb".toList)

/-- Runs a command. -/
def Invocation.run (invocation : Invocation) (terminal : Option Text) (tree : FileTree) : Outcome :=
  let (result, world) := invocation.command.run { tree }
  let log := (world.log.filter (·.isShown invocation.verbose)).flatMap (·.render.toList)
  match result with
  | .ok stdout => { exit := 0, stdout, stderr := log, tree := world.tree }
  | .error failure =>
    let color := showsColor terminal && !invocation.noColor
    { exit := 1, stderr := log ++ reported color failure, tree := world.tree }

/-- How to call the program. -/
def usageText : Text := Text.join ['\n'] <| List.map String.toList [
  "Usage: weave [OPTIONS] [build] [INPUT]",
  "       weave [OPTIONS] blocks <FILE>",
  "",
  "Options:",
  "  -o, --output <DIRECTORY>    Directory the documentation is written to",
  "  -f, --format <FORMAT>       Output format: markdown or html",
  "      --trim                  Remove the common indentation of comments",
  "  -r, --recursive             Go into subdirectories",
  "      --filter <PATTERN>      Only files that match the pattern; may be repeated",
  "      --language <LANGUAGE>   Language of code blocks",
  "      --source-ext <EXT>      Extension of source files",
  "      --markdown-ext <EXT>    Extension of markdown files",
  "  -c, --config <FILE>         Configuration file",
  "      --no-color              No colour in error messages",
  "  -v, --verbose               Log progress, or details if repeated",
  "  -h, --help                  Show this text",
  "  -V, --version               Show the version",
  ""]

/-- Arguments that lead to no run change no files. -/
def Usage.outcome (tree : FileTree) : Usage → Outcome
  | .help => { exit := 0, stdout := usageText, tree }
  | .version => { exit := 0, stdout := "weave 0.1.0\n".toList, tree }
  | .error => { exit := 2, stderr := "error: the arguments are not understood\n\n".toList ++ usageText, tree }

/-- Runs the program with its arguments, on a terminal of a type if there is one. -/
def run (arguments : List Text) (terminal : Option Text) (tree : FileTree) : Outcome :=
  match parse (withDefaultCommand arguments) with
  | .ok invocation => invocation.run terminal tree
  | .error usage => usage.outcome tree

end Literate.CommandLine
