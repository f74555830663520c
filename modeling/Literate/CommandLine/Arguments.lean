import Literate.Format
import Literate.Path

/-! The arguments of the command line. There are two commands, each with options and one
path. Options are written with one letter or with a word; a value follows its option as
the next argument, after an equals sign, or directly after the letter. -/

namespace Literate.CommandLine

/-- Everything that starts with a hyphen. -/
inductive Switch where
  | noColor
  | verbose
  | help
  | version
  | trim
  | recursive
  | output
  | format
  | filter
  | language
  | sourceExtension
  | markdownExtension
  | config
deriving DecidableEq

/-- Where options stand: before the command, or after one of the two commands. -/
inductive Level where
  | top
  | build
  | blocks
deriving DecidableEq

namespace Switch

/-- The option with this word. -/
def ofWord? (word : Text) : Option Switch :=
  match String.ofList word with
  | "no-color" => some noColor
  | "verbose" => some verbose
  | "help" => some help
  | "version" => some version
  | "trim" => some trim
  | "recursive" => some recursive
  | "output" => some output
  | "format" => some format
  | "filter" => some filter
  | "language" => some language
  | "source-ext" => some sourceExtension
  | "markdown-ext" => some markdownExtension
  | "config" => some config
  | _ => none

/-- The option with this letter. -/
def ofLetter? (letter : Char) : Option Switch :=
  match letter with
  | 'v' => some verbose
  | 'h' => some help
  | 'V' => some version
  | 'r' => some recursive
  | 'o' => some output
  | 'f' => some format
  | 'c' => some config
  | _ => none

def takesValue : Switch → Bool
  | noColor | verbose | help | version | trim | recursive => false
  | output | format | filter | language | sourceExtension | markdownExtension | config => true

/-- Colour, verbosity and help are understood everywhere, the version only at the top. -/
def isAllowed : Level → Switch → Bool
  | _, noColor | _, verbose | _, help => true
  | .top, version => true
  | .build, trim | .build, recursive | .build, output | .build, format | .build, filter | .build, language
  | .build, sourceExtension | .build, markdownExtension | .build, config => true
  | .blocks, trim | .blocks, format | .blocks, language => true
  | _, _ => false

end Switch

/-- Why the arguments do not lead to a run. -/
inductive Usage where
  /-- Help was asked for. -/
  | help
  /-- The version was asked for. -/
  | version
  /-- The arguments are not understood. -/
  | error
deriving DecidableEq

/-- What has been given at one level. -/
structure Given where
  noColor : Bool := false
  verbose : Nat := 0
  trim : Bool := false
  recursive : Bool := false
  output : Option Path := none
  format : Option Format := none
  filters : List Text := []
  language : Option Text := none
  sourceExtension : Option Text := none
  markdownExtension : Option Text := none
  config : Option Path := none
  /-- The argument that belongs to no option. -/
  path : Option Path := none
deriving DecidableEq

namespace Given

/-- Takes an option without a value. Only the verbosity may be repeated. -/
def flag (given : Given) : Switch → Except Usage Given
  | .noColor => if given.noColor then .error .error else .ok { given with noColor := true }
  | .verbose => .ok { given with verbose := min (given.verbose + 1) 255 }
  | .help => .error .help
  | .version => .error .version
  | .trim => if given.trim then .error .error else .ok { given with trim := true }
  | .recursive => if given.recursive then .error .error else .ok { given with recursive := true }
  | _ => .error .error

/-- Takes a path given for the first time. -/
def path? (current : Option Path) (value : Text) : Except Usage (Option Path) :=
  if current.isSome || value.isEmpty then .error .error else .ok (some value)

/-- Takes a text given for the first time. -/
def text? (current : Option Text) (value : Text) : Except Usage (Option Text) :=
  if current.isSome then .error .error else .ok (some value)

/-- Takes an option with its value. Only filters may be repeated. -/
def value (given : Given) (option : Switch) (value : Text) : Except Usage Given :=
  match option with
  | .output => (path? given.output value).map fun output => { given with output }
  | .config => (path? given.config value).map fun config => { given with config }
  | .language => (text? given.language value).map fun language => { given with language }
  | .sourceExtension => (text? given.sourceExtension value).map fun sourceExtension => { given with sourceExtension }
  | .markdownExtension =>
    (text? given.markdownExtension value).map fun markdownExtension => { given with markdownExtension }
  | .filter => .ok { given with filters := given.filters ++ [value] }
  | .format =>
    match given.format, Format.parse value with
    | none, .ok format => .ok { given with format := some format }
    | _, _ => .error .error
  | _ => .error .error

/-- Takes an argument that belongs to no option. -/
def positional (given : Given) (value : Text) : Except Usage Given :=
  (path? given.path value).map fun path => { given with path }

end Given

/-- What an argument leaves behind: everything is taken, or an option still needs its value. -/
inductive Taken where
  | done (given : Given)
  | wants (option : Switch) (given : Given)

/-- Takes the letters after a hyphen. The first one whose option takes a value ends them;
what follows it, if anything, is that value. -/
def takeLetters (level : Level) : Text → Given → Except Usage Taken
  | [], given => .ok (.done given)
  | letter :: rest, given =>
    match (Switch.ofLetter? letter).filter (·.isAllowed level) with
    | none => .error .error
    | some option =>
      if option.takesValue then
        match rest with
        | [] => .ok (.wants option given)
        | '=' :: value | value => (given.value option value).map .done
      else
        match given.flag option with
        | .ok changed => takeLetters level rest changed
        | .error usage => .error usage

/-- Takes a word after two hyphens, with the value after its equals sign if there is one. -/
def takeWord (level : Level) (argument : Text) (given : Given) : Except Usage Taken :=
  let word := argument.takeWhile (· ≠ '=')
  match (Switch.ofWord? word).filter (·.isAllowed level), argument.drop word.length with
  | none, _ => .error .error
  | some option, [] => if option.takesValue then .ok (.wants option given) else (given.flag option).map .done
  | some option, _ :: value => if option.takesValue then (given.value option value).map .done else .error .error

/-- An argument that cannot be the value of the option in front of it. A lone hyphen can. -/
def looksLikeOption : Text → Bool
  | '-' :: _ :: _ => true
  | _ => false

/-- Takes an option argument, if it is one. -/
def takeOption (level : Level) (argument : Text) (given : Given) : Option (Except Usage Taken) :=
  match argument with
  | '-' :: '-' :: word => some (takeWord level word given)
  | '-' :: letter :: letters => some (takeLetters level (letter :: letters) given)
  | _ => none

/-- Takes all arguments after a command. After two hyphens alone, no argument is an option. -/
def takeAll (level : Level) : List Text → Given → Except Usage Given
  | [], given => .ok given
  | argument :: rest, given =>
    if argument = ['-', '-'] then rest.foldlM Given.positional given
    else
      match takeOption level argument given with
      | none =>
        match given.positional argument with
        | .ok changed => takeAll level rest changed
        | .error usage => .error usage
      | some (.error usage) => .error usage
      | some (.ok (.done changed)) => takeAll level rest changed
      | some (.ok (.wants option current)) =>
        match rest with
        | [] => .error .error
        | value :: others =>
          if looksLikeOption value then .error .error
          else
            match current.value option value with
            | .ok changed => takeAll level others changed
            | .error usage => .error usage

/-- Arguments of the command that generates documentation. -/
structure Build where
  input : Option Path := none
  output : Option Path := none
  format : Option Format := none
  trim : Bool := false
  recursive : Bool := false
  filters : List Text := []
  language : Option Text := none
  sourceExtension : Option Text := none
  markdownExtension : Option Text := none
  config : Option Path := none
deriving DecidableEq

/-- Arguments of the command that shows the blocks of a file. -/
structure Blocks where
  file : Path
  format : Format := .plain
  trim : Bool := false
  language : Option Text := none
deriving DecidableEq

inductive Command where
  | build (arguments : Build)
  | blocks (arguments : Blocks)
deriving DecidableEq

/-- A command with the options that are understood everywhere. -/
structure Invocation where
  noColor : Bool
  verbose : Nat
  command : Command
deriving DecidableEq

/-- Joins what was given before and after the command. The verbosity after the command
counts, if there is one. -/
def Invocation.make (top inner : Given) (command : Command) : Invocation :=
  { noColor := top.noColor || inner.noColor, verbose := if inner.verbose = 0 then top.verbose else inner.verbose, command }

def Build.ofGiven (given : Given) : Build where
  input := given.path
  output := given.output
  format := given.format
  trim := given.trim
  recursive := given.recursive
  filters := given.filters
  language := given.language
  sourceExtension := given.sourceExtension
  markdownExtension := given.markdownExtension
  config := given.config

/-- The file is required. -/
def Blocks.ofGiven (given : Given) : Except Usage Blocks :=
  match given.path with
  | none => .error .error
  | some file =>
    .ok { file, format := given.format.getD .plain, trim := given.trim, language := given.language }

/-- The names of the commands, and the one that asks for help on them. -/
def commandNames : List Text := ["build".toList, "blocks".toList, "help".toList]

/-- Asks for help on the program or on one command. -/
def helpUsage : List Text → Usage
  | [] => .help
  | [name] => if commandNames.contains name then .help else .error
  | _ => .error

/-- Takes arguments up to the command, and the rest as that command says. -/
def parseFrom (top : Given) : List Text → Except Usage Invocation
  | [] => .error .error
  | argument :: rest =>
    if argument = ['-', '-'] then .error .error
    else
      match takeOption .top argument top with
      | some (.ok (.done changed)) => parseFrom changed rest
      | some (.ok (.wants _ _)) => .error .error
      | some (.error usage) => .error usage
      | none =>
        if argument = "build".toList then
          (takeAll .build rest {}).map fun inner => .make top inner (.build (.ofGiven inner))
        else if argument = "blocks".toList then
          match takeAll .blocks rest {} with
          | .error usage => .error usage
          | .ok inner => (Blocks.ofGiven inner).map fun arguments => .make top inner (.blocks arguments)
        else if argument = "help".toList then .error (helpUsage rest)
        else .error .error

/-- Reads arguments, which do not include the name of the program. -/
def parse (arguments : List Text) : Except Usage Invocation := parseFrom {} arguments

/-- Options whose value is the next argument. -/
def valueOptions : List Text :=
  ["-o", "--output", "-f", "--format", "--filter", "--language", "--source-ext", "--markdown-ext", "-c", "--config"].map
    String.toList

/-- The first argument that is neither an option nor the value of one. -/
def firstPlain? : List Text → Option Text
  | [] => none
  | argument :: rest =>
    if argument.head? = some '-' then
      if valueOptions.contains argument then
        match rest with
        | [] => none
        | _ :: others => firstPlain? others
      else firstPlain? rest
    else some argument

/-- Arguments with the default command in front, if they name none. -/
def withDefaultCommand (arguments : List Text) : List Text :=
  match firstPlain? arguments with
  | some argument => if commandNames.contains argument then arguments else "build".toList :: arguments
  | none => arguments

end Literate.CommandLine
