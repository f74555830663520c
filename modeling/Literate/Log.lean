/-! Messages about the progress of a run. -/

namespace Literate

inductive LogLevel where
  | info
  | debug
deriving DecidableEq

/-- The part of the program a message comes from. -/
inductive LogSource where
  | commandLine
  | generation
deriving DecidableEq

structure LogEntry where
  level : LogLevel
  source : LogSource
  message : String
deriving DecidableEq

namespace LogEntry

/-- A message is shown if messages of its level are asked for: informative ones from the
first degree of verbosity on, details from the second. -/
def isShown (verbosity : Nat) (entry : LogEntry) : Bool :=
  match entry.level with
  | .info => 1 ≤ verbosity
  | .debug => 2 ≤ verbosity

/-- The message as a line. Further lines of the message are indented. -/
def render (entry : LogEntry) : String :=
  let level := match entry.level with
    | .info => "INFO "
    | .debug => "DEBUG"
  let source := match entry.source with
    | .commandLine => "weave"
    | .generation => "weaver"
  let message := "\n    ".intercalate (entry.message.splitOn "\n")
  s!"[{level} {source}] {message}\n"

end LogEntry

end Literate
