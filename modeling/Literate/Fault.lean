import Literate.Span

/-! What can be wrong with a source, and where. -/

namespace Literate

/-- A problem at a place in one of the source files. -/
structure Fault where
  text : String
  span : Span
  file : Nat := 0
  notes : List String := []
deriving DecidableEq

namespace Fault

/-- The problem and its place in one line. -/
def message (fault : Fault) : String := s!"{fault.text} at {fault.span.start}..{fault.span.stop}"

/-- The same problem with one more note. -/
def withNote (fault : Fault) (note : String) : Fault := { fault with notes := fault.notes ++ [note] }

/-- The same problem attributed to another file. -/
def inFile (fault : Fault) (file : Nat) : Fault := { fault with file }

end Fault

/-- The ways in which a source can fail to be a sequence of tokens and comments. -/
inductive Cause where
  | openComment
  | openString
  | openVerbatimString
  | malformedComment
deriving DecidableEq

namespace Cause

def text : Cause → String
  | openComment => "unterminated block comment"
  | openString => "unterminated string literal"
  | openVerbatimString => "unterminated verbatim string literal"
  | malformedComment => "malformed block comment"

/-- Advice on how to mend the source. -/
def notes : Cause → List String
  | openComment => ["add `*/` to close the comment"]
  | malformedComment => ["block comments must start with `/*` and end with `*/`"]
  | openString | openVerbatimString => []

/-- The cause at its place. -/
def fault (cause : Cause) (span : Span) (file : Nat) : Fault :=
  cause.notes.foldl Fault.withNote { text := cause.text, span, file }

theorem fault_eq (cause : Cause) (span : Span) (file : Nat) :
    cause.fault span file = { text := cause.text, span, file, notes := cause.notes } := by
  cases cause <;> rfl

end Cause

/-- What gives a value has not failed. -/
theorem ok_of_toOption {ε α : Type} {result : Except ε α} {value : α} (found : result.toOption = some value) :
    result = .ok value := by
  cases result with
  | error fault => cases found
  | ok other => exact congrArg Except.ok (Option.some.inj found)

end Literate
