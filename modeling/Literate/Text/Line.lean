import Literate.Text.Basic

/-! Lines of text. A line terminator is a carriage return with a line feed, a
carriage return, or a line feed. -/

namespace Literate.Text

/-- One of the two characters that terminate lines. -/
def isNewline (c : Char) : Bool := c = '\r' || c = '\n'

/-- White space that stays on its line. -/
def isHorizontal (c : Char) : Bool := isSpace c && !isNewline c

/-- The line terminator at the start of the text, empty if there is none, and what
follows it. A carriage return and the line feed after it are one terminator. -/
def terminator : Text → Text × Text
  | '\r' :: '\n' :: rest => (['\r', '\n'], rest)
  | c :: rest => if isNewline c then ([c], rest) else ([], c :: rest)
  | [] => ([], [])

theorem terminator_append (text : Text) : text.terminator.1 ++ text.terminator.2 = text := by
  fun_cases terminator text <;> simp_all

theorem terminator_ne_nil {c : Char} (newline : isNewline c = true) (rest : Text) :
    (terminator (c :: rest)).1 ≠ [] := by
  unfold terminator
  split <;> simp_all

/-- The text cut at its terminators, which belong to no line. There is always one
line more than there are terminators, so a terminator at the end opens an empty line. -/
def lines : Text → List Text
  | [] => [[]]
  | '\r' :: '\n' :: rest => [] :: lines rest
  | c :: rest => if isNewline c then [] :: lines rest else (lines rest).modifyHead (c :: ·)

theorem lines_ne_nil (text : Text) : text.lines ≠ [] := by
  fun_induction lines text <;> simp_all

/-- Spaces and tabs followed by exactly one line terminator. -/
def isBlankLine (text : Text) : Bool :=
  match text.dropWhile isPad with
  | ['\r', '\n'] | ['\r'] | ['\n'] => true
  | _ => false

end Literate.Text
