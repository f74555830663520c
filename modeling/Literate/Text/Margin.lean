import Literate.Text.Line

/-! Removing the indentation that a comment shares with the code around it. The
margin is the indentation of the first line that has any text; it is taken off
that line and every later one. A line shorter than the margin is left alone, and
a line indented less loses only the white space it has. -/

namespace Literate.Text

/-- White space characters at the start of a line. -/
def indent (line : Text) : Nat := (line.takeWhile isSpace).length

/-- The line without its leading white space, but without at most `column` characters. -/
def outdent : (column : Nat) → (line : Text) → Text
  | column + 1, c :: line => if isSpace c then outdent column line else c :: line
  | _, line => line

/-- What is known of the margin, in characters, after some lines of a comment. -/
structure Margin where
  column : Option Nat := none
deriving DecidableEq

namespace Margin

/-- The first line with text fixes the margin. -/
def observe (margin : Margin) (line : Text) : Margin :=
  match margin.column with
  | some _ => margin
  | none => if line.indent < line.length then ⟨some line.indent⟩ else margin

/-- Takes the margin off one line. -/
def cut (margin : Margin) (line : Text) : Text :=
  match margin.column with
  | some column => if column ≤ line.length then line.outdent column else line
  | none => line

/-- One line without its margin, and the margin for the lines after it. -/
def trim (margin : Margin) (line : Text) : Text × Margin :=
  ((margin.observe line).cut line, margin.observe line)

/-- Lines in order, each without the margin known when it is reached. -/
def trimAll : Margin → List Text → List Text
  | _, [] => []
  | margin, line :: lines => (margin.trim line).1 :: trimAll (margin.trim line).2 lines

end Margin

/-- The lines of a comment body without their common margin. -/
def trimMargin (text : Text) : List Text := Margin.trimAll {} text.lines

end Literate.Text
