import Literate.Markdown.Line

/-! Running text as it is written. -/

namespace Literate.Markdown

open Text

/-- Running text before its markup is read. -/
structure Passage where
  /-- The lines with the breaks between them, without the marks of containers in front. -/
  text : Text
  /-- The marks of containers in front of each line but the first. -/
  marks : List Text := []
  /-- The text is a table cell, where a backslash in front of a bar is part of the bar. -/
  inCell : Bool := false

/-- One line of running text. -/
structure PassageLine where
  /-- The marks of containers in front. -/
  marks : Text := []
  text : Text
  /-- The line break behind the text. -/
  ending : Text

/-- The text of some lines. White space at the end of the last is not part of it. -/
def joinLines : List PassageLine → Text
  | [] => []
  | [last] => dropEndWhile isBlank last.text
  | line :: rest => line.text ++ line.ending ++ joinLines rest

def Passage.ofLines (lines : List PassageLine) : Passage := ⟨joinLines lines, lines.tail.map (·.marks), false⟩

end Literate.Markdown
