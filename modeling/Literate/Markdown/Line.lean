import Literate.Text.Line

/-! Lines of a markdown document. Readers take the rest of the document and give what is
left of it behind what they read. -/

namespace Literate.Markdown

open Text

/-- White space that stays on its line. Other white space of Unicode is text. -/
def isBlank (c : Char) : Bool := isPad c || c = '\x0b' || c = '\x0c'

/-- What follows the line break at the front of the text. The end of the document breaks
its last line. -/
def lineBreak? : Text → Option Text
  | [] => some []
  | '\r' :: '\n' :: rest => some rest
  | c :: rest => if isNewline c then some rest else none

/-- What follows a line on which only white space is left. -/
def blankLine? (text : Text) : Option Text := lineBreak? (text.dropWhile isBlank)

/-- The text in front of the next line break. -/
def toLineEnd (text : Text) : Text := text.takeWhile (!isNewline ·)

/-- What follows the next line break. -/
def nextLine (text : Text) : Text := (terminator (text.dropWhile (!isNewline ·))).2

/-- A line that is copied and what follows it. Only a line feed ends such a line, and it
belongs to it. -/
def copiedLine : Text → Text × Text
  | [] => ([], [])
  | c :: rest =>
    if c = '\n' then ([c], rest)
    else
      let (line, after) := copiedLine rest
      (c :: line, after)

/-- A copied line without a carriage return in front of its last byte. -/
def withoutReturn (line : Text) : Text :=
  match line.reverse with
  | last :: '\r' :: front => if last.utf8Size = 1 then (last :: front).reverse else line
  | _ => line

end Literate.Markdown
