import Literate.Markdown.Link
import Literate.Markdown.Start

/-! Blocks whose lines are copied: code and HTML. The readers take the open containers, the
columns left of a tab in front of the text, and the text; they give what they copied and
what follows it. -/

namespace Literate.Markdown

open Text

/-- A line as it is shown, with columns in front as spaces. -/
def shownLine (columns : Nat) (line : Text) : Text := List.replicate columns ' ' ++ withoutReturn line

/-- Lines of indented code, and whether each is blank. -/
def indentedLines (containers : List Container) : (fuel pad : Nat) → Text → List (Text × Bool) × Text
  | 0, _, text => ([], text)
  | fuel + 1, pad, text =>
    let (line, next) := copiedLine text
    let shown := (shownLine pad line, (blankLine? text).isSome)
    match enterAll? containers next with
    | none => ([shown], next)
    | some place =>
      let inner := place.skip 4
      if (4 ≤ place.indent || inner.atEnd) && !inner.rest.isEmpty then
        let (more, rest) := indentedLines containers fuel inner.pad inner.rest
        (shown :: more, rest)
      else ([shown], next)

/-- The language named behind a fence. -/
def fenceLanguage (line : Text) : Text :=
  let info := dropEndWhile (fun c => isBlank c || isNewline c) (line.dropWhile isBlank)
  ((unescape false info).filter (· ≠ '\r')).takeWhile (· ≠ ' ')

/-- What follows the line that closes a code block. The end of the document closes it too. -/
def Fence.closing? (fence : Fence) (text : Text) : Option Text :=
  let length := (text.takeWhile (· = fence.symbol)).length
  if text.isEmpty then some []
  else if fence.length ≤ length then lineBreak? ((text.drop length).dropWhile (· = ' '))
  else none

/-- The lines of code behind a fence. They lose as many columns as are in front of the fence. -/
def fencedLines (containers : List Container) (fence : Fence) (indent : Nat) : (fuel : Nat) → Text → Text × Text
  | 0, text => ([], text)
  | fuel + 1, text =>
    match enterAll? containers text with
    | none => ([], text)
    | some place =>
      match if place.indent ≤ 3 then fence.closing? place.skipAll.rest else none with
      | some rest => ([], rest)
      | none =>
        let inner := place.skip indent
        let (line, next) := copiedLine inner.rest
        let (more, rest) := fencedLines containers fence indent fuel next
        (shownLine inner.pad line ++ more, rest)

/-- The lines of an HTML block up to the one that has the closing text in it. -/
def htmlUntil (containers : List Container) (closing : Text) : (fuel columns : Nat) → Text → Text × Text
  | 0, _, text => ([], text)
  | fuel + 1, columns, text =>
    let (line, next) := copiedLine text
    let shown := shownLine columns line
    match enterAll? containers next with
    | none => (shown, next)
    | some place =>
      if (cutAt? closing line).isSome then (shown, next)
      else if place.rest.isEmpty then (shown, [])
      else
        let (more, rest) := htmlUntil containers closing fuel place.pad place.rest
        (shown ++ more, rest)

/-- The lines of an HTML block up to the next blank line. What is left of that line behind
the marks of the containers is a line of its own. -/
def htmlUntilBlank (containers : List Container) : (fuel columns : Nat) → Text → Text × Text
  | 0, _, text => ([], text)
  | fuel + 1, columns, text =>
    let (line, next) := copiedLine text
    let shown := shownLine columns line
    match enterAll? containers next with
    | none => (shown, next)
    | some place =>
      if place.atEnd then (shown, next)
      else if place.isBlank then (shown, place.rest)
      else
        let (more, rest) := htmlUntilBlank containers fuel place.pad place.rest
        (shown ++ more, rest)

end Literate.Markdown
