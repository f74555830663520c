import Literate.Markdown.Table

/-! Blocks of running text: headings and paragraphs. -/

namespace Literate.Markdown

open Text

/-- The text of a heading after its number signs. Number signs at the end do not belong to it
if a space is in front of them. -/
def headingText (line : Text) : Text :=
  let content := dropEndWhile (· = ' ') (line.dropWhile isBlank)
  let stripped := dropEndWhile (· = '#') content
  if stripped.isEmpty then []
  else if stripped.getLast? = some ' ' then dropEndWhile (· = ' ') stripped
  else content

/-- The lines of a paragraph; the level of the heading that a line under it makes of it, if
there is such a line; and what follows. The text starts inside the marks of the containers,
which are given for the first line. -/
def paragraphLines (containers : List Container) :
    (fuel : Nat) → (marks : Text) → Text → List PassageLine × Option Nat × Text
  | 0, _, text => ([], none, text)
  | fuel + 1, marks, text =>
    let line := toLineEnd text
    let (ending, next) := terminator (text.drop line.length)
    let first : PassageLine := ⟨marks, line, ending⟩
    let (count, place) := enter containers { rest := next }
    let inAll : Bool := count = containers.length
    let start := place.skipAll
    match if inAll && place.indent ≤ 3 then underline? start.rest else none with
    | some (level, rest) => ([first], some level, rest)
    | none =>
      if start.atEnd || (place.indent ≤ 3 && interruptsIn containers inAll start.rest) then ([first], none, next)
      else
        let (more, level, rest) := paragraphLines containers fuel (next.take place.passed) place.rest
        (first :: more, level, rest)

end Literate.Markdown
