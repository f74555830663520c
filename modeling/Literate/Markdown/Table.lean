import Literate.Markdown.Document
import Literate.Markdown.Passage
import Literate.Markdown.Start

/-! Tables: a header line, under it a line that sets the columns, and then rows. Bars part
the cells of a line, except bars with a backslash in front. -/

namespace Literate.Markdown

open Text

/-- The alignment of a column after a colon in the line that sets the columns: one at the
start of the column, one later, or both. -/
def Alignment.withColon (atStart : Bool) : Alignment → Alignment
  | unset => if atStart then left else right
  | left => if atStart then left else center
  | other => other

/-- The columns of the line that sets them, after its first bar, and what follows the line.
`started` says that something of the current column has been read, and `hyphen` that it has
a hyphen, as every column must that a bar closes. -/
def columnsFrom? (started hyphen : Bool) (current : Alignment) : Text → Option (List Alignment × Text)
  | [] => some (if started then [current] else [], [])
  | c :: rest =>
    if c = ' ' then columnsFrom? started hyphen current rest
    else if c = ':' then columnsFrom? true hyphen (current.withColon (!started)) rest
    else if c = '-' then columnsFrom? true true current rest
    else if c = '|' then
      if hyphen then (columnsFrom? false false .unset rest).map fun (columns, after) => (current :: columns, after)
      else none
    else (lineBreak? (c :: rest)).map (if started then [current] else [], ·)

/-- The columns that a line sets, and what follows it. It has at least one bar and one hyphen. -/
def columns? (text : Text) : Option (List Alignment × Text) :=
  let indent := (text.takeWhile (· = ' ')).length
  let line := toLineEnd text
  if indent ≤ 3 && line.contains '|' && line.contains '-' then
    match text.drop indent with
    | '|' :: rest => columnsFrom? false false .unset rest
    | start => columnsFrom? false false .unset start
  else none

/-- The pieces of a line between bars. `previous` is the character in front of the line. -/
def splitBars (previous : Char) : Text → List Text
  | [] => [[]]
  | c :: line =>
    if c = '|' && previous ≠ '\\' then [] :: splitBars c line else (splitBars c line).modifyHead (c :: ·)

/-- The pieces of a line that are cells: all but an empty one in front of the first bar and
a blank one behind the last. -/
def cells (line : Text) : List Text :=
  let pieces := splitBars ' ' line
  let inner := if line.head? = some '|' then pieces.tail else pieces
  if inner.getLast?.any (·.all isBlank) then inner.dropLast else inner

/-- The columns of the table that a line and the next one begin, and what follows the two.
Both lines have the same number of columns. -/
def head? (containers : List Container) (text : Text) : Option (List Alignment × Text) :=
  let line := toLineEnd text
  if 1 < (splitBars ' ' line).length then
    match (enterAll? containers (nextLine text)).bind (columns? ·.rest) with
    | some (columns, rest) => if columns.length = (cells line).length then some (columns, rest) else none
    | none => none
  else none

/-- The columns of the table that a paragraph turns out to be, and what follows its first
two lines. A line that ends with an escaped break is no header. -/
def tableHead? (containers : List Container) (text : Text) : Option (List Alignment × Text) :=
  if ((toLineEnd text).reverse.takeWhile (· = '\\')).length % 2 = 1 then none else head? containers text

/-- What begins here ends a paragraph in some containers; a table must begin with a bar. -/
def interruptsIn (containers : List Container) (inAll : Bool) (text : Text) : Bool :=
  interrupts (!inAll) text || (text.head? = some '|' && (head? containers text).isSome)

/-- Exactly as many cells as there are columns. -/
def fitRow (columns : List Alignment) (line : Text) : List Passage :=
  let row := (cells line).map fun cell => dropEndWhile isBlank (cell.dropWhile isBlank)
  ((row ++ List.replicate columns.length []).take columns.length).map fun cell => { text := cell, inCell := true }

/-- The rows at the front of a text, and what follows them. A row may be indented in any
way, and has at least one cell. -/
def rows (containers : List Container) (columns : List Alignment) : (fuel : Nat) → Text → List (List Passage) × Text
  | 0, text => ([], text)
  | fuel + 1, text =>
    match enterAll? containers text with
    | none => ([], text)
    | some place =>
      let start := place.skipAll.rest
      let line := toLineEnd start
      if interrupts true start || (cells line).isEmpty then ([], text)
      else
        let (more, rest) := rows containers columns fuel (nextLine start)
        (fitRow columns line :: more, rest)

end Literate.Markdown
