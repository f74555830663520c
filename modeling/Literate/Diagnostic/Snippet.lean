import Literate.Diagnostic
import Literate.Text.Line
import Literate.Text.Width

/-! Showing a diagnostic with the lines of the source it is about. The place is marked with
carets below its line, or with a line along the left of all lines it spans. -/

namespace Literate

open Text

namespace Snippet

/-- What parts of the output are drawn in. -/
inductive Style where
  | severity
  | message
  | border
  | mark
deriving DecidableEq

/-- Output: text, or a change of style. -/
inductive Ink where
  | text (content : Text)
  | set (style : Style)
  | reset

/-- The control sequence of a style. -/
def Style.code : Style → String
  | severity => "\x1b[0m\x1b[1m\x1b[38;5;9m"
  | message => "\x1b[0m\x1b[1m"
  | border => "\x1b[0m\x1b[36m"
  | mark => "\x1b[0m\x1b[31m"

/-- The output with or without colour. -/
def Ink.render (color : Bool) : Ink → Text
  | text content => content
  | set style => if color then style.code.toList else []
  | reset => if color then "\x1b[0m".toList else []

def plain (text : String) : List Ink := [.text text.toList]

def styled (style : Style) (text : Text) : List Ink := [.set style, .text text, .reset]

/-- A line of the source: its number, the offset it starts at, and its text without the
line feed. -/
structure Line where
  number : Nat
  start : Nat
  text : Text

/-- The lines of a source, from a number and an offset on. Only line feeds end lines here. -/
def linesFrom (number start : Nat) : List Text → List Line
  | [] => []
  | text :: rest => ⟨number, start, text⟩ :: linesFrom (number + 1) (start + byteSize text + 1) rest

def lines (source : Text) : List Line := linesFrom 1 0 (source.splitWhere (· = '\n'))

/-- Characters with the columns they take. A tab reaches to the next multiple of four. -/
def columns : (column : Nat) → Text → List (Char × Nat)
  | _, [] => []
  | column, c :: rest =>
    let size := if c = '\t' then 4 - column % 4 else width c
    (c, size) :: columns (column + size) rest

/-- Characters with their byte offsets and the columns they take. -/
def measured (text : Text) : List (Nat × Char × Nat) :=
  let rec go (offset : Nat) : List (Char × Nat) → List (Nat × Char × Nat)
    | [] => []
    | (c, size) :: rest => (offset, c, size) :: go (offset + c.utf8Size) rest
  go 0 (columns 0 text)

/-- A line as it is shown, without control characters at its end. -/
def shown (line : Line) : Text := dropEndWhile (fun c => isNewline c || c = '\x00') line.text

/-- A character as it is shown. -/
def drawn : Char × Nat → Text
  | (c, size) => if c = '\t' then List.replicate size ' ' else [c]

/-- The text of a line, with the marked part in the style of the mark. The test tells
whether a character, given by its offsets, is marked. -/
def sourceText (marked : Nat → Nat → Bool) (text : Text) : List Ink :=
  let rec go (inside : Bool) : List (Nat × Char × Nat) → List Ink
    | [] => if inside then [.reset] else []
    | (offset, c, size) :: rest =>
      let now := marked offset (offset + c.utf8Size)
      let change := if now && !inside then [.set .mark] else if !now && inside then [.reset] else []
      change ++ .text (drawn (c, size)) :: go now rest
  go false (measured text)

/-- Carets below the marked part of a line, and spaces in front of it. A mark may reach one
column beyond the end of the line. -/
def carets (start stop : Nat) (text : Text) : List Ink :=
  let rec go (inside : Bool) : List (Nat × Char × Nat) → List Ink
    | [] => if inside then [.reset] else []
    | (offset, c, size) :: rest =>
      let now := max offset start < min (offset + c.utf8Size) stop
      let change := if now && !inside then [.set .mark] else if !now && inside then [.reset] else []
      let drawn := if now then List.replicate size '^' else if offset < stop then List.replicate size ' ' else []
      change ++ .text drawn :: go now rest
  go false (measured text ++ [(byteSize text, '\x00', 1)])

/-- The left edge of a line without a number. -/
def gutter (padding : Nat) : List Ink := .text (List.replicate (padding + 1) ' ') :: styled .border ['│']

/-- The left edge of a line with its number. -/
def numberedGutter (padding number : Nat) : List Ink :=
  let digits := (toString number).toList
  styled .border (List.replicate (padding - digits.length) ' ' ++ digits) ++ plain " " ++ styled .border ['│']

/-- A column of the bracket along the lines of a mark. -/
def bracket (c : Char) : List Ink := plain " " ++ styled .mark [c]

/-- A mark within one line. It is at least one column wide. -/
def oneLine (padding : Nat) (line : Line) (span : Span) : List Ink :=
  let start := span.start - line.start
  let stop := max (span.stop - line.start) (start + 1)
  let text := shown line
  numberedGutter padding line.number ++ plain " " ++
    sourceText (fun first last => max first start < min last stop) text ++ plain "\n" ++
    gutter padding ++ plain " " ++ carets start stop text ++ plain "\n"

/-- A rule of dashes as wide as the characters that start before an offset, and a caret. -/
def dashes (offset : Nat) (text : Text) : List Ink :=
  let before := (measured text).takeWhile fun (start, _, _) => start < offset
  let size := before.foldl (fun total (_, _, size) => total + size) 0
  styled .mark (List.replicate size '─' ++ ['^'])

/-- The first line of a mark over several lines. If only white space is in front of the
mark, the bracket opens on the line itself, and else below it. -/
def firstLine (padding : Nat) (line : Line) (start : Nat) : List Ink :=
  let text := shown line
  let source := sourceText (fun first _ => start ≤ first) text ++ plain "\n"
  if start ≤ byteSize (text.takeWhile isSpace) then
    numberedGutter padding line.number ++ bracket '╭' ++ plain " " ++ source
  else
    numberedGutter padding line.number ++ plain "   " ++ source ++
      gutter padding ++ bracket '╭' ++ dashes (start + 1) text ++ plain "\n"

/-- A line in the middle of a mark. -/
def middleLine (padding : Nat) (line : Line) : List Ink :=
  numberedGutter padding line.number ++ bracket '│' ++ plain " " ++
    sourceText (fun _ _ => true) (shown line) ++ plain "\n"

/-- The last line of a mark over several lines, with a caret behind its last character. -/
def lastLine (padding : Nat) (line : Line) (stop : Nat) : List Ink :=
  let text := shown line
  numberedGutter padding line.number ++ bracket '│' ++ plain " " ++
    sourceText (fun _ last => last ≤ stop) text ++ plain "\n" ++
    gutter padding ++ bracket '╰' ++ dashes stop text ++ plain "\n"

/-- The place of lines that are left out. -/
def gap (padding : Nat) : List Ink :=
  .text (List.replicate (padding + 1) ' ') :: styled .border ['·'] ++ bracket '│' ++ plain "\n"

/-- The lines between the first and the last line of a mark. If there are more than five,
only the first three and the last one are shown. -/
def middleLines (padding : Nat) (lines : List Line) : List Ink :=
  let shown (part : List Line) : List Ink := part.flatMap (middleLine padding)
  if lines.length ≤ 5 then shown lines
  else shown (lines.take 3) ++ gap padding ++ shown (lines.drop (lines.length - 1))

/-- The line an offset is on: the last one that starts at or before it. -/
def lineAt? (lines : List Line) (offset : Nat) : Option Line := (lines.filter (·.start ≤ offset)).getLast?

/-- The lines of a mark. -/
def marked (padding : Nat) (lines : List Line) (first last : Line) (span : Span) : List Ink :=
  if first.number = last.number then oneLine padding first span
  else
    let middle := lines.filter fun line => first.number < line.number && line.number < last.number
    firstLine padding first (span.start - first.start) ++ middleLines padding middle ++
      lastLine padding last (span.stop - last.start)

/-- The characters of a line in front of an offset, counted from one. -/
def columnNumber (line : Line) (offset : Nat) : Nat :=
  ((measured line.text).filter fun (start, _, _) => line.start + start < offset).length + 1

/-- A note below the lines. Its own lines are aligned. -/
def note (padding : Nat) (text : String) : List Ink :=
  let lines := text.splitOn "\n"
  let indent := List.replicate (padding + 1) ' '
  match lines with
  | [] => []
  | first :: rest =>
    .text indent :: styled .border ['='] ++ plain (" " ++ first ++ "\n") ++
      rest.flatMap fun line => .text indent :: plain ("  " ++ line ++ "\n")

/-- The place a diagnostic is about, in the file with a name and a text. -/
def place (name source : Text) (span : Span) (notes : List String) : List Ink :=
  let all := lines source
  match lineAt? all span.start, lineAt? all span.stop with
  | some first, some last =>
    let padding := (toString last.number).length
    let edge := gutter padding ++ (if first.number = last.number then [] else plain "  ") ++ plain "\n"
    .text (List.replicate (padding + 1) ' ') :: styled .border "┌─".toList ++
      plain s!" {String.ofList name}:{first.number}:{columnNumber first span.start}\n" ++
      edge ++ marked padding all first last span ++
      (if notes.isEmpty then [] else edge) ++ notes.flatMap (note padding)
  | _, _ => []

end Snippet

/-- A diagnostic of one file as it is shown to a reader. -/
def Diagnostic.render (color : Bool) (name source : Text) (diagnostic : Diagnostic) : Text :=
  let header : List Snippet.Ink :=
    [.set .severity] ++ Snippet.plain "error" ++ [.set .message] ++ Snippet.plain s!": {diagnostic.message}" ++
      [.reset] ++ Snippet.plain "\n"
  let places := diagnostic.labels.flatMap fun label => Snippet.place name source label.span diagnostic.notes
  (header ++ places ++ Snippet.plain "\n").flatMap (·.render color)

end Literate
