import Literate.Markdown.Container
import Literate.Markdown.Entity
import Literate.Markdown.RawHtml

/-! What can begin at the first visible character of a line. -/

namespace Literate.Markdown

open Text

/-- What follows a line that has only a mark on it, at least three times with those already
counted, and white space anywhere. -/
def afterMarks? (mark : Char) : (count : Nat) → Text → Option Text
  | count, [] => if 3 ≤ count then some [] else none
  | count, c :: rest =>
    if c = mark then afterMarks? mark (count + 1) rest
    else if isPad c then afterMarks? mark count rest
    else if 3 ≤ count then lineBreak? (c :: rest)
    else none

/-- What follows a rule. -/
def rule? (text : Text) : Option Text :=
  match text with
  | '*' :: _ => afterMarks? '*' 0 text
  | '-' :: _ => afterMarks? '-' 0 text
  | '_' :: _ => afterMarks? '_' 0 text
  | _ => none

/-- The level of the heading that begins, which is the number of its number signs. -/
def headingLevel? (text : Text) : Option Nat :=
  let level := (text.takeWhile (· = '#')).length
  let next := (text.drop level).head?
  if 1 ≤ level && level ≤ 6 && next.all (fun c => isBlank c || isNewline c) then some level else none

/-- The level of the heading that a line under a paragraph makes of it, and what follows
that line. -/
def underline? (text : Text) : Option (Nat × Text) :=
  match text with
  | '=' :: _ => (blankLine? (text.dropWhile (· = '='))).map (1, ·)
  | '-' :: _ => (blankLine? (text.dropWhile (· = '-'))).map (2, ·)
  | _ => none

/-- The fence of a code block. -/
structure Fence where
  symbol : Char
  length : Nat

/-- The fence that begins. The line of a fence of backticks has no other backtick. -/
def fence? (text : Text) : Option Fence :=
  match text with
  | '\x60' :: _ =>
    let length := (text.takeWhile (· = '\x60')).length
    if 3 ≤ length && !(copiedLine (text.drop length)).1.contains '\x60' then some ⟨'\x60', length⟩ else none
  | '~' :: _ =>
    let length := (text.takeWhile (· = '~')).length
    if 3 ≤ length then some ⟨'~', length⟩ else none
  | _ => none

/-- A list marker and the number of its characters. White space or the end of the line
follows it. -/
def marker? (text : Text) : Option (Marker × Nat) :=
  let ends (text : Text) : Bool := text.head?.all fun c => isPad c || isNewline c
  match text with
  | [] => none
  | c :: rest =>
    if c = '-' || c = '+' || c = '*' then if ends rest then some (⟨none, c⟩, 1) else none
    else
      let digits := text.takeWhile Char.isDigit
      match text.drop digits.length with
      | symbol :: after =>
        if digits ≠ [] && digits.length ≤ 9 && (symbol = '.' || symbol = ')') && ends after then
          some (⟨some (decimal digits), symbol⟩, digits.length + 1)
        else none
      | [] => none

/-- The item that begins at a place: its marker, the columns its lines are indented by, and
the place inside it. More than four columns behind the marker belong to what is inside. -/
def item? (place : Place) : Option (Marker × Nat × Place) :=
  let start := place.skipAll
  if (rule? start.rest).isSome then none
  else
    (marker? start.rest).map fun (marker, width) =>
      let behind := (start.advance width).skip 1
      let more := if behind.isBlank || 4 ≤ behind.indent then 0 else behind.indent
      (marker, place.indent + width + 1 + more, behind.skip more)

/-- A list marker that ends a paragraph. Where the paragraph could go on in its own container,
the list must start with a bullet or the number one, and not with two blank lines. -/
def markerInterrupts (anyMarker : Bool) (text : Text) : Bool :=
  match marker? text with
  | none => false
  | some (marker, width) =>
    let empty := (((blankLine? (text.drop width)).bind blankLine?)).isSome
    anyMarker || (marker.start.all (· = 1) && !empty)

/-- What begins here ends a paragraph. -/
def interrupts (anyMarker : Bool) (text : Text) : Bool :=
  (lineBreak? text).isSome || (rule? text).isSome || (headingLevel? text).isSome || (fence? text).isSome ||
    text.head? = some '>' || markerInterrupts anyMarker text || (verbatimEnd? text).isSome || opensBlockTag text

end Literate.Markdown
