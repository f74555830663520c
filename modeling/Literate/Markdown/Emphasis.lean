import Literate.Markdown.Document
import Literate.Text.Punctuation

/-! Pairing the marks of emphasis. A run of marks may open emphasis, close it, or both,
depending on the characters around it. A closing run is paired with the nearest opening
run of the same mark that it fits; runs in between are plain text. -/

namespace Literate.Markdown

open Text

/-- Running text in which the marks of emphasis are not yet paired. -/
inductive Item where
  | node (inline : Inline)
  | run (mark : Char) (count : Nat) (opens closes : Bool)

/-- A run of marks may open emphasis if text follows it, and it is not the end of a word. -/
def mayOpen (mark : Char) (count : Nat) (previous : Char) (next : Option Char) : Bool :=
  match next with
  | none => false
  | some next =>
    !isSpace next && ((mark = '*' && !isPunctuation next) || (mark = '~' && 1 < count) ||
      (mark = '~' && previous = '~' && !isPunctuation next) || isSpace previous || isPunctuation previous)

/-- A run of marks may close emphasis if text is in front of it, and it is not the start of a word. -/
def mayClose (mark : Char) (count : Nat) (previous : Char) (next : Option Char) : Bool :=
  !isSpace previous && (next.all fun next =>
    ((mark = '*' || (mark = '~' && 1 < count)) && !isPunctuation previous) ||
      (mark = '~' && previous = '~') || isSpace next || isPunctuation next)

/-- An opening run that has not been paired completely, and what follows it in reverse. -/
structure Opener where
  mark : Char
  /-- Marks still to be paired. -/
  count : Nat
  /-- Marks of the whole run. -/
  length : Nat
  /-- The run may close emphasis too. -/
  both : Bool
  inner : List Inline := []

/-- The marks as plain text with what follows them, in reverse. -/
def Opener.plain (opener : Opener) : List Inline :=
  opener.inner ++ [.text (List.replicate opener.count opener.mark)]

/-- A closing run fits an opening run. If one of the two could be both, their lengths must
not add up to a multiple of three, unless both are. Deletions need equal lengths. -/
def Opener.fits (opener : Opener) (mark : Char) (length : Nat) (both : Bool) : Bool :=
  opener.mark = mark && (mark ≠ '~' || opener.length = length) &&
    ((!both && !opener.both) || (length + opener.length) % 3 ≠ 0 || length % 3 = 0)

/-- Text inside some marks on either side. Two marks are strong and bind closest. -/
def wrap (mark : Char) : Nat → List Inline → List Inline
  | 0, inner => inner
  | 1, inner => if mark = '~' then [.deleted inner] else [.emphasis inner]
  | count + 2, inner => if mark = '~' then [.deleted inner] else wrap mark count [.strong inner]

/-- Open runs from the innermost outward, and the text in front of them in reverse. -/
structure Nesting where
  openers : List Opener := []
  front : List Inline := []
  /-- How many runs, from the outermost inward, no deletion can be paired with any more: all
  that were open when the last one found no partner. -/
  floor : Nat := 0

namespace Nesting

/-- Adds text behind everything, given in reverse. -/
def add (nesting : Nesting) (inlines : List Inline) : Nesting :=
  match nesting.openers with
  | [] => { nesting with front := inlines ++ nesting.front }
  | opener :: outer => { nesting with openers := { opener with inner := inlines ++ opener.inner } :: outer }

/-- Pairs a closing run with opening runs as long as marks are left, and gives the number
of marks that are not paired. -/
def close (mark : Char) (length : Nat) (both : Bool) (fuel count : Nat) (nesting : Nesting) : Nat × Nesting :=
  match fuel, count with
  | 0, _ | _, 0 => (count, nesting)
  | fuel + 1, count =>
    let size := nesting.openers.length
    let reach := if mark = '~' then size - nesting.floor else size
    match (nesting.openers.take reach).span (!·.fits mark length both) with
    | (_, []) => (count, if mark = '~' then { nesting with floor := size } else nesting)
    | (above, opener :: _) =>
      let outer := nesting.openers.drop (above.length + 1)
      let inner := (above.flatMap Opener.plain ++ opener.inner).reverse
      let used := min count opener.count
      let wrapped := (wrap mark used inner).reverse
      let rest : Nesting := { nesting with openers := outer, floor := min nesting.floor outer.length }
      let paired :=
        if used < opener.count then
          { rest with openers := { opener with count := opener.count - used, inner := wrapped } :: outer }
        else rest.add wrapped
      close mark length both fuel (count - used) paired

/-- Adds the next item. -/
def step (nesting : Nesting) : Item → Nesting
  | .node inline => nesting.add [inline]
  | .run mark count opens closes =>
    let (left, closed) := if closes then nesting.close mark count (opens && closes) count count else (count, nesting)
    if left = 0 then closed
    else if opens then { closed with openers := { mark, count := left, length := count, both := closes } :: closed.openers }
    else closed.add [.text (List.replicate left mark)]

/-- All text in order. Runs that are still open are plain text. -/
def finish (nesting : Nesting) : List Inline :=
  (nesting.openers.flatMap Opener.plain ++ nesting.front).reverse

end Nesting

/-- Text with its marks paired. -/
def pairMarks (items : List Item) : List Inline := (items.foldl Nesting.step {}).finish

end Literate.Markdown
