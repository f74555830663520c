import Literate.Markdown.Link
import Literate.Markdown.Table

/-! Definitions that give labels their targets. A definition stands where a paragraph could
begin, and may go on over line breaks as a paragraph could. -/

namespace Literate.Markdown

open Text

/-- The line goes on with a definition: what begins on it would not end a paragraph, nor
make a heading of it. -/
def goesOn (containers : List Container) (text : Text) : Bool :=
  let (count, place) := enter containers { rest := text }
  let inAll : Bool := count = containers.length
  let start := place.skipAll.rest
  4 ≤ place.indent || !(interruptsIn containers inAll start || (inAll && (underline? start).isSome))

/-- The text of a line that goes on with a definition. -/
def goOn? (containers : List Container) (text : Text) : Option Text :=
  if goesOn containers text then some (enter containers { rest := text }).2.skipAll.rest else none

/-- The white space between the parts of a definition, with at most one line break: what
follows it, and whether it has a line break. -/
def partSpace? (containers : List Container) (text : Text) : Option (Text × Bool) :=
  let start := text.dropWhile isBlank
  match lineBreak? start with
  | none => some (start, false)
  | some next =>
    match goOn? containers next with
    | none => none
    | some line =>
      let inner := line.dropWhile isBlank
      if (lineBreak? inner).isSome then none else some (inner, true)

/-- A title up to its closing mark, and what follows it. -/
def titleLines? (containers : List Container) (closing : Char) : (fuel : Nat) → Text → Option (Text × Text)
  | 0, _ | _, [] => none
  | fuel + 1, c :: rest =>
    let more (taken : Text) (after : Text) : Option (Text × Text) :=
      (titleLines? containers closing fuel after).map fun (title, behind) => (taken ++ title, behind)
    if c = closing then some ([], rest)
    else if c = '(' && closing = ')' then none
    else if isNewline c then
      match (lineBreak? (c :: rest)).bind (goOn? containers) with
      | some line => if (blankLine? line).isSome then none else more ['\n'] line
      | none => none
    else
      match rest with
      | next :: after => if c = '\\' && !isNewline next then more [c, next] after else more [c] rest
      | [] => none

/-- The title of a definition, if only white space follows it on its line, and what follows
that line. -/
def lastTitle? (containers : List Container) (text : Text) : Option (Text × Text) :=
  let closed (closing : Char) (rest : Text) : Option (Text × Text) :=
    match titleLines? containers closing rest.length rest with
    | some (title, after) => (blankLine? after).map (title, ·)
    | none => none
  match text with
  | '"' :: rest => closed '"' rest
  | '\x27' :: rest => closed '\x27' rest
  | '(' :: rest => closed ')' rest
  | _ => none

/-- A definition at the front of a text, and what follows its last line. A title on a line of
its own that is none leaves the definition without one. -/
def definition? (containers : List Container) (text : Text) : Option ((Text × Target) × Text) :=
  match text with
  | '[' :: start =>
    match label? false (goOn? containers) start with
    | some (label, ':' :: rest) =>
      match (partSpace? containers rest).bind fun (start, _) => definedDestination? start with
      | none => none
      | some (url, after) =>
        let plain := (blankLine? after).map fun behind => ((label, ⟨unescape false url, []⟩), behind)
        match partSpace? containers after with
        | none => plain
        | some (start, broken) =>
          match if broken || after.head?.any isBlank then lastTitle? containers start else none with
          | some (title, behind) => some ((label, ⟨unescape false url, unescape false title⟩), behind)
          | none => if broken then plain else none
    | _ => none
  | _ => none

end Literate.Markdown
