import Literate.Markdown.Emphasis
import Literate.Markdown.Link
import Literate.Markdown.Passage
import Literate.Markdown.RawHtml

/-! Reading running text: code, links, images, HTML, character references, escapes and
line breaks from left to right, and the marks of emphasis after that. -/

namespace Literate.Markdown

open Text

/-- A bracket that may turn out to open the text of a link or an image. -/
structure Bracket where
  image : Bool
  /-- Links are not allowed in links, so a bracket around a link opens nothing. -/
  active : Bool := true
  /-- What follows the bracket. -/
  behind : Text
  /-- What is in front of it, in reverse. -/
  front : List Item

/-- The bracket as plain text, with what is in front of it. -/
def Bracket.plain (bracket : Bracket) : List Item :=
  .node (.text (if bracket.image then ['!', '['] else ['['])) :: bracket.front

/-- What has been read, with all open brackets as plain text. -/
def unlinked (brackets : List Bracket) (read : List Item) : List Item :=
  brackets.foldl (fun inner bracket => inner ++ bracket.plain) read

/-- Code after an opening run of backticks, up to a run of the same length. -/
def codeUntil? (length fuel : Nat) (text : Text) : Option (Text × Text) :=
  match fuel with
  | 0 => none
  | fuel + 1 =>
    let code := text.takeWhile (· ≠ '\x60')
    let rest := text.drop code.length
    let run := rest.takeWhile (· = '\x60')
    if run.isEmpty then none
    else if run.length = length then some (code, rest.drop length)
    else (codeUntil? length fuel (rest.drop run.length)).map fun (more, after) => (code ++ run ++ more, after)

/-- Bars without the backslash in front of each. -/
def plainBars : Text → Text
  | [] => []
  | '\\' :: '|' :: rest => '|' :: plainBars rest
  | c :: rest => c :: plainBars rest

/-- Code as it is shown: on one line, and without one space of padding on each side. -/
def codeContent (inCell : Bool) (code : Text) : Text :=
  let line := (if inCell then plainBars code else code).map fun c => if isNewline c then ' ' else c
  if line.head? = some ' ' && line.getLast? = some ' ' && !line.all (· = ' ') then (line.drop 1).dropLast else line

def isSchemeChar (c : Char) : Bool := c.isAlphanum || c = '+' || c = '.' || c = '-'

def isMailChar (c : Char) : Bool := c.isAlphanum || ".!#$%&\x27*+/=?^_\x60\x7b|\x7d~-".toList.contains c

/-- A part of a host name between dots. -/
def isHostLabel (label : Text) : Bool :=
  !label.isEmpty && label.length ≤ 63 && label.all (fun c => c.isAlphanum || c = '-') &&
    label.head? ≠ some '-' && label.getLast? ≠ some '-'

/-- An address in angle brackets, after the first of them: the link and what follows it. -/
def autolink? (text : Text) : Option (Inline × Text) :=
  let inside := text.takeWhile fun c => c ≠ '>' && c ≠ '<' && 0x20 < c.toNat
  match text.drop inside.length with
  | '>' :: rest =>
    let scheme := inside.takeWhile isSchemeChar
    let user := inside.takeWhile isMailChar
    if inside.head?.any Char.isAlpha && 2 ≤ scheme.length && scheme.length ≤ 32 &&
        (inside.drop scheme.length).head? = some ':' then
      some (.link inside [] [.text inside], rest)
    else
      match inside.drop user.length with
      | '@' :: host =>
        if !user.isEmpty && (Text.splitWhere (· = '.') host).all isHostLabel then
          some (.link ("mailto:".toList ++ inside) [] [.text inside], rest)
        else none
      | _ => none
  | _ => none

/-- What follows something that is not plain text. White space at the end of a heading belongs
to the text in front of it, and is dropped behind all else. -/
def withoutTail (rest : Text) : Text := if rest.all isBlank then [] else rest

/-- The target behind the closing bracket of a link, and what follows it. A label in brackets
refers to a definition, and without one the text of the link is the label, if the closing
bracket is not the last text of a heading with white space at its end. `behind` is what
follows the opening bracket. -/
def linkTarget? (defined : Definitions) (inCell : Bool) (behind after : Text) : Option (Target × Text) :=
  let own (rest : Text) : Option (Target × Text) :=
    match label? inCell some behind with
    | some (label, last) => if last.length = after.length then (defined.lookup label).map (·, rest) else none
    | none => none
  let labelled : Option (Target × Text) :=
    match after with
    | '[' :: ']' :: rest => own (withoutTail rest)
    | '[' :: rest =>
      match label? inCell some rest with
      | some (label, behind) => (defined.lookup label).map (·, withoutTail behind)
      | none => own after
    | [] => own after
    | _ => if after.all isBlank then none else own after
  match after with
  | '(' :: rest => (inlineTarget? inCell rest) <|> labelled
  | _ => labelled

/-- The number of line breaks in a text. -/
def breakCount : Text → Nat
  | [] => 0
  | '\r' :: '\n' :: rest => breakCount rest + 1
  | c :: rest => if isNewline c then breakCount rest + 1 else breakCount rest

/-- The text with marks behind its line breaks. -/
def withMarks : (marks : List Text) → Text → Text
  | mark :: marks, '\r' :: '\n' :: rest => '\r' :: '\n' :: mark ++ withMarks marks rest
  | mark :: marks, c :: rest => if isNewline c then c :: mark ++ withMarks marks rest else c :: withMarks (mark :: marks) rest
  | _, text => text

/-- HTML at the front of what is left of a passage, and what follows it. Tags are taken line by
line; all else is taken as it is written, with the marks of containers. -/
def html? (passage : Passage) (text : Text) : Option (Text × Text) :=
  let front (rest : Text) : Text := text.take (text.length - rest.length)
  match tag? true text with
  | some rest => some (front rest, rest)
  | none =>
    (declaration? text).map fun rest =>
      (withMarks (passage.marks.drop (passage.marks.length - breakCount text)) (front rest), rest)

/-- The start of a line behind a line break. White space in front is dropped if there is more on
the line. -/
def lineStart (text : Text) : Text :=
  if (text.dropWhile isBlank).head?.all isNewline then text else text.dropWhile isPad

/-- Characters that end a run of plain text. -/
def isSpecial (c : Char) : Bool := isBlank c || isNewline c || "\\\x60*_~[]!<&\x00".toList.contains c

/-- The items of a passage from some place on, in reverse. `previous` is the character in front
of the place. -/
def items (defined : Definitions) (passage : Passage) (fuel : Nat) (previous : Char) (text : Text)
    (brackets : List Bracket) (read : List Item) : List Item :=
  match fuel, text with
  | 0, _ | _, [] => unlinked brackets read
  | fuel + 1, first :: rest =>
    let next (last : Char) (after : Text) (item : Item) : List Item :=
      items defined passage fuel last after brackets (item :: read)
    let plain (content : Text) (after : Text) : List Item := next (content.getLastD previous) after (.node (.text content))
    let broken (inline : Inline) (after : Text) : List Item :=
      next '\n' (lineStart ((lineBreak? after).getD after)) (.node inline)
    match first, rest with
    | '\\', c :: after =>
      if isNewline c then broken .hardBreak rest
      else if passage.inCell && c = '\\' && after.head? = some '|' then plain ['|'] (after.drop 1)
      else if isAsciiPunctuation c then plain [c] after
      else plain ['\\'] rest
    | '&', after =>
      match reference? after with
      | some (value, behind) => next ';' (withoutTail behind) (.node (.text value))
      | none => plain ['&'] after
    | '<', after =>
      match autolink? after with
      | some (link, behind) => next '>' behind (.node link)
      | none =>
        match html? passage text with
        | some (tag, behind) => next '>' behind (.node (.html tag))
        | none => plain ['<'] after
    | '!', '[' :: after =>
      items defined passage fuel '[' after ({ image := true, behind := after, front := read } :: brackets) []
    | '[', after =>
      items defined passage fuel '[' after ({ image := false, behind := after, front := read } :: brackets) []
    | ']', after =>
      match brackets with
      | [] => plain [']'] after
      | bracket :: outer =>
        match if bracket.active then linkTarget? defined passage.inCell bracket.behind after else none with
        | none => items defined passage fuel ']' after outer (.node (.text [']']) :: read ++ bracket.plain)
        | some (target, behind) =>
          let inner := pairMarks read.reverse
          if bracket.image then
            items defined passage fuel ')' behind outer (.node (.image target.url target.title inner) :: bracket.front)
          else
            let closed := outer.map fun other => if other.image then other else { other with active := false }
            items defined passage fuel ')' behind closed (.node (.link target.url target.title inner) :: bracket.front)
    | c, after =>
      if c = '\x60' then
        let run := text.takeWhile (· = c)
        let behind := text.drop run.length
        match codeUntil? run.length behind.length behind with
        | some (code, last) => next c (withoutTail last) (.node (.code (codeContent passage.inCell code)))
        | none => plain run behind
      else if c = '*' || c = '_' || c = '~' then
        let run := text.takeWhile (· = c)
        let behind := text.drop run.length
        if c = '~' && 2 < run.length then plain run behind
        else
          next c behind
            (.run c run.length (mayOpen c run.length previous behind.head?) (mayClose c run.length previous behind.head?))
      else if isNewline c then broken .softBreak text
      else if isBlank c then
        let run := text.takeWhile isBlank
        let behind := text.drop run.length
        if behind.head?.any isNewline then broken (if 2 ≤ run.length then .hardBreak else .softBreak) behind
        else plain run behind
      else if c = '\x00' then next c (withoutTail after) (.node (.text ['\ufffd']))
      else
        let run := c :: after.takeWhile fun c => !isSpecial c
        plain run (text.drop run.length)

/-- Running text without white space at its end that stands behind emphasis. -/
def dropTail (inlines : List Inline) : List Inline :=
  match inlines.reverse with
  | .text content :: previous :: rest =>
    let paired := match previous with
      | .emphasis _ | .strong _ | .deleted _ => true
      | _ => false
    if content.all isBlank && paired then (previous :: rest).reverse else inlines
  | _ => inlines

/-- Running text with its markup. -/
def inlines (defined : Definitions) (passage : Passage) : List Inline :=
  dropTail (pairMarks (items defined passage (passage.text.length + 1) '\n' passage.text [] []).reverse)

end Literate.Markdown
