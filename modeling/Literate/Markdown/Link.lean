import Literate.Markdown.Entity
import Literate.Markdown.Line
import Literate.Text.Caseless
import Literate.Text.Punctuation

/-! Links: destinations, titles and labels, and the definitions that labels refer to. -/

namespace Literate.Markdown

open Text

/-- Where a link leads. -/
structure Target where
  url : Text
  title : Text

/-- Link definitions by their labels, in the order they were made. -/
abbrev Definitions := List (Text × Target)

/-- Text with backslash escapes and character references replaced by what they stand for.
In a table cell two backslashes in front of a bar are dropped with it as one escape. -/
def unescapeFrom (inCell : Bool) (fuel : Nat) (text : Text) : Text :=
  match fuel, text with
  | _, [] => []
  | 0, text => text
  | fuel + 1, '\\' :: c :: rest =>
    if inCell && c = '\\' && rest.head? = some '|' then '|' :: unescapeFrom inCell fuel (rest.drop 1)
    else if isAsciiPunctuation c then c :: unescapeFrom inCell fuel rest
    else '\\' :: unescapeFrom inCell fuel (c :: rest)
  | fuel + 1, '&' :: rest =>
    match reference? rest with
    | some (value, after) => value ++ unescapeFrom inCell fuel after
    | none => '&' :: unescapeFrom inCell fuel rest
  | fuel + 1, c :: rest => c :: unescapeFrom inCell fuel rest

def unescape (inCell : Bool) (text : Text) : Text := unescapeFrom inCell text.length text

/-- White space in a label: at most one line break with other white space around it, and what
follows. `goOn?` gives the text of the line after a break, if the label can go on there. -/
def labelSpace? (goOn? : Text → Option Text) (text : Text) : Option Text :=
  match text.dropWhile isBlank with
  | [] => some []
  | c :: rest =>
    if isNewline c then
      match (lineBreak? (c :: rest)).bind goOn? with
      | some line =>
        let behind := line.dropWhile isBlank
        if behind.head?.any isNewline then none else some behind
      | none => none
    else some (c :: rest)

/-- A label after its opening bracket with its white space collapsed, and what follows its
closing bracket. `size` is what is left of the greatest size a label may have: an escape takes
two, white space as much as there is of it, and a character beyond ASCII its bytes. `named`
says that there is more in it than white space and escapes. -/
def labelFrom? (inCell : Bool) (goOn? : Text → Option Text) (named : Bool) :
    (fuel size : Nat) → Text → Option (Text × Text)
  | 0, _, _ | _, 0, _ | _, _, [] => none
  | fuel + 1, size + 1, c :: rest =>
    let more (named : Bool) (cost : Nat) (taken after : Text) : Option (Text × Text) :=
      (labelFrom? inCell goOn? named fuel (size + 1 - cost) after).map fun (label, behind) => (taken ++ label, behind)
    if c = ']' then if named then some ([], rest) else none
    else if c = '[' then none
    else if c = '\\' then
      match rest with
      | [] => none
      | next :: after => more named 2 (if inCell && next = '|' then [next] else [c, next]) after
    else if isBlank c || isNewline c then
      (labelSpace? goOn? (c :: rest)).bind fun after => more named ((c :: rest).length - after.length) [' '] after
    else more true (if c.utf8Size = 1 then 0 else c.utf8Size) [c] rest

/-- A label that names something, and what follows it. Labels are equal up to white space and
the case of letters. -/
def label? (inCell : Bool) (goOn? : Text → Option Text) (text : Text) : Option (Text × Text) :=
  (labelFrom? inCell goOn? false (text.length + 1) 1000 text).map fun (label, rest) =>
    (caseless (dropEndWhile (· = ' ') (label.dropWhile (· = ' '))), rest)

/-- A destination in angle brackets, after the first of them. -/
def bracketed? : Text → Option (Text × Text)
  | [] => none
  | '\\' :: c :: rest =>
    if isAsciiPunctuation c then (bracketed? rest).map fun (url, after) => ('\\' :: c :: url, after)
    else (bracketed? (c :: rest)).map fun (url, after) => ('\\' :: url, after)
  | c :: rest =>
    if c = '>' then some ([], rest)
    else if c = '<' || isNewline c then none
    else (bracketed? rest).map fun (url, after) => (c :: url, after)

/-- A destination without brackets ends at white space, or at a parenthesis that it did not
open. All that it opens must be closed, and no more than `limit + 1` may be open at a time. -/
def bareDestination? (limit depth : Nat) : Text → Option (Text × Text)
  | [] => if depth = 0 then some ([], []) else none
  | '\\' :: c :: rest =>
    if isAsciiPunctuation c then (bareDestination? limit depth rest).map fun (url, after) => ('\\' :: c :: url, after)
    else (bareDestination? limit depth (c :: rest)).map fun (url, after) => ('\\' :: url, after)
  | c :: rest =>
    if c.toNat ≤ 0x20 || (c = ')' && depth = 0) then if depth = 0 then some ([], c :: rest) else none
    else if c = '(' && limit < depth then none
    else
      let inner := if c = '(' then depth + 1 else if c = ')' then depth - 1 else depth
      (bareDestination? limit inner rest).map fun (url, after) => (c :: url, after)

/-- The destination of a definition, not yet unescaped. -/
def definedDestination? (text : Text) : Option (Text × Text) :=
  match text with
  | '<' :: rest => bracketed? rest
  | _ => (bareDestination? 1 0 text).filter fun (url, _) => !url.isEmpty

/-- The destination of a link, not yet unescaped. -/
def destination? (text : Text) : Option (Text × Text) :=
  match text with
  | '<' :: rest => bracketed? rest
  | _ => bareDestination? 32 0 text

/-- A title up to its closing mark. White space at the start of its lines is dropped; `fresh`
says that a line starts. -/
def titleBody? (closing : Char) (fresh : Bool) : Text → Option (Text × Text)
  | [] => none
  | '\\' :: c :: rest =>
    if isAsciiPunctuation c then (titleBody? closing false rest).map fun (title, after) => ('\\' :: c :: title, after)
    else (titleBody? closing false (c :: rest)).map fun (title, after) => ('\\' :: title, after)
  | c :: rest =>
    if c = closing then some ([], rest)
    else if c = '(' && closing = ')' then none
    else if fresh && isPad c then titleBody? closing true rest
    else if c = '\n' || (c = '\r' && rest.head? ≠ some '\n') then
      (titleBody? closing true rest).map fun (title, after) => ('\n' :: title, after)
    else (titleBody? closing false rest).map fun (title, after) => (c :: title, after)

/-- A title in quotes or parentheses, not yet unescaped. -/
def linkTitle? : Text → Option (Text × Text)
  | '"' :: rest => titleBody? '"' false rest
  | '\x27' :: rest => titleBody? '\x27' false rest
  | '(' :: rest => titleBody? ')' false rest
  | _ => none

/-- What follows white space with at most one line break in it. -/
def skipLinkSpace (text : Text) : Text := (((lineBreak? (text.dropWhile isBlank)).getD text).dropWhile isBlank)

/-- The target in parentheses behind the text of a link, after the first parenthesis. -/
def inlineTarget? (inCell : Bool) (text : Text) : Option (Target × Text) :=
  match destination? (skipLinkSpace text) with
  | none => none
  | some (url, rest) =>
    let after := skipLinkSpace rest
    let (title, behind) := match linkTitle? after with
      | some (title, behind) => (title, skipLinkSpace behind)
      | none => ([], after)
    match behind with
    | ')' :: last => some (⟨unescape inCell url, unescape inCell title⟩, last)
    | _ => none

end Literate.Markdown
