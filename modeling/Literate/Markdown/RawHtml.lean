import Literate.Markdown.Line

/-! HTML inside markdown: tags, comments and the like. Each recogniser takes the text it
starts at and gives what follows. -/

namespace Literate.Markdown

open Text

/-- White space inside a tag. In a block it stays on one line. -/
def isTagSpace (multiline : Bool) (c : Char) : Bool := isBlank c || (multiline && isNewline c)

/-- A tag name and what follows it. -/
def tagName? (text : Text) : Option (Text × Text) :=
  if text.head?.any Char.isAlpha then
    some (text.takeWhile (fun c => c.isAlphanum || c = '-'), text.dropWhile (fun c => c.isAlphanum || c = '-'))
  else none

/-- What follows the next quotation mark of a kind. -/
def quoted? (multiline : Bool) (mark : Char) : Text → Option Text
  | [] => none
  | c :: rest =>
    if c = mark then some rest
    else if isNewline c && !multiline then none
    else quoted? multiline mark rest

/-- The value of an attribute. -/
def attributeValue? (multiline : Bool) : Text → Option Text
  | '"' :: rest => quoted? multiline '"' rest
  | '\x27' :: rest => quoted? multiline '\x27' rest
  | text =>
    let bare := fun c => !"\x27\" =><\x60\n\r".toList.contains c
    if text.head?.any bare then some (text.dropWhile bare) else none

/-- An attribute with its value, if it has one. -/
def attribute? (multiline : Bool) (text : Text) : Option Text :=
  if text.head?.any (fun c => c.isAlpha || c = '_' || c = ':') then
    let rest := text.dropWhile fun c => c.isAlphanum || c = '_' || c = ':' || c = '.' || c = '-'
    match rest.dropWhile (isTagSpace multiline) with
    | '=' :: after => attributeValue? multiline (after.dropWhile (isTagSpace multiline))
    | _ => some rest
  else none

/-- The rest of an opening tag after its name: attributes with white space in front of each,
and the end of the tag. -/
def attributes? (multiline : Bool) (fuel : Nat) (text : Text) : Option Text :=
  match fuel with
  | 0 => none
  | fuel + 1 =>
    match text.dropWhile (isTagSpace multiline) with
    | '/' :: '>' :: rest | '>' :: rest => some rest
    | start =>
      if text.head?.any (isTagSpace multiline) then
        match attribute? multiline start with
        | some rest => attributes? multiline fuel rest
        | none => none
      else none

/-- An opening tag after its angle bracket. -/
def openingTag? (multiline : Bool) (text : Text) : Option Text :=
  (tagName? text).bind fun (_, rest) => attributes? multiline (rest.length + 1) rest

/-- A closing tag after its angle bracket and slash. It is all on one line. -/
def closingTag? (text : Text) : Option Text :=
  (tagName? text).bind fun (_, rest) =>
    match rest.dropWhile isBlank with
    | '>' :: after => some after
    | _ => none

/-- A tag, opening or closing. -/
def tag? (multiline : Bool) : Text → Option Text
  | '<' :: '/' :: rest => closingTag? rest
  | '<' :: rest => openingTag? multiline rest
  | _ => none

/-- What follows character data: it ends with the first closing brackets in it, which must be
followed by the end of the tag. -/
def characterData? (data : Text) : Option Text :=
  match data.dropWhile (· ≠ ']') with
  | [] => none
  | brackets => after? (brackets.dropWhile (· = ']')) ['>']

/-- HTML that is no tag: a comment, an instruction, character data or a declaration. -/
def declaration? : Text → Option Text
  | '<' :: '!' :: '-' :: '-' :: rest =>
    match rest with
    | '>' :: after | '-' :: '>' :: after => some after
    | _ => (cutAt? "-->".toList rest).map (·.2)
  | '<' :: '?' :: rest => (cutAt? "?>".toList rest).map (·.2)
  | '<' :: '!' :: rest =>
    match after? rest "[CDATA[".toList with
    | some data => characterData? data
    | none => if rest.head?.any Char.isAlpha then (cutAt? ['>'] rest).map (·.2) else none
  | _ => none

/-- Tags that open an HTML block wherever they stand. -/
def blockTags : List String := [
  "address", "article", "aside", "base", "basefont", "blockquote", "body", "caption", "center", "col", "colgroup",
  "dd", "details", "dialog", "dir", "div", "dl", "dt", "fieldset", "figcaption", "figure", "footer", "form", "frame",
  "frameset", "h1", "h2", "h3", "h4", "h5", "h6", "head", "header", "hr", "html", "iframe", "legend", "li", "link",
  "main", "menu", "menuitem", "nav", "noframes", "ol", "optgroup", "option", "p", "param", "search", "section",
  "summary", "table", "tbody", "td", "tfoot", "th", "thead", "title", "tr", "track", "ul"]

/-- Tags whose content is not markdown at all. -/
def verbatimTags : List String := ["pre", "style", "script", "textarea"]

/-- The text that ends the HTML block that begins, if blank lines do not end it. -/
def verbatimEnd? (text : Text) : Option Text :=
  match text with
  | '<' :: '!' :: '-' :: '-' :: _ => some "-->".toList
  | '<' :: '?' :: _ => some "?>".toList
  | '<' :: '!' :: rest =>
    if (after? rest "[CDATA[".toList).isSome then some "]]>".toList
    else if rest.head?.any Char.isAlpha then some ['>']
    else none
  | '<' :: rest =>
    (verbatimTags.find? fun tag =>
      asciiLower (rest.take tag.length) = tag.toList &&
        (rest.drop tag.length).head?.all fun c => isBlank c || isNewline c || c = '>').map fun tag =>
      "</".toList ++ tag.toList ++ ['>']
  | _ => none

/-- A tag that opens an HTML block wherever it stands. -/
def opensBlockTag (text : Text) : Bool :=
  let named (text : Text) : Bool :=
    let name := text.takeWhile Char.isAlphanum
    let rest := text.drop name.length
    blockTags.contains (String.ofList (asciiLower name)) &&
      (rest.head?.all (fun c => isPad c || isNewline c || c = '>') || (after? rest "/>".toList).isSome)
  match text with
  | '<' :: '/' :: rest | '<' :: rest => named rest
  | _ => false

/-- A tag with nothing else on its line. -/
def loneTag (text : Text) : Bool := (tag? false text).any fun rest => (blankLine? rest).isSome

end Literate.Markdown
