import Literate.Markdown.Html
import Literate.Markdown.Inline
import Literate.Markdown.Structure

/-! Reading markdown, showing it as HTML, and finding its first heading. -/

namespace Literate.Markdown

/-- The blocks of a document. -/
def parse (document : Text) : List (Block (List Inline)) :=
  let (blocks, defined) := outline document
  mapBlocks (inlines defined) blocks

/-- A document as an HTML fragment. -/
def render (document : Text) : Text := assemble true (blockPieces false (parse document))

mutual

/-- The text and code of running text, without its markup and line breaks. -/
def Inline.words : Inline → Text
  | .text content | .code content => content
  | .html _ | .softBreak | .hardBreak => []
  | .emphasis inner | .strong inner | .deleted inner | .link _ _ inner | .image _ _ inner => inlineWords inner

def inlineWords : List Inline → Text
  | [] => []
  | inline :: rest => inline.words ++ inlineWords rest

end

mutual

/-- The running text of the first heading in a block. -/
def Block.heading? : Block α → Option α
  | .heading _ content => some content
  | .quote blocks => firstHeading? blocks
  | .list _ _ items => firstItemHeading? items
  | .paragraph _ | .rule | .code _ _ | .html _ | .table _ _ _ => none

def firstHeading? : List (Block α) → Option α
  | [] => none
  | block :: rest => block.heading?.or (firstHeading? rest)

def firstItemHeading? : List (List (Block α)) → Option α
  | [] => none
  | item :: rest => (firstHeading? item).or (firstItemHeading? rest)

end

/-- The words of a heading with single spaces between them; no title if there are none. -/
def titleOf (heading : List Inline) : Option Text :=
  let title := Text.join [' '] (Text.words (inlineWords heading))
  if title.isEmpty then none else some title

/-- The words of the first heading of a document. -/
def title? (document : Text) : Option Text := (firstHeading? (parse document)).bind titleOf

end Literate.Markdown
