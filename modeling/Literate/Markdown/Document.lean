import Literate.Text.Basic

/-! Markdown documents: blocks, and the marked up text inside them. -/

namespace Literate.Markdown

/-- Running text with its markup. -/
inductive Inline where
  | text (content : Text)
  | code (content : Text)
  /-- An HTML tag or comment, kept as it is. -/
  | html (content : Text)
  /-- A line end that is only layout. -/
  | softBreak
  /-- A line end that is meant. -/
  | hardBreak
  | emphasis (inner : List Inline)
  | strong (inner : List Inline)
  | deleted (inner : List Inline)
  | link (target title : Text) (inner : List Inline)
  | image (source title : Text) (inner : List Inline)

/-- How the cells of a table column are aligned. -/
inductive Alignment where
  | unset
  | left
  | center
  | right
deriving DecidableEq

/-- A block whose running text is of type `α`: plain text when only the structure of the
document is known, marked up text when that has been read too. -/
inductive Block (α : Type) where
  | paragraph (content : α)
  | heading (level : Nat) (content : α)
  | rule
  /-- A code block with the language named at its fence, if any. -/
  | code (language : Text) (content : Text)
  | html (content : Text)
  | quote (blocks : List (Block α))
  /-- A list, numbered from `start` on or with bullets. In a tight list paragraphs are not set apart. -/
  | list (start : Option Nat) (tight : Bool) (items : List (List (Block α)))
  | table (columns : List Alignment) (header : List α) (rows : List (List α))

mutual

/-- The block with its running text changed. -/
def Block.map (change : α → β) : Block α → Block β
  | .paragraph content => .paragraph (change content)
  | .heading level content => .heading level (change content)
  | .rule => .rule
  | .code language content => .code language content
  | .html content => .html content
  | .quote blocks => .quote (mapBlocks change blocks)
  | .list start tight items => .list start tight (mapItems change items)
  | .table columns header rows => .table columns (header.map change) (rows.map (·.map change))

def mapBlocks (change : α → β) : List (Block α) → List (Block β)
  | [] => []
  | block :: rest => block.map change :: mapBlocks change rest

def mapItems (change : α → β) : List (List (Block α)) → List (List (Block β))
  | [] => []
  | item :: rest => mapBlocks change item :: mapItems change rest

end

end Literate.Markdown
