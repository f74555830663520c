import Literate.Markdown.Document
import Literate.Text.Escape

/-! Markdown documents as HTML. Output is a list of pieces, some of which ask for a fresh
line: whether that takes a line feed depends on what was written before. -/

namespace Literate.Markdown

open Text

inductive Piece where
  | raw (text : Text)
  /-- A line feed, unless nothing is written yet or the last line is complete. -/
  | freshLine

/-- The text of the pieces. `fresh` says that nothing is on the current line. -/
def assemble : (fresh : Bool) → List Piece → Text
  | _, [] => []
  | fresh, .raw text :: rest => text ++ assemble (text.getLast?.elim fresh (· = '\n')) rest
  | fresh, .freshLine :: rest => (if fresh then [] else ['\n']) ++ assemble true rest

def raw (text : String) : Piece := .raw text.toList

/-- Text between quotes in a tag. -/
def escapeAttribute (text : Text) : Text :=
  text.flatMap fun c =>
    if c = '"' then "&quot;".toList else if c = '\x27' then "&#39;".toList else escapeChar c

/-- One byte of a URL as a percent sign and two digits. -/
def percent (byte : UInt8) : Text :=
  let digit (n : Nat) : Char := "0123456789ABCDEF".toList.getD n '0'
  ['%', digit (byte.toNat / 16), digit (byte.toNat % 16)]

/-- A URL between quotes in a tag. Characters that URLs cannot hold are written by their bytes. -/
def escapeUrl (url : Text) : Text :=
  url.flatMap fun c =>
    if c.isAlphanum || c ∈ "!#$%()*+,-./:;=?@^_~".toList then [c]
    else if c = '&' then "&amp;".toList
    else if c = '\x27' then "&#x27;".toList
    else (String.singleton c).toUTF8.toList.flatMap percent

mutual

/-- The text shown in place of an image. -/
def Inline.alternative : Inline → Text
  | .text content | .code content | .html content => escapeAttribute content
  | .softBreak | .hardBreak => [' ']
  | .emphasis inner | .strong inner | .deleted inner | .link _ _ inner | .image _ _ inner => alternatives inner

def alternatives : List Inline → Text
  | [] => []
  | inline :: rest => inline.alternative ++ alternatives rest

end

/-- The title attribute of a link or image, if it has a title. -/
def titleAttribute (title : Text) : Text :=
  if title.isEmpty then [] else "\" title=\"".toList ++ escapeAttribute title

mutual

def Inline.pieces : Inline → List Piece
  | .text content => [.raw (escape content)]
  | .code content => [raw "<code>", .raw (escape content), raw "</code>"]
  | .html content => [.raw content]
  | .softBreak => [raw "\n"]
  | .hardBreak => [raw "<br />\n"]
  | .emphasis inner => raw "<em>" :: inlinePieces inner ++ [raw "</em>"]
  | .strong inner => raw "<strong>" :: inlinePieces inner ++ [raw "</strong>"]
  | .deleted inner => raw "<del>" :: inlinePieces inner ++ [raw "</del>"]
  | .link target title inner =>
    [raw "<a href=\"", .raw (escapeUrl target ++ titleAttribute title), raw "\">"] ++ inlinePieces inner ++ [raw "</a>"]
  | .image source title inner =>
    [raw "<img src=\"", .raw (escapeUrl source), raw "\" alt=\"", .raw (alternatives inner ++ titleAttribute title),
      raw "\" />"]

def inlinePieces : List Inline → List Piece
  | [] => []
  | inline :: rest => inline.pieces ++ inlinePieces rest

end

/-- The opening of a table cell in a column. -/
def cellStart (tag : String) (column : Option Alignment) : Piece :=
  let style := match column with
    | some .left => " style=\"text-align: left\""
    | some .center => " style=\"text-align: center\""
    | some .right => " style=\"text-align: right\""
    | _ => ""
  raw ("<" ++ tag ++ style ++ ">")

/-- The cells of a row, each with the alignment of its column. -/
def rowPieces (tag : String) : List Alignment → List (List Inline) → List Piece
  | _, [] => []
  | columns, cell :: cells =>
    cellStart tag columns.head? :: inlinePieces cell ++ raw ("</" ++ tag ++ ">") :: rowPieces tag columns.tail cells

mutual

/-- A block as HTML. In a tight list paragraphs have no tags. -/
def Block.pieces (tight : Bool) : Block (List Inline) → List Piece
  | .paragraph content =>
    if tight then inlinePieces content else [.freshLine, raw "<p>"] ++ inlinePieces content ++ [raw "</p>\n"]
  | .heading level content =>
    [.freshLine, raw s!"<h{level}>"] ++ inlinePieces content ++ [raw s!"</h{level}>\n"]
  | .rule => [.freshLine, raw "<hr />\n"]
  | .code language content =>
    let opening := if language.isEmpty then raw "<pre><code>"
      else .raw ("<pre><code class=\"language-".toList ++ escapeAttribute language ++ "\">".toList)
    [.freshLine, opening, .raw (escape content), raw "</code></pre>\n"]
  | .html content => [.raw content]
  | .quote blocks => [.freshLine, raw "<blockquote>\n"] ++ blockPieces false blocks ++ [raw "</blockquote>\n"]
  | .list start tight items =>
    match start with
    | none => [.freshLine, raw "<ul>\n"] ++ itemPieces tight items ++ [raw "</ul>\n"]
    | some number =>
      let opening := if number = 1 then raw "<ol>\n" else raw s!"<ol start=\"{number}\">\n"
      [.freshLine, opening] ++ itemPieces tight items ++ [raw "</ol>\n"]
  | .table columns header rows =>
    [raw "<table><thead><tr>"] ++ rowPieces "th" columns header ++ [raw "</tr></thead><tbody>\n"] ++
      rows.flatMap (fun row => [raw "<tr>"] ++ rowPieces "td" columns row ++ [raw "</tr>\n"]) ++
      [raw "</tbody></table>\n"]

def blockPieces (tight : Bool) : List (Block (List Inline)) → List Piece
  | [] => []
  | block :: rest => block.pieces tight ++ blockPieces tight rest

def itemPieces (tight : Bool) : List (List (Block (List Inline))) → List Piece
  | [] => []
  | item :: rest => [.freshLine, raw "<li>"] ++ blockPieces tight item ++ [raw "</li>\n"] ++ itemPieces tight rest

end

end Literate.Markdown
