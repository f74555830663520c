import Literate.Block
import Literate.Markdown

/-! HTML pages made from blocks and from markdown documents. -/

namespace Literate

/-- The blocks as an HTML fragment. Each prose block is a markdown document of its own, and
code blocks are marked up already. -/
def Chain.html (chain : Chain) : Text :=
  chain.flatMap fun block =>
    match block.kind with
    | .prose => Markdown.render block.contents
    | .verbatim => block.contents

/-- The title of the first prose block that has one. -/
def Chain.title? (chain : Chain) : Option Text :=
  chain.findSome? fun block =>
    match block.kind with
    | .prose => Markdown.title? block.contents
    | .verbatim => none

/-- A page of its own around an HTML fragment. -/
def page (title body : Text) : Text :=
  "<!DOCTYPE html>\n<html>\n<head>\n<meta charset=\"utf-8\">\n<title>".toList ++ Text.escape title ++
  "</title>\n</head>\n<body>\n".toList ++ body ++ "</body>\n</html>\n".toList

end Literate
