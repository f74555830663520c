import Literate.Format
import Literate.Text.Escape

/-! Blocks of documentation: prose taken from comments, and code shown verbatim
inside a frame that depends on the output format. -/

namespace Literate

inductive BlockKind where
  | prose
  | verbatim
deriving DecidableEq

def BlockKind.name : BlockKind → String
  | prose => "prose"
  | verbatim => "verbatim"

/-- A closed block. Its contents include the frame. -/
structure Block where
  kind : BlockKind
  contents : Text
deriving DecidableEq

/-- The blocks of one source file in order. -/
abbrev Chain := List Block

/-- The text of all blocks, one after the other. -/
def Chain.document (chain : Chain) : Text := chain.flatMap Block.contents

/-- How many blocks of one kind there are. -/
def Chain.count (chain : Chain) (kind : BlockKind) : Nat := List.countP (·.kind = kind) chain

/-- What is written around a block. -/
structure Frame where
  /-- The header, for code in the given language. -/
  header : Text → Text
  footer : Text

/-- The frame of a block. Prose has none. -/
def Frame.of? : BlockKind → Format → Option Frame
  | .prose, _ => none
  | .verbatim, .plain => some
    { header := fun language => "``` ".toList ++ language ++ ['\n']
      footer := "```".toList }
  | .verbatim, .styled => some
    { header := fun language =>
        "<pre class=\"".toList ++ language ++ "\"><code class=\"".toList ++ language ++ "\">".toList
      footer := "</code></pre>".toList }

/-- A change made to each piece of code before it is put into a block. -/
abbrev Encoder := Text → Text

/-- The encoder a format needs: code in HTML must be escaped. -/
def Format.encoder : Format → Encoder
  | .plain => id
  | .styled => Text.escape

end Literate
