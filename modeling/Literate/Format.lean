import Literate.Text.Basic

/-! The two formats documentation is written in. -/

namespace Literate

inductive Format where
  /-- Markdown with fenced code blocks. -/
  | plain
  /-- An HTML page with marked up code blocks. -/
  | styled
deriving DecidableEq

namespace Format

/-- The format's name in messages. -/
def name : Format → String
  | plain => "markdown"
  | styled => "html"

/-- Extension of the files written in the format. -/
def extension : Format → Text
  | plain => "md".toList
  | styled => "html".toList

/-- The format that has this name or one of its alternative names. -/
def named? (name : Text) : Option Format :=
  if name ∈ ["plain".toList, "markdown".toList, "md".toList] then some plain
  else if name ∈ ["styled".toList, "html".toList] then some styled
  else none

/-- A name that no format has, in lower case. -/
structure Unknown where
  name : Text

def Unknown.message (unknown : Unknown) : String :=
  s!"unknown output format '{String.ofList unknown.name}' (expected markdown or html)"

/-- The format with this name, whatever the case of its letters. -/
def parse (name : Text) : Except Unknown Format :=
  match named? name.asciiLower with
  | some format => .ok format
  | none => .error ⟨name.asciiLower⟩

end Format

end Literate
