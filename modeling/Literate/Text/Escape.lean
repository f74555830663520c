import Literate.Text.Basic

/-! Writing text so that it reads as itself inside HTML. -/

namespace Literate.Text

/-- How one character is written between HTML tags. -/
def escapeChar (c : Char) : Text :=
  if c = '&' then "&amp;".toList
  else if c = '<' then "&lt;".toList
  else if c = '>' then "&gt;".toList
  else [c]

/-- The text with the characters that HTML gives a meaning replaced by references. -/
def escape (text : Text) : Text := text.flatMap escapeChar

@[simp] theorem escape_append (first second : Text) : escape (first ++ second) = escape first ++ escape second := by
  simp [escape]

end Literate.Text
