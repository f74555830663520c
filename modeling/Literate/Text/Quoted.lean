import Literate.Text.Invisible

/-! Text between quotation marks, in which every character can be seen. -/

namespace Literate.Text

/-- How one character is written between quotation marks. -/
def quoteChar (c : Char) : Text :=
  if c = '\x00' then ['\\', '0']
  else if c = '\t' then ['\\', 't']
  else if c = '\r' then ['\\', 'r']
  else if c = '\n' then ['\\', 'n']
  else if c = '\\' || c = '"' then ['\\', c]
  else if isInvisible c then "\\u\x7b".toList ++ Nat.toDigits 16 c.toNat ++ ['\x7d']
  else [c]

/-- The text in quotation marks. -/
def quote (text : Text) : Text := ['"'] ++ text.flatMap quoteChar ++ ['"']

end Literate.Text
