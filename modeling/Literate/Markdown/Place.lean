import Literate.Markdown.Line

/-! A place in a line of a markdown document. Indentation is counted in columns: a tab
reaches to the next multiple of four, and what is not used of it counts as spaces. -/

namespace Literate.Markdown

open Text

structure Place where
  /-- The document from here on. -/
  rest : Text
  /-- The column the rest starts at. -/
  column : Nat := 0
  /-- Columns in front of the rest that are left of a tab. -/
  pad : Nat := 0
  /-- Characters of the line in front of the rest. -/
  passed : Nat := 0

/-- Columns of the white space in front of a text that starts at a column. -/
def indentColumns (column : Nat) : Text → Nat
  | ' ' :: rest => 1 + indentColumns (column + 1) rest
  | '\t' :: rest => (4 - column % 4) + indentColumns (column + (4 - column % 4)) rest
  | _ => 0

/-- The place after some columns of white space, or after all there are. -/
def skipColumns : (amount column passed : Nat) → Text → Place
  | amount + 1, column, passed, ' ' :: rest => skipColumns amount (column + 1) (passed + 1) rest
  | amount + 1, column, passed, '\t' :: rest =>
    let width := 4 - column % 4
    if amount + 1 < width then ⟨rest, column + width, width - (amount + 1), passed + 1⟩
    else skipColumns (amount + 1 - width) (column + width) (passed + 1) rest
  | _, column, passed, rest => ⟨rest, column, 0, passed⟩

namespace Place

/-- Columns of white space in front. -/
def indent (place : Place) : Nat := place.pad + indentColumns place.column place.rest

/-- The place without some columns of white space, or without all there are. -/
def skip (place : Place) (amount : Nat) : Place :=
  if amount ≤ place.pad then { place with pad := place.pad - amount }
  else skipColumns (amount - place.pad) place.column place.passed place.rest

/-- The place without the white space in front. -/
def skipAll (place : Place) : Place := place.skip place.indent

/-- The place after some visible characters. What is left of a tab stays in front. -/
def advance (place : Place) (count : Nat) : Place :=
  { place with rest := place.rest.drop count, column := place.column + count, passed := place.passed + count }

/-- Nothing is left of the line. -/
def atEnd (place : Place) : Bool := (lineBreak? place.rest).isSome

/-- Nothing but white space is left of the line. -/
def isBlank (place : Place) : Bool := (blankLine? place.rest).isSome

end Place

end Literate.Markdown
