import Literate.Markdown.Place

/-! Containers of blocks: quotes, lists and their items. A line is in a container if it
has the container's mark in front. -/

namespace Literate.Markdown

/-- The marker of a list: the number of its first item, if it has one, and the character
that marks every item. -/
structure Marker where
  start : Option Nat
  symbol : Char

inductive Container where
  | quote
  | list (marker : Marker)
  /-- An item, whose lines are indented by some columns. -/
  | item (columns : Nat)

/-- The place behind the mark of a quote. One column of white space belongs to the mark. -/
def quoteMark? (place : Place) : Option Place :=
  if place.rest.head? = some '>' then some ((place.advance 1).skip 1) else none

/-- The place inside a container, if the line is in it. A line that ends in the indentation
of an item is in the item, and lists have no marks of their own. -/
def Container.inside? (place : Place) : Container → Option Place
  | quote => quoteMark? (place.skip 3)
  | list _ => some place
  | item columns =>
    let inner := place.skip columns
    if columns ≤ place.indent || inner.atEnd then some inner else none

/-- How many of some nested containers a line is in, and the place inside them. -/
def enter : List Container → Place → Nat × Place
  | [], place => (0, place)
  | container :: inner, place =>
    match container.inside? place with
    | none => (0, place)
    | some inside =>
      let (count, last) := enter inner inside
      (count + 1, last)

/-- The place inside all of some nested containers, if the line is in all. -/
def enterAll? (containers : List Container) (text : Text) : Option Place :=
  let (count, place) := enter containers { rest := text }
  if count = containers.length then some place else none

end Literate.Markdown
