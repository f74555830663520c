import Literate.Text.Line

/-! The values of a TOML document that settings are made of. Numbers and dates have no
use there, so they are not values here and a document with one is not read. -/

namespace Literate

namespace Toml

/-- How a table came to be, which decides what may be added to it later. -/
inductive Origin where
  /-- Written in braces, and complete with them. -/
  | braces
  /-- Led through by a key with dots. -/
  | key
  /-- Led through by a header, and still open to a header of its own. -/
  | path
  /-- Opened by a header. -/
  | header
deriving DecidableEq

inductive Value where
  | string (text : Text)
  | boolean (value : Bool)
  | array (items : List Value)
  | table (origin : Origin) (entries : List (Text × Value))

/-- A table: keys with their values, in the order they were first written. -/
abbrev Table := List (Text × Value)

/-- What the reader was looking for, and how much of the document was left then. -/
structure Error where
  expected : String
  remaining : Nat

/-- The line of the document the error is on. -/
def Error.message (error : Error) (document : Text) : String :=
  let before := document.take (document.length - error.remaining)
  let line := (Text.lines before).length
  s!"expected {error.expected} on line {line}"

/-- The table with another value under a key that it has. -/
def Table.replace (table : Table) (key : Text) (value : Value) : Table :=
  table.map fun (other, old) => if other = key then (other, value) else (other, old)

/-- The table with a value under a key that it does not have. -/
def Table.append (table : Table) (key : Text) (value : Value) : Table := table ++ [(key, value)]

/-- A value under a key path, put into a table. Nothing is written twice: the last key
must be new, and the others must lead through tables that keys alone have made. -/
def Table.insert (value : Value) : List Text → Table → Option Table
  | [], _ => none
  | [key], table => if (table.lookup key).isSome then none else some (table.append key value)
  | key :: rest, table =>
    match table.lookup key with
    | none => (Table.insert value rest []).map fun inner => table.append key (.table .key inner)
    | some (.table .key inner) =>
      (Table.insert value rest inner).map fun changed => table.replace key (.table .key changed)
    | some _ => none

/-- A value under a key path of the table that a header has opened. -/
def Table.insertUnder (value : Value) (keys : List Text) : List Text → Table → Option Table
  | [], table => table.insert value keys
  | key :: rest, table =>
    match table.lookup key with
    | some (.table origin inner) =>
      (Table.insertUnder value keys rest inner).map fun changed => table.replace key (.table origin changed)
    | _ => none

/-- The table with the one that a header names in it. The header leads through any table
that is not in braces. The last key must be new, or only have been led through. -/
def Table.openHeader : List Text → Table → Option Table
  | [], _ => none
  | [key], table =>
    match table.lookup key with
    | none => some (table.append key (.table .header []))
    | some (.table .path inner) => some (table.replace key (.table .header inner))
    | some _ => none
  | key :: rest, table =>
    match table.lookup key with
    | none => (Table.openHeader rest []).map fun inner => table.append key (.table .path inner)
    | some (.table origin inner) =>
      if origin = .braces then none
      else (Table.openHeader rest inner).map fun changed => table.replace key (.table origin changed)
    | some _ => none

end Toml

end Literate
