import Literate.Toml

/-! Reading TOML. Each reader takes the text it starts at and gives what it read and the
text after that. -/

namespace Literate.Toml

open Text

/-- The result of reading from the front of a text. -/
abbrev Read (α : Type) := Except Error (α × Text)

/-- Something else was expected here. -/
def expected (what : String) (text : Text) : Read α := .error ⟨what, text.length⟩

/-- Characters that may stand in comments and strings. -/
def isPlain (c : Char) : Bool := c = '\t' || (0x20 ≤ c.toNat && c.toNat ≠ 0x7F)

def isBareKey (c : Char) : Bool := c.isAlphanum || c = '_' || c = '-'

/-- The text without the spaces and tabs in front. -/
def skipPad (text : Text) : Text := text.dropWhile isPad

/-- The text without a comment in front. -/
def skipComment : Text → Text
  | '#' :: rest => rest.dropWhile isPlain
  | text => text

/-- What follows a line terminator, which is a line feed with or without a carriage return. -/
def newline? : Text → Option Text
  | '\r' :: '\n' :: rest | '\n' :: rest => some rest
  | _ => none

/-- Padding, comments and line terminators between the items of an array. -/
def skipBlank (fuel : Nat) (text : Text) : Text :=
  match fuel with
  | 0 => text
  | fuel + 1 =>
    match newline? (skipComment (skipPad text)) with
    | some rest => skipBlank fuel rest
    | none => skipPad text

/-- The character with a code given by hexadecimal digits. -/
def unicode? (digits : Text) : Option Char :=
  let digit (c : Char) : Option Nat :=
    if c.isDigit then some (c.toNat - '0'.toNat)
    else if 'a' ≤ c.toLower && c.toLower ≤ 'f' then some (c.toLower.toNat - 'a'.toNat + 10)
    else none
  let code := digits.foldl (fun code c => do return (← code) * 16 + (← digit c)) (some 0)
  code.bind fun code => if code.isValidChar then some (Char.ofNat code) else none

/-- An escape in a string, after its backslash. -/
def escape (text : Text) : Read Char :=
  let coded (count : Nat) (rest : Text) : Read Char :=
    if rest.length < count then expected "hexadecimal digits" rest
    else
      match unicode? (rest.take count) with
      | some c => .ok (c, rest.drop count)
      | none => expected "the code of a character" rest
  match text with
  | 'b' :: rest => .ok ('\x08', rest)
  | 't' :: rest => .ok ('\t', rest)
  | 'n' :: rest => .ok ('\n', rest)
  | 'f' :: rest => .ok ('\x0c', rest)
  | 'r' :: rest => .ok ('\r', rest)
  | '"' :: rest => .ok ('"', rest)
  | '\\' :: rest => .ok ('\\', rest)
  | 'u' :: rest => coded 4 rest
  | 'U' :: rest => coded 8 rest
  | _ => expected "an escape" text

/-- Puts a character in front of what is read after it. -/
def prepend (c : Char) (rest : Read Text) : Read Text := rest.map fun (read, after) => (c :: read, after)

/-- A basic string after its opening quote. -/
def basicString (fuel : Nat) (text : Text) : Read Text :=
  match fuel, text with
  | _, '"' :: rest => .ok ([], rest)
  | fuel + 1, '\\' :: rest =>
    match escape rest with
    | .ok (c, after) => prepend c (basicString fuel after)
    | .error error => .error error
  | fuel + 1, c :: rest => if isPlain c then prepend c (basicString fuel rest) else expected "a closing quote" text
  | _, _ => expected "a closing quote" text

/-- A literal string after its opening quote. It has no escapes. -/
def literalString : Text → Read Text
  | [] => expected "a closing quote" []
  | c :: rest =>
    if c = '\x27' then .ok ([], rest)
    else if isPlain c then prepend c (literalString rest)
    else expected "a closing quote" (c :: rest)

/-- The end of a string over several lines. Quotes that come directly before the closing
three belong to the string, at most two of them. -/
def closing? (quote : Char) (text : Text) : Option (Text × Text) :=
  let count := (text.takeWhile (· = quote)).length
  if count < 3 then none else some (List.replicate (min (count - 3) 2) quote, text.drop (min count 5))

/-- The text after a backslash at the end of a line: blanks and terminators are skipped. -/
def continuation? (text : Text) : Option Text :=
  (newline? (skipPad text)).map fun rest => rest.dropWhile fun c => isPad c || isNewline c

/-- A string over several lines after its opening quotes. Escapes are read in basic
strings only. A terminator is read as a line feed. -/
def longString (quote : Char) (fuel : Nat) (text : Text) : Read Text :=
  match fuel with
  | 0 => expected "closing quotes" text
  | fuel + 1 =>
    match closing? quote text with
    | some (quotes, rest) => .ok (quotes, rest)
    | none =>
      match newline? text with
      | some rest => prepend '\n' (longString quote fuel rest)
      | none =>
        match text with
        | [] => expected "closing quotes" text
        | c :: rest =>
          if c = '\\' && quote = '"' then
            match continuation? rest with
            | some after => longString quote fuel after
            | none =>
              match escape rest with
              | .ok (escaped, after) => prepend escaped (longString quote fuel after)
              | .error error => .error error
          else if isPlain c then prepend c (longString quote fuel rest)
          else expected "closing quotes" text

/-- The text without one line terminator in front. -/
def skipNewline (text : Text) : Text := (newline? text).getD text

/-- One part of a key. -/
def simpleKey (text : Text) : Read Text :=
  match text with
  | '"' :: rest => basicString rest.length rest
  | c :: rest =>
    if c = '\x27' then literalString rest
    else if isBareKey c then .ok (text.takeWhile isBareKey, text.dropWhile isBareKey)
    else expected "a key" text
  | [] => expected "a key" text

/-- The parts of a key with dots between them. -/
def key (fuel : Nat) (text : Text) : Read (List Text) :=
  match fuel, simpleKey text with
  | _, .error error => .error error
  | 0, .ok _ => expected "a key" text
  | fuel + 1, .ok (first, rest) =>
    match skipPad rest with
    | '.' :: after => (key fuel (skipPad after)).map fun (more, last) => (first :: more, last)
    | after => .ok ([first], after)

/-- A key and the equals sign after it. -/
def keyEquals (text : Text) : Read (List Text) :=
  match key text.length text with
  | .error error => .error error
  | .ok (path, '=' :: rest) => .ok (path, skipPad rest)
  | .ok (_, rest) => expected "an equals sign" rest

mutual

/-- A value. The fuel bounds how deep values are nested and how many follow each other. -/
def value (fuel : Nat) (text : Text) : Read Value :=
  match fuel with
  | 0 => expected "a value" text
  | fuel + 1 =>
    match text with
    | '"' :: '"' :: '"' :: rest => (longString '"' (rest.length + 1) (skipNewline rest)).map fun (s, after) => (.string s, after)
    | '\x27' :: '\x27' :: '\x27' :: rest =>
      (longString '\x27' (rest.length + 1) (skipNewline rest)).map fun (s, after) => (.string s, after)
    | '"' :: rest => (basicString rest.length rest).map fun (s, after) => (.string s, after)
    | '\x27' :: rest => (literalString rest).map fun (s, after) => (.string s, after)
    | 't' :: 'r' :: 'u' :: 'e' :: rest => .ok (.boolean true, rest)
    | 'f' :: 'a' :: 'l' :: 's' :: 'e' :: rest => .ok (.boolean false, rest)
    | '[' :: rest => (items fuel (skipBlank rest.length rest)).map fun (list, after) => (.array list, after)
    | '{' :: rest =>
      match skipPad rest with
      | '}' :: after => .ok (.table .braces [], after)
      | first => (pairs fuel [] first).map fun (entries, after) => (.table .braces entries, after)
    | _ => expected "a value" text

/-- The rest of an array, after its bracket or a comma. -/
def items (fuel : Nat) (text : Text) : Read (List Value) :=
  match fuel with
  | 0 => expected "an array" text
  | fuel + 1 =>
    match text with
    | ']' :: rest => .ok ([], rest)
    | _ =>
      match value fuel text with
      | .error error => .error error
      | .ok (first, rest) =>
        match skipBlank rest.length rest with
        | ',' :: after => (items fuel (skipBlank after.length after)).map fun (more, last) => (first :: more, last)
        | ']' :: after => .ok ([first], after)
        | after => expected "a comma or a bracket" after

/-- The rest of a table in braces. -/
def pairs (fuel : Nat) (table : Table) (text : Text) : Read Table :=
  match fuel with
  | 0 => expected "a table" text
  | fuel + 1 =>
    match keyEquals text with
    | .error error => .error error
    | .ok (path, rest) =>
      match value fuel rest with
      | .error error => .error error
      | .ok (value, after) =>
        match table.insert value path, skipPad after with
        | none, _ => expected "a new key" text
        | some changed, '}' :: last => .ok (changed, last)
        | some changed, ',' :: last => pairs fuel changed (skipPad last)
        | some _, last => expected "a comma or a brace" last

end

/-- The header of a table. -/
def header (text : Text) : Read (List Text) :=
  match key text.length (skipPad text) with
  | .error error => .error error
  | .ok (path, ']' :: rest) => .ok (path, rest)
  | .ok (_, rest) => expected "a bracket" rest

/-- What has been read of a document. -/
structure Document where
  table : Table := []
  /-- The header of the table that keys belong to. -/
  current : List Text := []

/-- One line without its terminator: a header, a key with its value, or nothing. -/
def line (document : Document) (text : Text) : Read Document :=
  match text with
  | [] | '#' :: _ | '\n' :: _ | '\r' :: _ => .ok (document, text)
  | '[' :: rest =>
    match header rest with
    | .error error => .error error
    | .ok (path, after) =>
      match document.table.openHeader path with
      | some table => .ok ({ table, current := path }, after)
      | none => expected "a new table" text
  | _ =>
    match keyEquals text with
    | .error error => .error error
    | .ok (path, rest) =>
      match value (rest.length + 1) rest with
      | .error error => .error error
      | .ok (value, after) =>
        match document.table.insertUnder value path document.current with
        | some table => .ok ({ document with table }, after)
        | none => expected "a new key" text

/-- The lines of a document. -/
def documentLines (fuel : Nat) (document : Document) (text : Text) : Except Error Document :=
  match line document (skipPad text) with
  | .error error => .error error
  | .ok (changed, rest) =>
    match fuel, skipComment (skipPad rest) with
    | _, [] => .ok changed
    | 0, after => .error ⟨"the end", after.length⟩
    | fuel + 1, after =>
      match newline? after with
      | some next => documentLines fuel changed next
      | none => .error ⟨"the end of the line", after.length⟩

/-- The table a document describes. A byte order mark in front is skipped. -/
def parse (text : Text) : Except Error Table :=
  let content := match text with
    | '\ufeff' :: rest => rest
    | _ => text
  (documentLines content.length {} content).map Document.table

end Literate.Toml
