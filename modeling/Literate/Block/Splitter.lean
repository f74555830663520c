import Literate.Block
import Literate.Text.Margin
import Literate.Token.Lexer

/-! Splitting a stream of tokens into blocks. The splitter appends text to the open
block and closes it when the kind of text changes. Comments that lead a token are
prose, and all other text is code. -/

namespace Literate

open Text

/-- The text between the delimiters of a block comment. -/
def commentInterior? : Text → Option Text
  | '/' :: '*' :: rest => before? rest ['*', '/']
  | _ => none

/-- How blocks are made. -/
structure Layout where
  format : Format := .plain
  /-- Take the common margin off each comment. -/
  trim : Bool := false
  /-- The language named in the frames of code blocks. -/
  language : Text := "csharp".toList
deriving DecidableEq

namespace Layout

/-- What a comment adds to its prose block. The padding in front of the closing
delimiter is not part of the last line. -/
def prose (layout : Layout) (interior : Text) : Text :=
  if layout.trim then
    let lines := interior.lines
    let padded := lines.dropLast ++ lines.getLast?.toList.map (dropEndWhile isPad)
    (Margin.trimAll {} padded).flatMap (· ++ ['\n'])
  else interior

/-- What stands in a block before any text is appended. -/
def opening (layout : Layout) (kind : BlockKind) : Text :=
  match Frame.of? kind layout.format with
  | some frame => frame.header layout.language
  | none => []

/-- The closed block of what was appended after the opening. A framed block loses the
white space at its end, and its footer is on a line of its own. -/
def close (layout : Layout) (kind : BlockKind) (buffer : Text) : Block where
  kind := kind
  contents :=
    match Frame.of? kind layout.format with
    | some frame => trimEnd buffer ++ ['\n'] ++ frame.footer ++ ['\n']
    | none => buffer

end Layout

/-- The block that receives text. -/
structure OpenBlock where
  kind : BlockKind
  /-- What was appended, the last piece first. -/
  pieces : List Text
deriving DecidableEq

namespace OpenBlock

/-- The text appended so far. -/
def buffer (block : OpenBlock) : Text := block.pieces.reverse.flatten

def append (block : OpenBlock) (text : Text) : OpenBlock := { block with pieces := text :: block.pieces }

@[simp] theorem buffer_append (block : OpenBlock) (text : Text) : (block.append text).buffer = block.buffer ++ text := by
  simp [append, buffer]

@[simp] theorem kind_append (block : OpenBlock) (text : Text) : (block.append text).kind = block.kind := rfl

end OpenBlock

/-- Blocks closed so far, in order, and the open block after the first text. -/
structure Splitter where
  closed : Chain := []
  current : Option OpenBlock := none
deriving DecidableEq

namespace Splitter

/-- Appends text to the open block of a kind, closing a block of the other kind first. -/
def append (layout : Layout) (kind : BlockKind) (text : Text) (splitter : Splitter) : Splitter :=
  match splitter.current with
  | none => { splitter with current := some ⟨kind, [text, layout.opening kind]⟩ }
  | some block =>
    if block.kind = kind then { splitter with current := some (block.append text) }
    else
      { closed := splitter.closed ++ [layout.close block.kind block.buffer]
        current := some ⟨kind, [text, layout.opening kind]⟩ }

/-- Appends a piece of code. An empty line right after prose is left out, because it
would only open an empty code block. -/
def appendCode (layout : Layout) (encoder : Encoder) (text : Text) (splitter : Splitter) : Splitter :=
  if text = [] then splitter
  else if splitter.current.any (·.kind = .prose) && isBlankLine text then splitter
  else splitter.append layout .verbatim (encoder text)

/-- Appends the trivia in front of a token. A comment without delimiters is a fault;
what was appended before it stays. -/
def pushLeading (layout : Layout) (encoder : Encoder) (file : Nat) :
    List Trivia → Splitter → Option Fault × Splitter
  | [], splitter => (none, splitter)
  | trivia :: rest, splitter =>
    if trivia.kind = .blockComment then
      match commentInterior? trivia.text with
      | none => (some (Cause.malformedComment.fault trivia.span file), splitter)
      | some interior => pushLeading layout encoder file rest (splitter.append layout .prose (layout.prose interior))
    else pushLeading layout encoder file rest (splitter.appendCode layout encoder trivia.text)

/-- Appends a token: its leading trivia, its text, then its trailing trivia. A comment
that trails a token stands on the line of that token, so it belongs to the code. -/
def push (layout : Layout) (encoder : Encoder) (file : Nat) (token : Token) (splitter : Splitter) :
    Option Fault × Splitter :=
  match pushLeading layout encoder file token.leading splitter with
  | (some fault, stopped) => (some fault, stopped)
  | (none, led) =>
    (none, token.trailing.foldl (fun splitter trivia => splitter.appendCode layout encoder trivia.text)
      (led.appendCode layout encoder token.text))

/-- All blocks, with the open one closed. -/
def finish (layout : Layout) (splitter : Splitter) : Chain :=
  splitter.closed ++ (splitter.current.map fun block => layout.close block.kind block.buffer).toList

/-- Appends tokens in order up to the first fault. -/
def pushAll (layout : Layout) (encoder : Encoder) (file : Nat) : List Token → Splitter → Except Fault Splitter
  | [], splitter => .ok splitter
  | token :: tokens, splitter =>
    match splitter.push layout encoder file token with
    | (some fault, _) => .error fault
    | (none, pushed) => pushAll layout encoder file tokens pushed

set_option linter.unusedVariables false in
/-- Appends the tokens of a source as the lexer finds them, one at a time. -/
def drain (layout : Layout) (encoder : Encoder) (lexer : Lexer) (splitter : Splitter) : Except Fault Splitter :=
  match pulled : lexer.pull with
  | (none, _) => .ok splitter
  | (some (.error fault), _) => .error fault
  | (some (.ok token), after) =>
    match splitter.push layout encoder lexer.file token with
    | (some fault, _) => .error fault
    | (none, pushed) => drain layout encoder after pushed
termination_by lexer.remaining
decreasing_by exact Lexer.pull_remaining pulled

end Splitter

/-- The blocks of a list of tokens. -/
def Chain.ofTokens (tokens : List Token) (layout : Layout) : Except Fault Chain :=
  (Splitter.pushAll layout layout.format.encoder 0 tokens {}).map (Splitter.finish layout)

/-- The blocks of a source. The first fault, of lexing or of splitting, ends the work. -/
def Chain.ofSource (source : Text) (file : Nat) (layout : Layout) : Except Fault Chain :=
  (Splitter.drain layout layout.format.encoder (.ofSource source file) {}).map (Splitter.finish layout)

end Literate
