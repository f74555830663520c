import Literate.Span

/-! Tokens of a source in a C-like language, each with the trivia around it. -/

namespace Literate

/-- Kinds of text between tokens. -/
inductive TriviaKind where
  /-- From an opening to the next closing comment delimiter. Only these hold prose. -/
  | blockComment
  /-- From two slashes to the end of the line, without its terminator. -/
  | lineComment
  /-- White space and line terminators. -/
  | whitespace
  /-- A line that starts with a hash and a letter. -/
  | directive
deriving DecidableEq

structure Trivia where
  kind : TriviaKind
  text : Text
  span : Span := {}
deriving DecidableEq

inductive TokenKind where
  /-- An identifier, a keyword or a number. -/
  | word
  | stringLiteral
  | charLiteral
  /-- Any other character. -/
  | punctuation
  /-- The empty token that carries the trivia at the end of the source. -/
  | endOfFile
deriving DecidableEq

structure Token where
  kind : TokenKind
  text : Text
  span : Span := {}
  leading : List Trivia := []
  trailing : List Trivia := []
deriving DecidableEq

/-- All the source text that belongs to the token. -/
def Token.written (token : Token) : Text :=
  token.leading.flatMap Trivia.text ++ token.text ++ token.trailing.flatMap Trivia.text

end Literate
