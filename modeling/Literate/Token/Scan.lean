import Literate.Fault
import Literate.Text.Alphabetic
import Literate.Text.Line
import Literate.Text.Numeric
import Literate.Token

/-! Recognising the piece of trivia or the token at the front of a text. Every
scanner splits its input in two and loses nothing, and no piece is empty; the
second fact is what lets the lexer go on until the text is used up. -/

namespace Literate

/-- What stands at the front of a text. -/
inductive Scan (κ : Type) where
  /-- A piece and the text after it. -/
  | piece (kind : κ) (text rest : Text)
  /-- No piece of the kinds looked for. -/
  | nothing
  /-- A piece that is opened but never closed, and how far it was followed. -/
  | unfinished (cause : Cause) (scanned : Text)
deriving DecidableEq

namespace Scan

open Text

/-- A character of identifiers, keywords and numbers. -/
def isWordChar (c : Char) : Bool := isAlphabetic c || isNumeric c || c = '_'

/-- Horizontal white space with the line terminator after it, so that a blank line is one piece. -/
def whitespace (text : Text) : Text × Text :=
  let (ending, rest) := terminator (text.dropWhile isHorizontal)
  (text.takeWhile isHorizontal ++ ending, rest)

/-- Everything up to the next line terminator. -/
def restOfLine (text : Text) : Text × Text :=
  (text.takeWhile (!isNewline ·), text.dropWhile (!isNewline ·))

/-- The closed body of a comment or literal with its closing delimiter and the text
after it, or the text that was followed in vain. -/
abbrev Body := Except Text (Text × Text)

/-- Puts characters already scanned in front of a body. -/
def Body.extend (scanned : Text) : Body → Body
  | .ok (body, rest) => .ok (scanned ++ body, rest)
  | .error followed => .error (scanned ++ followed)

/-- The body of a block comment, which ends with the first closing delimiter. -/
def commentBody : Text → Body
  | '*' :: '/' :: rest => .ok (['*', '/'], rest)
  | c :: rest => (commentBody rest).extend [c]
  | [] => .error []

/-- The body of a string literal. A backslash takes the next character with it,
whatever it is. A line terminator leaves the literal open. -/
def stringBody : Text → Body
  | [] => .error []
  | ['\\'] => .error ['\\']
  | '\\' :: c :: rest => (stringBody rest).extend ['\\', c]
  | c :: rest =>
    if isNewline c then .error []
    else if c = '"' then .ok ([c], rest)
    else (stringBody rest).extend [c]

/-- The body of a verbatim string literal. It may span lines, and two quotes stand
for one. -/
def verbatimBody : Text → Body
  | [] => .error []
  | '"' :: '"' :: rest => (verbatimBody rest).extend ['"', '"']
  | c :: rest => if c = '"' then .ok ([c], rest) else (verbatimBody rest).extend [c]

/-- A quoted character, possibly escaped, at the start of the text. Longer quoted text
is not a literal; its quotes are punctuation. -/
def charLiteral? : Text → Option (Text × Text)
  | '\x27' :: '\\' :: c :: '\x27' :: rest => some (['\x27', '\\', c, '\x27'], rest)
  | '\x27' :: c :: '\x27' :: rest =>
    if c = '\\' || c = '\x27' || isNewline c then none else some (['\x27', c, '\x27'], rest)
  | _ => none

/-- The piece with a body after an opening delimiter. -/
def ofBody (kind : κ) (opening : Text) (cause : Cause) : Body → Scan κ
  | .ok (body, rest) => .piece kind (opening ++ body) rest
  | .error followed => .unfinished cause (opening ++ followed)

/-- A piece of trivia at the front of the text. Directives are looked for only where
the caller says that one may start. -/
def trivia (directives : Bool) : Text → Scan TriviaKind
  | [] => .nothing
  | '/' :: '/' :: text =>
    .piece .lineComment ('/' :: '/' :: (restOfLine text).1) (restOfLine text).2
  | '/' :: '*' :: text => ofBody .blockComment ['/', '*'] .openComment (commentBody text)
  | '#' :: c :: text =>
    if directives && isAlphabetic c then
      .piece .directive ('#' :: (restOfLine (c :: text)).1) (restOfLine (c :: text)).2
    else .nothing
  | c :: text =>
    if isSpace c then .piece .whitespace (whitespace (c :: text)).1 (whitespace (c :: text)).2 else .nothing

/-- The token at the front of the text; there is one unless the text is empty. -/
def token : Text → Scan TokenKind
  | [] => .nothing
  | '"' :: text => ofBody .stringLiteral ['"'] .openString (stringBody text)
  | '@' :: '"' :: text => ofBody .stringLiteral ['@', '"'] .openVerbatimString (verbatimBody text)
  | c :: text =>
    match charLiteral? (c :: text) with
    | some (literal, rest) => .piece .charLiteral literal rest
    | none =>
      if isWordChar c then .piece .word (c :: text.takeWhile isWordChar) (text.dropWhile isWordChar)
      else .piece .punctuation [c] text

theorem whitespace_append (text : Text) : (whitespace text).1 ++ (whitespace text).2 = text := by
  have split := terminator_append (text.dropWhile isHorizontal)
  simp only [whitespace, List.append_assoc, split, List.takeWhile_append_dropWhile]

theorem restOfLine_append (text : Text) : (restOfLine text).1 ++ (restOfLine text).2 = text :=
  List.takeWhile_append_dropWhile

theorem Body.extend_eq_ok {scanned piece rest : Text} {body : Body} :
    body.extend scanned = .ok (piece, rest) ↔ ∃ inner, body = .ok (inner, rest) ∧ piece = scanned ++ inner := by
  cases body with
  | error => simp [extend]
  | ok result =>
    obtain ⟨inner, after⟩ := result
    simp only [extend, Except.ok.injEq, Prod.mk.injEq]
    exact ⟨fun ⟨same, rest⟩ => ⟨inner, ⟨rfl, rest⟩, same.symm⟩, fun ⟨_, ⟨same, rest⟩, equal⟩ => ⟨by rw [equal, same], rest⟩⟩

theorem commentBody_append {text body rest : Text} (closed : commentBody text = .ok (body, rest)) :
    body ++ rest = text := by
  fun_induction commentBody text generalizing body with
  | case1 after =>
    obtain ⟨rfl, rfl⟩ := Prod.mk.inj (Except.ok.inj closed)
    rfl
  | case2 c after _ ih =>
    obtain ⟨inner, found, rfl⟩ := Body.extend_eq_ok.mp closed
    simp [ih found]
  | case3 => cases closed

theorem stringBody_append {text body rest : Text} (closed : stringBody text = .ok (body, rest)) :
    body ++ rest = text := by
  fun_induction stringBody text generalizing body with
  | case1 | case2 | case4 => cases closed
  | case3 c after ih =>
    obtain ⟨inner, found, rfl⟩ := Body.extend_eq_ok.mp closed
    simp [ih found]
  | case5 =>
    obtain ⟨rfl, rfl⟩ := Prod.mk.inj (Except.ok.inj closed)
    rfl
  | case6 c after _ _ _ _ ih =>
    obtain ⟨inner, found, rfl⟩ := Body.extend_eq_ok.mp closed
    simp [ih found]

theorem verbatimBody_append {text body rest : Text} (closed : verbatimBody text = .ok (body, rest)) :
    body ++ rest = text := by
  fun_induction verbatimBody text generalizing body with
  | case1 => cases closed
  | case2 after ih =>
    obtain ⟨inner, found, rfl⟩ := Body.extend_eq_ok.mp closed
    simp [ih found]
  | case3 =>
    obtain ⟨rfl, rfl⟩ := Prod.mk.inj (Except.ok.inj closed)
    rfl
  | case4 c after _ _ ih =>
    obtain ⟨inner, found, rfl⟩ := Body.extend_eq_ok.mp closed
    simp [ih found]

theorem charLiteral?_append {text literal rest : Text} (found : charLiteral? text = some (literal, rest)) :
    literal ++ rest = text ∧ literal ≠ [] := by
  unfold charLiteral? at found
  split at found
  · obtain ⟨rfl, rfl⟩ := Prod.mk.inj (Option.some.inj found)
    simp
  · split at found
    · cases found
    · obtain ⟨rfl, rfl⟩ := Prod.mk.inj (Option.some.inj found)
      simp
  · cases found

theorem ofBody_piece {kind found : κ} {opening piece rest : Text} {cause : Cause} {body : Body}
    (scanned : ofBody kind opening cause body = .piece found piece rest) :
    kind = found ∧ ∃ inner, body = .ok (inner, rest) ∧ piece = opening ++ inner := by
  cases body with
  | error => cases scanned
  | ok result =>
    obtain ⟨sameKind, same, rest⟩ := Scan.piece.inj scanned
    exact ⟨sameKind, result.1, by rw [← rest], same.symm⟩

/-- A piece of trivia is the front of the text, and it is not empty. -/
theorem trivia_piece {directives : Bool} {text piece rest : Text} {kind : TriviaKind}
    (scanned : trivia directives text = .piece kind piece rest) : piece ++ rest = text ∧ piece ≠ [] := by
  unfold trivia at scanned
  split at scanned
  · cases scanned
  · obtain ⟨_, rfl, rfl⟩ := Scan.piece.inj scanned
    simp [restOfLine_append]
  · obtain ⟨_, inner, closed, rfl⟩ := ofBody_piece scanned
    simp [commentBody_append closed]
  · split at scanned
    · obtain ⟨_, rfl, rfl⟩ := Scan.piece.inj scanned
      simp [restOfLine_append]
    · cases scanned
  next c after _ _ _ =>
    split at scanned
    next space =>
      obtain ⟨_, rfl, rfl⟩ := Scan.piece.inj scanned
      refine ⟨whitespace_append _, ?_⟩
      by_cases newline : isNewline c
      · simpa [whitespace, isHorizontal, newline] using terminator_ne_nil newline after
      · simp [whitespace, isHorizontal, space, newline]
    next => cases scanned

/-- A token other than the end is the front of the text, and it is not empty. -/
theorem token_piece {text piece rest : Text} {kind : TokenKind}
    (scanned : token text = .piece kind piece rest) : piece ++ rest = text ∧ piece ≠ [] := by
  unfold token at scanned
  split at scanned
  · cases scanned
  · obtain ⟨_, inner, closed, rfl⟩ := ofBody_piece scanned
    simp [stringBody_append closed]
  · obtain ⟨_, inner, closed, rfl⟩ := ofBody_piece scanned
    simp [verbatimBody_append closed]
  · split at scanned
    next literal =>
      obtain ⟨_, rfl, rfl⟩ := Scan.piece.inj scanned
      exact charLiteral?_append literal
    next =>
      split at scanned
      · obtain ⟨_, rfl, rfl⟩ := Scan.piece.inj scanned
        simp
      · obtain ⟨_, rfl, rfl⟩ := Scan.piece.inj scanned
        simp

end Scan

end Literate
