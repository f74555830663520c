import Literate.Token.Scan

/-! The lexer. Every character of a source ends up in exactly one token or piece of
trivia. Trivia after a token on the same line, up to and including the line
terminator, trails that token; all other trivia leads the next one. The last token
is empty and carries the trivia at the end of the source. -/

namespace Literate

open Text

/-- A place in a source: what is still to be read, and what matters of what was. -/
structure Cursor where
  rest : Text
  /-- Bytes in front of the rest. -/
  offset : Nat := 0
  /-- Only spaces and tabs stand between the last line terminator and the rest. -/
  fresh : Bool := true
deriving DecidableEq

namespace Cursor

/-- The place after a piece. -/
def advance (cursor : Cursor) (piece rest : Text) : Cursor where
  rest := rest
  offset := cursor.offset + piece.byteSize
  fresh := piece.foldl (fun fresh c => isNewline c || fresh && isPad c) cursor.fresh

/-- A piece of trivia that starts here. -/
def trivia (cursor : Cursor) (kind : TriviaKind) (text : Text) : Trivia :=
  { kind, text, span := .covering cursor.offset text }

/-- A piece that starts here and is never closed. -/
def fault (cursor : Cursor) (cause : Cause) (scanned : Text) (file : Nat) : Fault :=
  cause.fault (.covering cursor.offset scanned) file

end Cursor

namespace Lexer

set_option linter.unusedVariables false in
/-- The trivia in front of the next token, and the place of that token. -/
def leading (file : Nat) (cursor : Cursor) : Except Fault (List Trivia × Cursor) :=
  match scanned : Scan.trivia cursor.fresh cursor.rest with
  | .nothing => .ok ([], cursor)
  | .unfinished cause followed => .error (cursor.fault cause followed file)
  | .piece kind text rest =>
    match leading file (cursor.advance text rest) with
    | .error fault => .error fault
    | .ok (more, last) => .ok (cursor.trivia kind text :: more, last)
termination_by cursor.rest.length
decreasing_by
  obtain ⟨split, nonempty⟩ := Scan.trivia_piece scanned
  have positive := List.length_pos_iff.mpr nonempty
  simp only [Cursor.advance, ← split, List.length_append]
  omega

set_option linter.unusedVariables false in
/-- The trivia after a token, up to the end of the line, and the place after it.
Directives start lines, so there are none here. -/
def trailing (file : Nat) (cursor : Cursor) : Except Fault (List Trivia × Cursor) :=
  match scanned : Scan.trivia false cursor.rest with
  | .nothing => .ok ([], cursor)
  | .unfinished cause followed => .error (cursor.fault cause followed file)
  | .piece kind text rest =>
    if text.getLast?.any isNewline then .ok ([cursor.trivia kind text], cursor.advance text rest)
    else
      match trailing file (cursor.advance text rest) with
      | .error fault => .error fault
      | .ok (more, last) => .ok (cursor.trivia kind text :: more, last)
termination_by cursor.rest.length
decreasing_by
  obtain ⟨split, nonempty⟩ := Scan.trivia_piece scanned
  have positive := List.length_pos_iff.mpr nonempty
  simp only [Cursor.advance, ← split, List.length_append]
  omega

/-- The next token with its trivia, and the place after them. -/
def next (file : Nat) (cursor : Cursor) : Except Fault (Token × Cursor) :=
  match leading file cursor with
  | .error fault => .error fault
  | .ok (leading, start) =>
    match Scan.token start.rest with
    | .nothing => .ok ({ kind := .endOfFile, text := [], span := .covering start.offset [], leading }, start)
    | .unfinished cause followed => .error (start.fault cause followed file)
    | .piece kind text rest =>
      match trailing file (start.advance text rest) with
      | .error fault => .error fault
      | .ok (trailing, last) =>
        .ok ({ kind, text, span := .covering start.offset text, leading, trailing }, last)

theorem leading_length {file : Nat} {cursor last : Cursor} {trivia : List Trivia}
    (found : leading file cursor = .ok (trivia, last)) : last.rest.length ≤ cursor.rest.length := by
  fun_induction leading file cursor generalizing trivia with
  | case1 => cases found; exact Nat.le_refl _
  | case2 => cases found
  | case3 => simp_all
  | case4 cursor kind text rest scanned more after continued ih =>
    cases found
    have shorter := ih continued
    simp only [Cursor.advance] at shorter
    rw [← (Scan.trivia_piece scanned).1, List.length_append]
    omega

theorem trailing_length {file : Nat} {cursor last : Cursor} {trivia : List Trivia}
    (found : trailing file cursor = .ok (trivia, last)) : last.rest.length ≤ cursor.rest.length := by
  fun_induction trailing file cursor generalizing trivia with
  | case1 => cases found; exact Nat.le_refl _
  | case2 => cases found
  | case3 cursor kind text rest scanned _ =>
    cases found
    simp only [Cursor.advance]
    rw [← (Scan.trivia_piece scanned).1, List.length_append]
    omega
  | case4 => simp_all
  | case5 cursor kind text rest scanned _ more after continued ih =>
    cases found
    have shorter := ih continued
    simp only [Cursor.advance] at shorter
    rw [← (Scan.trivia_piece scanned).1, List.length_append]
    omega

/-- Every token but the last uses up some of the source. -/
theorem next_length {file : Nat} {cursor last : Cursor} {token : Token}
    (found : next file cursor = .ok (token, last)) (inside : token.kind ≠ .endOfFile) :
    last.rest.length < cursor.rest.length := by
  unfold next at found
  split at found
  · cases found
  next trivia start led =>
    have before := leading_length led
    split at found
    · cases found
      exact absurd rfl inside
    · cases found
    next kind text rest scanned =>
      obtain ⟨split, nonempty⟩ := Scan.token_piece scanned
      split at found
      · cases found
      next trailed =>
        cases found
        have behind := trailing_length trailed
        have positive := List.length_pos_iff.mpr nonempty
        simp only [Cursor.advance] at behind
        rw [← split, List.length_append] at before
        omega

end Lexer

/-- A source from which tokens are pulled one at a time. -/
structure Lexer where
  cursor : Cursor
  file : Nat := 0
  finished : Bool := false
deriving DecidableEq

namespace Lexer

def ofSource (source : Text) (file : Nat) : Lexer := { cursor := { rest := source }, file }

/-- The next token or fault, if there is one. Nothing follows the last token or a fault. -/
def pull (lexer : Lexer) : Option (Except Fault Token) × Lexer :=
  if lexer.finished then (none, lexer)
  else
    match next lexer.file lexer.cursor with
    | .error fault => (some (.error fault), { lexer with finished := true })
    | .ok (token, last) => (some (.ok token), { lexer with cursor := last, finished := token.kind = .endOfFile })

/-- A bound on how often the lexer can still be pulled. -/
def remaining (lexer : Lexer) : Nat := if lexer.finished then 0 else lexer.cursor.rest.length + 1

theorem pull_remaining {lexer after : Lexer} {item : Except Fault Token}
    (pulled : lexer.pull = (some item, after)) : after.remaining < lexer.remaining := by
  unfold pull at pulled
  split at pulled
  · cases pulled
  next running =>
    split at pulled
    · cases pulled
      simp [remaining, running]
    next token last found =>
      cases pulled
      by_cases ended : token.kind = .endOfFile
      · simp [remaining, running, ended]
      · have shorter := next_length found ended
        simp only [remaining, running, ended]
        simpa using shorter

set_option linter.unusedVariables false in
/-- All tokens up to the end of the source or the first fault, and the lexer after them. -/
def run (lexer : Lexer) : List Token × Option Fault × Lexer :=
  match pulled : lexer.pull with
  | (none, last) => ([], none, last)
  | (some (.error fault), last) => ([], some fault, last)
  | (some (.ok token), after) =>
    let (tokens, fault, last) := run after
    (token :: tokens, fault, last)
termination_by lexer.remaining
decreasing_by exact pull_remaining pulled

/-- The tokens of a source, if it has no fault. -/
def tokens (source : Text) (file : Nat) : Except Fault (List Token) :=
  match (ofSource source file).run with
  | (tokens, none, _) => .ok tokens
  | (_, some fault, _) => .error fault

end Lexer

end Literate
