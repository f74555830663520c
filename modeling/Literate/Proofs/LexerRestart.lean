import Literate.Proofs.LexerReading

/-! Lexing can start again behind every line that a token ends. What the lexer knows of the text
in front of it is the number of its bytes and whether a directive may follow; behind a line
terminator the second is settled, and the first only moves the spans. -/

namespace Literate

open Text

def Trivia.shift (amount : Nat) (trivia : Trivia) : Trivia := { trivia with span := trivia.span.shift amount }

/-- The same token, trivia included, in a source with more text in front. -/
def Token.shift (amount : Nat) (token : Token) : Token where
  kind := token.kind
  text := token.text
  span := token.span.shift amount
  leading := token.leading.map (Trivia.shift amount)
  trailing := token.trailing.map (Trivia.shift amount)

def Fault.shift (amount : Nat) (fault : Fault) : Fault := { fault with span := fault.span.shift amount }

def Cursor.shift (amount : Nat) (cursor : Cursor) : Cursor := { cursor with offset := cursor.offset + amount }

theorem Span.shift_covering (amount offset : Nat) (text : Text) :
    (covering offset text).shift amount = covering (offset + amount) text := by
  simp only [covering, shift, mk.injEq, true_and]
  omega

namespace Cursor

variable (amount : Nat) (cursor : Cursor)

theorem shift_advance (text rest : Text) :
    (cursor.shift amount).advance text rest = (cursor.advance text rest).shift amount := by
  simp only [advance, shift, mk.injEq, true_and, and_true]
  omega

theorem shift_trivia (kind : TriviaKind) (text : Text) :
    (cursor.shift amount).trivia kind text = (cursor.trivia kind text).shift amount := by
  simp [trivia, Trivia.shift, Span.shift_covering, shift]

theorem shift_fault (cause : Cause) (text : Text) (file : Nat) :
    (cursor.shift amount).fault cause text file = (cursor.fault cause text file).shift amount := by
  simp [fault, Cause.fault_eq, Fault.shift, Span.shift_covering, shift]

end Cursor

namespace Lexer

/-- What was found and the place behind it, or the fault, with more text in front. -/
def shiftFound (amount : Nat) (move : α → α) : Except Fault (α × Cursor) → Except Fault (α × Cursor)
  | .error fault => .error (fault.shift amount)
  | .ok (found, last) => .ok (move found, last.shift amount)

theorem leading_shift (amount file : Nat) (cursor : Cursor) :
    leading file (cursor.shift amount) = shiftFound amount (·.map (Trivia.shift amount)) (leading file cursor) := by
  fun_induction leading file cursor with
  | case1 cursor quiet => exact leading_of_nothing quiet
  | case2 cursor cause followed unfinished =>
    have again : Scan.trivia (cursor.shift amount).fresh (cursor.shift amount).rest = _ := unfinished
    rw [leading_of_unfinished again, Cursor.shift_fault]
    rfl
  | case3 cursor kind text rest scanned fault failed ih =>
    have again : Scan.trivia (cursor.shift amount).fresh (cursor.shift amount).rest = _ := scanned
    rw [failed] at ih
    rw [leading_of_piece again, Cursor.shift_advance, ih]
    rfl
  | case4 cursor kind text rest scanned more last found ih =>
    have again : Scan.trivia (cursor.shift amount).fresh (cursor.shift amount).rest = _ := scanned
    rw [found] at ih
    rw [leading_of_piece again, Cursor.shift_advance, Cursor.shift_trivia, ih]
    rfl

theorem trailing_shift (amount file : Nat) (cursor : Cursor) :
    trailing file (cursor.shift amount) = shiftFound amount (·.map (Trivia.shift amount)) (trailing file cursor) := by
  fun_induction trailing file cursor with
  | case1 cursor quiet => exact trailing_of_nothing quiet
  | case2 cursor cause followed unfinished =>
    have again : Scan.trivia false (cursor.shift amount).rest = _ := unfinished
    rw [trailing_of_unfinished again, Cursor.shift_fault]
    rfl
  | case3 cursor kind text rest scanned ends =>
    have again : Scan.trivia false (cursor.shift amount).rest = _ := scanned
    rw [trailing_of_piece again, if_pos ends, Cursor.shift_advance, Cursor.shift_trivia]
    rfl
  | case4 cursor kind text rest scanned goesOn fault failed ih =>
    have again : Scan.trivia false (cursor.shift amount).rest = _ := scanned
    rw [failed] at ih
    rw [trailing_of_piece again, if_neg goesOn, Cursor.shift_advance, ih]
    rfl
  | case5 cursor kind text rest scanned goesOn more last found ih =>
    have again : Scan.trivia false (cursor.shift amount).rest = _ := scanned
    rw [found] at ih
    rw [trailing_of_piece again, if_neg goesOn, Cursor.shift_advance, Cursor.shift_trivia, ih]
    rfl

theorem next_shift (amount file : Nat) (cursor : Cursor) :
    next file (cursor.shift amount) = shiftFound amount (Token.shift amount) (next file cursor) := by
  have led := leading_shift amount file cursor
  cases found : leading file cursor with
  | error fault =>
    rw [found] at led
    simp only [next, led, found, shiftFound]
  | ok result =>
    obtain ⟨trivia, start⟩ := result
    rw [found] at led
    cases scanned : Scan.token start.rest with
    | nothing =>
      rw [next_of_nothing led scanned, next_of_nothing found scanned]
      simp [shiftFound, Token.shift, Span.shift_covering, Cursor.shift]
    | unfinished cause followed =>
      rw [next_of_unfinished led scanned, next_of_unfinished found scanned, Cursor.shift_fault]
      rfl
    | piece kind text rest =>
      rw [next_of_piece led scanned, next_of_piece found scanned, Cursor.shift_advance, trailing_shift]
      cases trailing file (start.advance text rest) with
      | error fault => rfl
      | ok behind => simp [shiftFound, Token.shift, Span.shift_covering, Cursor.shift, Except.map]

def shift (amount : Nat) (lexer : Lexer) : Lexer := { lexer with cursor := lexer.cursor.shift amount }

/-- One pull is the same but for the spans. -/
theorem pull_shift (amount : Nat) (lexer : Lexer) :
    (lexer.shift amount).pull =
      (lexer.pull.1.map fun
        | .error fault => .error (fault.shift amount)
        | .ok token => .ok (token.shift amount), lexer.pull.2.shift amount) := by
  have step := next_shift amount lexer.file lexer.cursor
  by_cases finished : lexer.finished = true
  · simp [pull, shift, finished]
  · cases found : next lexer.file lexer.cursor with
    | error fault =>
      rw [found] at step
      simp [pull, shift, finished, found, step, shiftFound]
    | ok result =>
      rw [found] at step
      simp [pull, shift, finished, found, step, shiftFound, Token.shift]

theorem run_shift (amount : Nat) (lexer : Lexer) :
    (lexer.shift amount).run =
      (lexer.run.1.map (Token.shift amount), lexer.run.2.1.map (Fault.shift amount), lexer.run.2.2.shift amount) := by
  have step := pull_shift amount lexer
  fun_induction run lexer with
  | case1 lexer last pulled =>
    rw [pulled] at step
    exact run_none step
  | case2 lexer fault last pulled =>
    rw [pulled] at step
    exact run_fault step
  | case3 lexer token after pulled more fault last continued ih =>
    rw [pulled] at step
    rw [run_token step, ih (pull_shift amount after), continued]
    rfl

end Lexer

/-- What a run yields behind a token with trivia behind it is a run, too. -/
theorem Lexer.run_behind {lexer last : Lexer} {place : Place} {front back : List Token} {token : Token}
    {fault : Option Fault} (apart : Rule.Apart place.before place.after) (running : lexer.finished = false)
    (located : lexer.cursor = place.cursor) (trailed : token.trailing ≠ [])
    (ran : lexer.run = (front ++ token :: back, fault, last)) :
    ∃ stop : Place, Reads place (front.flatMap Token.pieces ++ token.pieces) stop ∧
      run ⟨stop.cursor, lexer.file, false⟩ = (back, fault, last) := by
  have inside : ∀ other ∈ front, other.kind ≠ .endOfFile := by
    intro other member ended
    obtain ⟨first, rest, rfl⟩ := List.append_of_mem member
    rw [List.append_assoc, List.cons_append] at ran
    simpa using (run_ended ran ended).1
  obtain ⟨middle, reads, remaining⟩ := run_cut apart running located inside ran
  obtain ⟨after, pulled, continued⟩ := pull_of_run remaining
  obtain ⟨next, found, rfl⟩ := pull_token pulled
  obtain ⟨stop, rfl, ⟨within, step⟩ | ⟨_, _, bare, _⟩⟩ := next_reads (reads.apart apart) found
  · rw [decide_eq_false within] at continued
    exact ⟨stop, reads.trans step, continued⟩
  · exact absurd bare trailed

/-- Behind a terminator a line is as fresh as at the start of a source. -/
theorem Text.freshAfter_of_ends {before text : Text} (ends : text.getLast?.any isNewline = true) :
    (before ++ text).freshAfter = true := by
  obtain ⟨c, last, newline⟩ := (Option.any_eq_true ..).mp ends
  apply Rule.freshAfter_iff.mpr
  refine ⟨before ++ text, [], by simp, by simp, ?_⟩
  intro d same
  rw [List.getLast?_append, last] at same
  cases same
  exact newline

theorem Reads.concat {first last : Place} {pieces : List Piece} {piece : Piece}
    (reads : Reads first (pieces ++ [piece]) last) :
    piece.span.stop = last.before.byteSize ∧ ∃ before, last.before = before ++ piece.text := by
  have split : pieces ++ [piece] = pieces ++ piece :: [] := rfl
  have placed := (reads.lawful split).2
  have read := reads.texts.1
  rw [List.flatMap_append, List.flatMap_singleton, ← List.append_assoc] at read
  refine ⟨?_, _, read⟩
  rw [placed, read, byteSize_append _ piece.text]
  rfl

/-- Behind a token whose line ends, the lexer goes on as it would on the rest of the source alone,
with all spans moved by the bytes of what was read. -/
theorem lexing_restarts {source : Text} {file : Nat} {front back : List Token} {token : Token} {fault : Option Fault}
    {last : Lexer} {ending : Trivia} (ran : (Lexer.ofSource source file).run = (front ++ token :: back, fault, last))
    (trailed : token.trailing.getLast? = some ending) (ends : ending.text.getLast?.any isNewline = true) :
    ∃ read rest, source = read ++ rest ∧ read.byteSize = ending.span.stop ∧
      back = (Lexer.ofSource rest file).run.1.map (Token.shift ending.span.stop) ∧
      fault = (Lexer.ofSource rest file).run.2.1.map (Fault.shift ending.span.stop) := by
  obtain ⟨more, same⟩ := List.getLast?_eq_some_iff.mp trailed
  have start : Rule.Apart [] source := by simp [Rule.Apart]
  obtain ⟨stop, reads, remaining⟩ :=
    @Lexer.run_behind _ _ ⟨[], source⟩ _ _ _ _ start rfl rfl (by simp [same]) ran
  have whole : source = stop.before ++ stop.after := by
    obtain ⟨consumed, split⟩ := reads.texts
    exact split.trans (congrArg (· ++ stop.after) consumed.symm)
  have listed : front.flatMap Token.pieces ++ token.pieces =
      (front.flatMap Token.pieces ++ token.leading.map Trivia.piece ++ token.piece :: more.map Trivia.piece) ++
        [ending.piece] := by
    simp [Token.pieces, same]
  rw [listed] at reads
  obtain ⟨stops, before, read⟩ := reads.concat
  have fresh : stop.before.freshAfter = true := by
    rw [read]
    exact Text.freshAfter_of_ends ends
  have moved : Lexer.mk stop.cursor file false = (Lexer.ofSource stop.after file).shift ending.span.stop := by
    change ending.span.stop = _ at stops
    simp [Place.cursor, fresh, stops, Lexer.shift, Cursor.shift, Lexer.ofSource]
  change Lexer.run ⟨stop.cursor, file, false⟩ = _ at remaining
  rw [moved, Lexer.run_shift] at remaining
  obtain ⟨tokens, rest⟩ := Prod.mk.inj remaining
  exact ⟨stop.before, stop.after, whole, stops.symm, tokens.symm, (Prod.mk.inj rest).1.symm⟩

/-- A directive opens the rest, and a string in it is never closed. -/
theorem lexing_restarts_at_directive :
    let source : Text := "é b /*\n*/ \r\n  #if c\nd \"e".toList
    ∃ front token back fault last ending,
      (Lexer.ofSource source 3).run = (front ++ token :: back, some fault, last) ∧
      token.trailing.getLast? = some ending ∧ ending.text.getLast?.any isNewline = true ∧
      back.map Token.text = ["d".toList] ∧ fault.message = "unterminated string literal at 23..25" ∧
      ∃ read rest, source = read ++ rest ∧ read.byteSize = ending.span.stop ∧
        back = (Lexer.ofSource rest 3).run.1.map (Token.shift ending.span.stop) ∧
        some fault = (Lexer.ofSource rest 3).run.2.1.map (Fault.shift ending.span.stop) := by
  intro source
  have texts : (Lexer.ofSource source 3).run.1.map Token.text = ["é".toList, "b".toList, "d".toList] := by
    decide +kernel
  have endings : (Lexer.ofSource source 3).run.1.map (·.trailing.getLast?.map Trivia.text) =
      [some [' '], some [' ', '\r', '\n'], some [' ']] := by
    decide +kernel
  have failed : (Lexer.ofSource source 3).run.2.1.map Fault.message = some "unterminated string literal at 23..25" := by
    decide +kernel
  rcases ran : (Lexer.ofSource source 3).run with ⟨tokens, fault, last⟩
  rw [ran] at texts endings failed
  obtain ⟨fault, rfl, message⟩ := Option.map_eq_some_iff.mp failed
  obtain ⟨first, more, rfl, _, texts⟩ := List.map_eq_cons_iff.mp texts
  obtain ⟨token, back, rfl, _, texts⟩ := List.map_eq_cons_iff.mp texts
  obtain ⟨ending, trailed, text⟩ := Option.map_eq_some_iff.mp (List.cons.inj (List.cons.inj endings).2).1
  have ends : ending.text.getLast?.any isNewline = true := by
    rw [text]
    rfl
  exact ⟨[first], token, back, fault, last, ending, rfl, trailed, ends, texts, message,
    @lexing_restarts _ _ [first] _ _ _ _ _ ran trailed ends⟩

end Literate
