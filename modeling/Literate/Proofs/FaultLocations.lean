import Literate.Proofs.LexerLossless

/-! Where the lexer gives up. A comment or literal that is never closed has a rule of its own,
and the fault names exactly the text that obeys it; the tokens returned before it are the
beginning of the source. -/

namespace Literate

open Text

namespace Rule

def OpenComment (text after : Text) : Prop :=
  (∃ interior, text = '/' :: '*' :: interior ∧ ¬ ['*', '/'] <:+: interior) ∧ after = []

def OpenVerbatimString (text after : Text) : Prop :=
  (∃ interior, text = '@' :: '"' :: interior ∧ Doubled interior) ∧ after = []

/-- What follows an opening quote up to the end of the line or of the source, without an unescaped
quote. At the end of the source a backslash may have nothing to escape. -/
def OpenInterior (text after : Text) : Prop :=
  (Escaped text ∧ ∀ c ∈ after.head?, isNewline c = true) ∨
  (∃ interior, text = interior ++ ['\\'] ∧ Escaped interior) ∧ after = []

def OpenString (text after : Text) : Prop := ∃ interior, text = '"' :: interior ∧ OpenInterior interior after

end Rule

/-- The rule for the text that a fault of lexing is about, given the text behind it. -/
def Cause.Lawful : Cause → (text after : Text) → Prop
  | .openComment, text, after => Rule.OpenComment text after
  | .openString, text, after => Rule.OpenString text after
  | .openVerbatimString, text, after => Rule.OpenVerbatimString text after
  | .malformedComment, _, _ => False

theorem Cause.ne_nil_of_lawful {cause : Cause} {text after : Text} (lawful : cause.Lawful text after) : text ≠ [] := by
  cases cause with
  | openComment | openVerbatimString =>
    obtain ⟨⟨interior, rfl, _⟩, _⟩ := lawful
    simp
  | openString =>
    obtain ⟨interior, rfl, _⟩ := lawful
    simp
  | malformedComment => exact lawful.elim

namespace Rule.OpenInterior

variable {text after : Text}

theorem plain {c : Char} (notEscape : c ≠ '\\') (notQuote : c ≠ '"') (sameLine : isNewline c = false)
    (more : OpenInterior text after) : OpenInterior (c :: text) after := by
  rcases more with ⟨escaped, lineEnd⟩ | ⟨⟨interior, rfl, escaped⟩, ended⟩
  · exact .inl ⟨.plain notEscape notQuote sameLine escaped, lineEnd⟩
  · exact .inr ⟨⟨c :: interior, rfl, .plain notEscape notQuote sameLine escaped⟩, ended⟩

theorem escape (c : Char) (more : OpenInterior text after) : OpenInterior ('\\' :: c :: text) after := by
  rcases more with ⟨escaped, lineEnd⟩ | ⟨⟨interior, rfl, escaped⟩, ended⟩
  · exact .inl ⟨.escape c escaped, lineEnd⟩
  · exact .inr ⟨⟨'\\' :: c :: interior, rfl, .escape c escaped⟩, ended⟩

end Rule.OpenInterior

namespace Scan

open Rule

theorem Body.extend_eq_error {scanned followed : Text} {body : Body} :
    body.extend scanned = .error followed ↔ ∃ inner, body = .error inner ∧ followed = scanned ++ inner := by
  cases body with
  | error inner => simp [extend, eq_comm]
  | ok result => simp [extend]

theorem commentBody_open {source followed : Text} (failed : commentBody source = .error followed) :
    followed = source ∧ ¬ ['*', '/'] <:+: source := by
  fun_induction commentBody source generalizing followed with
  | case1 => cases failed
  | case2 c rest notClosed ih =>
    obtain ⟨inner, stopped, rfl⟩ := Body.extend_eq_error.mp failed
    obtain ⟨rfl, clear⟩ := ih stopped
    refine ⟨rfl, ?_⟩
    intro inside
    rcases List.infix_cons_iff.mp inside with start | later
    · obtain ⟨first, start⟩ := List.cons_prefix_cons.mp start
      obtain ⟨behind, rfl⟩ := start
      exact notClosed behind first.symm rfl
    · exact clear later
  | case3 =>
    cases failed
    simp

theorem verbatimBody_open {source followed : Text} (failed : verbatimBody source = .error followed) :
    followed = source ∧ Doubled source := by
  fun_induction verbatimBody source generalizing followed with
  | case1 =>
    cases failed
    exact ⟨rfl, .nil⟩
  | case2 rest ih =>
    obtain ⟨inner, stopped, rfl⟩ := Body.extend_eq_error.mp failed
    obtain ⟨rfl, doubled⟩ := ih stopped
    exact ⟨rfl, .pair doubled⟩
  | case3 => cases failed
  | case4 c rest _ notQuote ih =>
    obtain ⟨inner, stopped, rfl⟩ := Body.extend_eq_error.mp failed
    obtain ⟨rfl, doubled⟩ := ih stopped
    exact ⟨rfl, .plain notQuote doubled⟩

theorem stringBody_open {source followed : Text} (failed : stringBody source = .error followed) :
    ∃ after, source = followed ++ after ∧ OpenInterior followed after := by
  fun_induction stringBody source generalizing followed with
  | case1 =>
    cases failed
    exact ⟨[], rfl, .inl ⟨.nil, by simp⟩⟩
  | case2 =>
    cases failed
    exact ⟨[], rfl, .inr ⟨⟨[], rfl, .nil⟩, rfl⟩⟩
  | case3 c rest ih =>
    obtain ⟨inner, stopped, rfl⟩ := Body.extend_eq_error.mp failed
    obtain ⟨after, rfl, opened⟩ := ih stopped
    exact ⟨after, rfl, opened.escape c⟩
  | case4 c rest _ _ newline =>
    cases failed
    exact ⟨c :: rest, rfl, .inl ⟨.nil, by simpa using newline⟩⟩
  | case5 => cases failed
  | case6 c rest lone notEscape sameLine notQuote ih =>
    obtain ⟨inner, stopped, rfl⟩ := Body.extend_eq_error.mp failed
    have different : c ≠ '\\' := by
      intro same
      cases rest with
      | nil => exact lone same rfl
      | cons next rest => exact notEscape next rest same rfl
    obtain ⟨after, rfl, opened⟩ := ih stopped
    exact ⟨after, rfl, opened.plain different notQuote (by simpa using sameLine)⟩

theorem ofBody_unfinished {kind : κ} {opening followed : Text} {cause found : Cause} {body : Body}
    (scanned : ofBody kind opening cause body = .unfinished found followed) :
    found = cause ∧ ∃ inner, body = .error inner ∧ followed = opening ++ inner := by
  cases body with
  | ok => cases scanned
  | error inner =>
    obtain ⟨rfl, rfl⟩ := Scan.unfinished.inj scanned
    exact ⟨rfl, inner, rfl, rfl⟩

theorem trivia_unfinished {directives : Bool} {source followed : Text} {cause : Cause}
    (scanned : trivia directives source = .unfinished cause followed) :
    ∃ after, source = followed ++ after ∧ cause.Lawful followed after := by
  unfold trivia at scanned
  split at scanned
  · cases scanned
  · cases scanned
  next body =>
    obtain ⟨rfl, inner, failed, rfl⟩ := ofBody_unfinished scanned
    obtain ⟨rfl, clear⟩ := commentBody_open failed
    exact ⟨[], by simp, ⟨inner, rfl, clear⟩, rfl⟩
  · split at scanned <;> cases scanned
  · split at scanned <;> cases scanned

theorem token_unfinished {source followed : Text} {cause : Cause}
    (scanned : token source = .unfinished cause followed) :
    ∃ after, source = followed ++ after ∧ cause.Lawful followed after := by
  unfold token at scanned
  split at scanned
  · cases scanned
  next body =>
    obtain ⟨rfl, inner, failed, rfl⟩ := ofBody_unfinished scanned
    obtain ⟨after, rfl, opened⟩ := stringBody_open failed
    exact ⟨after, rfl, inner, rfl, opened⟩
  next body =>
    obtain ⟨rfl, inner, failed, rfl⟩ := ofBody_unfinished scanned
    obtain ⟨rfl, doubled⟩ := verbatimBody_open failed
    exact ⟨[], by simp, ⟨inner, rfl, doubled⟩, rfl⟩
  · split at scanned
    · cases scanned
    · split at scanned <;> cases scanned

theorem first_unfinished {fresh : Bool} {source followed : Text} {cause : Cause}
    (scanned : first fresh source = .unfinished cause followed) :
    ∃ after, source = followed ++ after ∧ cause.Lawful followed after := by
  unfold first at scanned
  split at scanned
  · cases scanned
  next found =>
    obtain ⟨rfl, rfl⟩ := Scan.unfinished.inj scanned
    exact trivia_unfinished found
  · split at scanned
    · cases scanned
    next found =>
      obtain ⟨rfl, rfl⟩ := Scan.unfinished.inj scanned
      exact token_unfinished found
    · cases scanned

end Scan

/-- The tokens are the beginning of the source, and the fault is about a text behind them that is
opened and never closed. -/
structure Fault.Located (fault : Fault) (source : Text) (file : Nat) (tokens : List Token) : Prop where
  tiled : ∃ read, Span.Consecutive 0 ((tokens.flatMap Token.pieces).map Piece.span) read ∧ read ≤ fault.span.start
  sliced : ∀ piece ∈ tokens.flatMap Token.pieces, piece.SliceOf source
  nonempty : fault.span.start < fault.span.stop
  inside : fault.span.stop ≤ (String.ofList source).utf8ByteSize
  start : String.Pos.Raw.IsValid (String.ofList source) ⟨fault.span.start⟩
  stop : String.Pos.Raw.IsValid (String.ofList source) ⟨fault.span.stop⟩
  attributed : fault.file = file
  cause : ∃ (cause : Cause) (before text after : Text), source = before ++ text ++ after ∧ cause.Lawful text after ∧
    fault = cause.fault (.covering before.byteSize text) file

theorem Text.byteSize_pos {text : Text} (nonempty : text ≠ []) : 0 < text.byteSize := by
  obtain ⟨c, rest, rfl⟩ := List.exists_cons_of_ne_nil nonempty
  have positive := Char.utf8Size_pos c
  rw [byteSize_cons]
  omega

/-- A fault is at the place where the lexer is stuck, behind all that was read. -/
theorem Reads.located {source : Text} {file : Nat} {tokens : List Token} {fault : Fault} {middle : Place}
    (reads : Reads ⟨[], source⟩ (tokens.flatMap Token.pieces) middle) (stuck : Stuck middle file fault) :
    fault.Located source file tokens := by
  obtain ⟨pieces, stop, cause, text, more, unfinished, rfl⟩ := stuck
  obtain ⟨after, behind, lawful⟩ := Scan.first_unfinished unfinished
  have split : source = stop.before ++ text ++ after := by
    obtain ⟨read, whole⟩ := (reads.trans more).texts
    change source = _ at whole
    change stop.before = [] ++ _ at read
    rw [whole, behind, read, List.nil_append, List.append_assoc]
  have piece := Piece.sliceOf_covering (.token .punctuation) stop.before text after
  rw [← split] at piece
  rw [Cursor.fault, Cause.fault_eq]
  refine ⟨⟨_, reads.consecutive, ?_⟩, reads.slices, ?_, ?_, piece.start, piece.stop, rfl, ?_⟩
  · change middle.before.byteSize ≤ stop.before.byteSize
    rw [more.texts.1, byteSize_append]
    exact Nat.le_add_right _ _
  · exact Nat.lt_add_of_pos_right (byteSize_pos (Cause.ne_nil_of_lawful lawful))
  · change stop.before.byteSize + text.byteSize ≤ _
    rw [← byteSize_eq, split, byteSize_append, byteSize_append]
    exact Nat.le_add_right _ _
  · exact ⟨cause, stop.before, text, after, split, lawful, (Cause.fault_eq _ _ _).symm⟩

/-- A fault tells where the source breaks off and why, and the lexer returns nothing after it. -/
theorem fault_located {source : Text} {file : Nat} {tokens : List Token} {fault : Fault} {last : Lexer}
    (ran : (Lexer.ofSource source file).run = (tokens, some fault, last)) :
    fault.Located source file tokens ∧ last.pull = (none, last) := by
  have finished : last.finished = true := by
    have ended := (Lexer.ofSource source file).run_finishes
    rwa [ran] at ended
  obtain ⟨middle, reads, stuck⟩ := @Lexer.run_stuck _ _ ⟨[], source⟩ _ _ (by simp [Rule.Apart]) rfl rfl ran
  exact ⟨reads.located stuck, by simp [Lexer.pull, finished]⟩

/-- The sign in front of the comment is read, but its token is never returned. -/
theorem fault_located_behind_dropped_token :
    let source : Text := "é;\n\"\\\"\" + /* *".toList
    ∃ tokens fault last, (Lexer.ofSource source 7).run = (tokens, some fault, last) ∧
      tokens.map Token.text = ["é".toList, ";".toList, "\"\\\"\"".toList] ∧
      fault.message = "unterminated block comment at 11..15" ∧
      fault.Located source 7 tokens ∧ last.pull = (none, last) := by
  intro source
  have texts : (Lexer.ofSource source 7).run.1.map Token.text = ["é".toList, ";".toList, "\"\\\"\"".toList] := by
    decide +kernel
  have failed : (Lexer.ofSource source 7).run.2.1.map Fault.message = some "unterminated block comment at 11..15" := by
    decide +kernel
  rcases ran : (Lexer.ofSource source 7).run with ⟨tokens, fault, last⟩
  rw [ran] at texts failed
  obtain ⟨fault, rfl, message⟩ := Option.map_eq_some_iff.mp failed
  exact ⟨tokens, fault, last, rfl, texts, message, fault_located ran⟩

end Literate
