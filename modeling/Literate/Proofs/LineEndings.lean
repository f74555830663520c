import Literate.Proofs.LexerReading
import Literate.Proofs.ScannerLineEndings

/-! Reading a source with another line terminator. The tokens are the same up to their terminators
where no line feed is escaped between quotes. Where one is, a string breaks off and a character
literal falls apart, so that the second reading takes another course; it meets a fault if one comes
on the line of the literal. -/

namespace Literate

open Text

/-- Both are failures, or both are results and these are related. -/
inductive SameOutcome {α β : Type} (related : α → β → Prop) : Except Fault α → Except Fault β → Prop where
  | rejected {first second : Fault} : SameOutcome related (.error first) (.error second)
  | accepted {first : α} {second : β} (similar : related first second) : SameOutcome related (.ok first) (.ok second)

/-- The second is the first with a carriage return in front of every line feed. -/
structure Trivia.InCrlf (trivia other : Trivia) : Prop where
  kind : other.kind = trivia.kind
  text : other.text = trivia.text.crlf

structure Token.InCrlf (token other : Token) : Prop where
  kind : other.kind = token.kind
  text : other.text = token.text.crlf
  leading : List.Forall₂ Trivia.InCrlf token.leading other.leading
  trailing : List.Forall₂ Trivia.InCrlf token.trailing other.trailing

structure Cursor.InCrlf (cursor other : Cursor) : Prop where
  unix : '\r' ∉ cursor.rest
  rest : other.rest = cursor.rest.crlf
  fresh : other.fresh = cursor.fresh

private theorem fresh_crlf (text : Text) (fresh : Bool) :
    text.crlf.foldl (fun fresh c => isNewline c || fresh && isPad c) fresh =
      text.foldl (fun fresh c => isNewline c || fresh && isPad c) fresh := by
  induction text generalizing fresh with
  | nil => rfl
  | cons c text ih =>
    by_cases feed : c = '\n'
    · subst feed
      rw [crlf_lineFeed, List.foldl_cons, List.foldl_cons, List.foldl_cons, ih]
      rfl
    · rw [crlf_cons feed, List.foldl_cons, List.foldl_cons, ih]

theorem Cursor.InCrlf.advance {cursor other : Cursor} {piece rest : Text} (same : cursor.InCrlf other)
    (cut : piece ++ rest = cursor.rest) : (cursor.advance piece rest).InCrlf (other.advance piece.crlf rest.crlf) where
  unix := by
    intro member
    apply same.unix
    rw [← cut]
    exact List.mem_append_right piece member
  rest := rfl
  fresh := by
    rw [Cursor.advance, Cursor.advance, same.fresh]
    exact fresh_crlf piece cursor.fresh

namespace Lexer

variable {file : Nat} {cursor other : Cursor}

/-- Trivia with the same texts but for line ends, up to the same place. -/
private def SameTrivia (found others : List Trivia × Cursor) : Prop :=
  List.Forall₂ Trivia.InCrlf found.1 others.1 ∧ found.2.InCrlf others.2

private theorem SameTrivia.cons {kind : TriviaKind} {text : Text} {first second : Except Fault (List Trivia × Cursor)}
    (same : SameOutcome SameTrivia first second) :
    SameOutcome SameTrivia (first.map fun found => (cursor.trivia kind text :: found.1, found.2))
      (second.map fun found => (other.trivia kind text.crlf :: found.1, found.2)) := by
  cases same with
  | rejected => exact .rejected
  | accepted similar => exact .accepted ⟨.cons ⟨rfl, rfl⟩ similar.1, similar.2⟩

private theorem leading_crlf (file : Nat) (same : cursor.InCrlf other) :
    SameOutcome SameTrivia (leading file cursor) (leading file other) := by
  induction length : cursor.rest.length using Nat.strongRecOn generalizing cursor other with
  | ind bound ih =>
    have scanned : Scan.trivia other.fresh other.rest = (Scan.trivia cursor.fresh cursor.rest).crlf := by
      rw [same.rest, same.fresh, Scan.trivia_crlf same.unix]
    cases found : Scan.trivia cursor.fresh cursor.rest with
    | nothing =>
      rw [found] at scanned
      rw [leading_of_nothing found, leading_of_nothing scanned]
      exact .accepted ⟨.nil, same⟩
    | unfinished cause followed =>
      rw [found] at scanned
      rw [leading_of_unfinished found, leading_of_unfinished scanned]
      exact .rejected
    | piece kind text rest =>
      rw [found] at scanned
      obtain ⟨cut, nonempty⟩ := Scan.trivia_piece found
      have shorter : rest.length < bound := by
        rw [← length, ← cut, List.length_append]
        have positive := List.length_pos_iff.mpr nonempty
        omega
      rw [leading_of_piece found, leading_of_piece scanned]
      exact SameTrivia.cons (ih _ shorter (same.advance cut) rfl)

private theorem trailing_crlf (file : Nat) (same : cursor.InCrlf other) :
    SameOutcome SameTrivia (trailing file cursor) (trailing file other) := by
  induction length : cursor.rest.length using Nat.strongRecOn generalizing cursor other with
  | ind bound ih =>
    have scanned : Scan.trivia false other.rest = (Scan.trivia false cursor.rest).crlf := by
      rw [same.rest, Scan.trivia_crlf same.unix]
    cases found : Scan.trivia false cursor.rest with
    | nothing =>
      rw [found] at scanned
      rw [trailing_of_nothing found, trailing_of_nothing scanned]
      exact .accepted ⟨.nil, same⟩
    | unfinished cause followed =>
      rw [found] at scanned
      rw [trailing_of_unfinished found, trailing_of_unfinished scanned]
      exact .rejected
    | piece kind text rest =>
      rw [found] at scanned
      obtain ⟨cut, nonempty⟩ := Scan.trivia_piece found
      have shorter : rest.length < bound := by
        rw [← length, ← cut, List.length_append]
        have positive := List.length_pos_iff.mpr nonempty
        omega
      rw [trailing_of_piece found, trailing_of_piece scanned, getLast?_crlf]
      split
      · exact .accepted ⟨.cons ⟨rfl, rfl⟩ .nil, same.advance cut⟩
      · exact SameTrivia.cons (ih _ shorter (same.advance cut) rfl)

/-- All tokens that are left, if no fault is met. -/
def outcome (lexer : Lexer) : Except Fault (List Token) :=
  match lexer.run with
  | (tokens, none, _) => .ok tokens
  | (_, some fault, _) => .error fault

theorem tokens_eq_outcome (source : Text) (file : Nat) : tokens source file = (ofSource source file).outcome := rfl

theorem outcome_finished : outcome ⟨cursor, file, true⟩ = .ok [] := by
  rw [outcome, run_finished rfl]

theorem outcome_of_error {fault : Fault} (failed : next file cursor = .error fault) :
    outcome ⟨cursor, file, false⟩ = .error fault := by
  have pulled : pull ⟨cursor, file, false⟩ = (some (.error fault), ⟨cursor, file, true⟩) := by simp [pull, failed]
  rw [outcome, run_fault pulled]

theorem run_of_token {token : Token} {last : Cursor} (found : next file cursor = .ok (token, last)) :
    run ⟨cursor, file, false⟩ =
      (token :: (run ⟨last, file, decide (token.kind = .endOfFile)⟩).1,
        (run ⟨last, file, decide (token.kind = .endOfFile)⟩).2) := by
  apply run_token
  simp [pull, found]

theorem outcome_of_token {token : Token} {last : Cursor} (found : next file cursor = .ok (token, last)) :
    outcome ⟨cursor, file, false⟩ = (outcome ⟨last, file, decide (token.kind = .endOfFile)⟩).map (token :: ·) := by
  rw [outcome, run_of_token found, outcome]
  rcases run ⟨last, file, decide (token.kind = .endOfFile)⟩ with ⟨tokens, _ | fault, final⟩ <;> rfl

/-- What the next token becomes with a carriage return in front of every line feed. -/
inductive NextInCrlf (file : Nat) : (first second : Except Fault (Token × Cursor)) → Prop where
  | failed {fault other} : NextInCrlf file (.error fault) (.error other)
  | token {token other last final} (whole : ¬ token.kind.Continues token.text) (same : token.InCrlf other)
      (behind : last.InCrlf final) : NextInCrlf file (.ok (token, last)) (.ok (other, final))
  /-- A string breaks off, so that there is a fault now. -/
  | broken {token last fault} (long : token.kind.Continues token.text) : NextInCrlf file (.ok (token, last)) (.error fault)
  /-- A quote that opened a literal is punctuation. -/
  | parted {token other last final} (long : token.kind.Continues token.text) (kind : other.kind ≠ token.kind) :
      NextInCrlf file (.ok (token, last)) (.ok (other, final))
  /-- A quote that opened a literal is punctuation, and the fault behind the literal comes later. -/
  | delayed {fault other final} (inside : other.kind ≠ .endOfFile) (fails : ¬ (outcome ⟨final, file, false⟩).isOk) :
      NextInCrlf file (.error fault) (.ok (other, final))

/-- What follows a quote that opens a literal does not end in an unfinished comment on its line. -/
private theorem trailing_of_charLiteral {found : Text × Text} (literal : Scan.charLiteral? ('\x27' :: cursor.rest) = some found) :
    ∃ result, trailing file cursor = .ok result := by
  have quiet {place : Cursor} (nothing : Scan.trivia false place.rest = .nothing) :
      ∃ result, trailing file place = .ok result := ⟨_, trailing_of_nothing nothing⟩
  obtain ⟨text, after⟩ := found
  obtain ⟨equal, ⟨c, rfl, _, _, sameLine⟩ | ⟨c, rfl⟩⟩ := Scan.charLiteral?_eq_some.mp literal
  · have split : cursor.rest = c :: '\x27' :: after := (List.cons.inj equal).2
    by_cases space : isSpace c = true
    · -- A space between the quotes is trivia, and the second quote ends it.
      have scanned : Scan.trivia false cursor.rest = .piece .whitespace [c] ('\x27' :: after) := by
        have horizontal : isHorizontal c = true := by simp [isHorizontal, space, sameLine]
        have quote : isHorizontal '\x27' = false := by decide
        rw [split, Scan.trivia_of_space space]
        simp [Scan.whitespace, horizontal, quote, terminator, isNewline]
      obtain ⟨result, behind⟩ := @quiet (cursor.advance [c] ('\x27' :: after)) rfl
      rw [trailing_of_piece scanned, behind]
      simp [sameLine, Except.map]
    · refine quiet ?_
      rw [split]
      exact Scan.trivia_eq_nothing.mpr ⟨by simpa using space, by simp, by simp⟩
  · refine quiet ?_
    rw [(List.cons.inj equal).2]
    rfl

/-- If the fault behind a quoted line feed is on the line of the literal, it is still there when
the literal has fallen apart. -/
private theorem fails_behind_literal {rest : Text} (split : cursor.rest = '\\' :: '\r' :: '\n' :: '\x27' :: rest)
    (failed : ∀ place : Cursor, place.rest = rest → place.fresh = false → ∃ fault, trailing file place = .error fault) :
    ¬ (outcome ⟨cursor, file, false⟩).isOk := by
  -- The backslash is a token that ends its line, and the second quote is one with the fault behind it.
  let line := cursor.advance ['\\'] ('\r' :: '\n' :: '\x27' :: rest)
  let quote := line.advance ['\r', '\n'] ('\x27' :: rest)
  have backslash : ∃ token, next file cursor = .ok (token, quote) ∧ token.kind = .punctuation := by
    have led : leading file cursor = .ok ([], cursor) := by
      apply leading_of_nothing
      rw [split]
      exact Scan.trivia_eq_nothing.mpr ⟨by decide, by simp, by simp⟩
    have scanned : Scan.token cursor.rest = .piece .punctuation ['\\'] ('\r' :: '\n' :: '\x27' :: rest) := by
      rw [split]
      rfl
    have ending : Scan.trivia false line.rest = .piece .whitespace ['\r', '\n'] ('\x27' :: rest) := rfl
    have trailed : trailing file line = .ok ([line.trivia .whitespace ['\r', '\n']], quote) := by
      rw [trailing_of_piece ending]
      rfl
    rw [next_of_piece led scanned, trailed]
    exact ⟨_, rfl, rfl⟩
  obtain ⟨token, found, kind⟩ := backslash
  rw [outcome_of_token found, kind]
  obtain ⟨fault, failed⟩ := failed (quote.advance ['\x27'] rest) rfl rfl
  have led : leading file quote = .ok ([], quote) := by
    apply leading_of_nothing
    exact Scan.trivia_eq_nothing.mpr ⟨by decide, by simp, by simp⟩
  have scanned : Scan.token quote.rest = .piece .punctuation ['\x27'] rest := by
    have plain : Scan.charLiteral? ('\x27' :: rest) = none := by
      by_contra literal
      obtain ⟨found, literal⟩ := Option.ne_none_iff_exists'.mp literal
      obtain ⟨result, trailed⟩ := @trailing_of_charLiteral file (quote.advance ['\x27'] rest) found literal
      cases failed.symm.trans trailed
    rw [show quote.rest = '\x27' :: rest from rfl, Scan.token_of_plain (by decide) (by simp), plain]
    rfl
  have stuck : next file quote = .error fault := by
    rw [next_of_piece led scanned, failed]
    rfl
  rw [show decide (TokenKind.punctuation = .endOfFile) = false from rfl, outcome_of_error stuck]
  simp [Except.map, Except.isOk, Except.toBool]

/-- All that can become of a token that follows the same trivia. -/
private theorem next_crlf_from {found others : List Trivia} {start place : Cursor}
    (first : leading file cursor = .ok (found, start)) (second : leading file other = .ok (others, place))
    (alike : List.Forall₂ Trivia.InCrlf found others) (same : start.InCrlf place) :
    NextInCrlf file (next file cursor) (next file other) := by
  have sameLine : start.rest.head? ≠ some '\n' := by
    intro feed
    obtain ⟨rest, split⟩ := List.head?_eq_some_iff.mp feed
    have quiet := leading_quiet first
    rw [split, Scan.trivia_of_space (by decide)] at quiet
    cases quiet
  have scanned := Scan.token_crlf same.unix sameLine
  rw [next_of_leading first, next_of_leading second, same.rest]
  generalize one : Scan.token start.rest = firstScan at scanned ⊢
  generalize Scan.token start.rest.crlf = secondScan at scanned ⊢
  cases scanned with
  | nothing =>
    refine .token ?_ ⟨rfl, rfl, alike, .nil⟩ same
    exact fun continues => absurd continues.1 (by simp)
  | unfinished => exact .failed
  | @piece kind text rest whole =>
    dsimp only
    have trailed := trailing_crlf file (same.advance (Scan.token_piece one).1)
    generalize trailing file (start.advance text rest) = behind at trailed ⊢
    generalize trailing file (place.advance text.crlf rest.crlf) = otherBehind at trailed ⊢
    cases trailed with
    | rejected => exact .failed
    | accepted similar => exact .token whole ⟨rfl, rfl, alike, similar.1⟩ similar.2
  | @brokenString text rest cause followed long =>
    dsimp only
    cases trailing file (start.advance text rest) with
    | error fault => exact .failed
    | ok behind => exact .broken long
  | @brokenChar rest =>
    dsimp only
    let literal : Text := ['\x27', '\\', '\n', '\x27']
    have quiet : trailing file (place.advance ['\x27'] ('\\' :: '\r' :: '\n' :: '\x27' :: rest.crlf)) = .ok ([], _) :=
      trailing_of_nothing rfl
    rw [quiet]
    cases trailed : trailing file (start.advance literal rest) with
    | ok behind => exact .parted ⟨.inr rfl, by simp, by simp⟩ (by simp)
    | error fault =>
      refine .delayed (by simp) (fails_behind_literal rfl ?_)
      intro behind spelled fresh
      have here := same.advance (Scan.token_piece one).1
      have later : (start.advance literal rest).InCrlf behind := ⟨here.unix, spelled, fresh⟩
      have again := trailing_crlf file later
      rw [trailed] at again
      generalize trailing file behind = result at again ⊢
      cases again with
      | rejected => exact ⟨_, rfl⟩

theorem next_crlf (same : cursor.InCrlf other) : NextInCrlf file (next file cursor) (next file other) := by
  have led := leading_crlf file same
  rcases first : leading file cursor with fault | ⟨found, start⟩
  all_goals
    rcases second : leading file other with otherFault | ⟨others, place⟩
    all_goals rw [first, second] at led
  · have one : next file cursor = .error fault := by simp only [next, first]
    have two : next file other = .error otherFault := by simp only [next, second]
    rw [one, two]
    exact .failed
  · cases led
  · cases led
  · cases led with
    | accepted similar => exact next_crlf_from first second similar.1 similar.2

private theorem SameOutcome.cons {token other : Token} (same : token.InCrlf other)
    {first second : Except Fault (List Token)} (rest : SameOutcome (List.Forall₂ Token.InCrlf) first second) :
    SameOutcome (List.Forall₂ Token.InCrlf) (first.map (token :: ·)) (second.map (other :: ·)) := by
  cases rest with
  | rejected => exact .rejected
  | accepted similar => exact .accepted (.cons same similar)

theorem outcome_crlf (same : cursor.InCrlf other)
    (whole : ∀ token ∈ (run ⟨cursor, file, false⟩).1, ¬ token.kind.Continues token.text) :
    SameOutcome (List.Forall₂ Token.InCrlf) (outcome ⟨cursor, file, false⟩) (outcome ⟨other, file, false⟩) := by
  induction length : cursor.rest.length using Nat.strongRecOn generalizing cursor other with
  | ind bound ih =>
    have step := @next_crlf file _ _ same
    generalize first : next file cursor = one at step
    generalize second : next file other = two at step
    cases step with
    | failed =>
      rw [outcome_of_error first, outcome_of_error second]
      exact .rejected
    | @token token copy last final _ alike behind =>
      rw [run_of_token first] at whole
      rw [outcome_of_token first, outcome_of_token second, alike.kind]
      refine SameOutcome.cons alike ?_
      by_cases ended : token.kind = .endOfFile
      · rw [decide_eq_true ended, outcome_finished, outcome_finished]
        exact .accepted .nil
      · rw [decide_eq_false ended] at whole ⊢
        have shorter := next_length first ended
        exact ih _ (length ▸ shorter) behind (fun token member => whole token (.tail _ member)) rfl
    | broken long =>
      rw [run_of_token first] at whole
      exact absurd long (whole _ (.head _))
    | parted long =>
      rw [run_of_token first] at whole
      exact absurd long (whole _ (.head _))
    | @delayed fault copy final inside fails =>
      rw [outcome_of_error first, outcome_of_token second, decide_eq_false inside]
      cases later : outcome ⟨final, file, false⟩ with
      | error => exact .rejected
      | ok =>
        rw [later] at fails
        exact absurd rfl fails

theorem outcome_ok_of_token {token : Token} {last : Cursor} {tokens : List Token}
    (found : next file cursor = .ok (token, last)) (accepted : outcome ⟨cursor, file, false⟩ = .ok tokens) :
    ∃ more, tokens = token :: more ∧ outcome ⟨last, file, decide (token.kind = .endOfFile)⟩ = .ok more := by
  rw [outcome_of_token found] at accepted
  cases later : outcome ⟨last, file, decide (token.kind = .endOfFile)⟩ with
  | error fault =>
    rw [later] at accepted
    cases accepted
  | ok more =>
    rw [later] at accepted
    cases accepted
    exact ⟨more, rfl, rfl⟩

theorem whole_of_outcome_crlf {tokens others : List Token} (same : cursor.InCrlf other)
    (accepted : outcome ⟨cursor, file, false⟩ = .ok tokens) (again : outcome ⟨other, file, false⟩ = .ok others)
    (alike : List.Forall₂ Token.InCrlf tokens others) : ∀ token ∈ tokens, ¬ token.kind.Continues token.text := by
  induction length : cursor.rest.length using Nat.strongRecOn generalizing cursor other tokens others with
  | ind bound ih =>
    have step := @next_crlf file _ _ same
    generalize first : next file cursor = one at step
    generalize second : next file other = two at step
    cases step with
    | failed => cases (outcome_of_error first).symm.trans accepted
    | delayed => cases (outcome_of_error first).symm.trans accepted
    | broken => cases (outcome_of_error second).symm.trans again
    | parted _ kind =>
      obtain ⟨more, rfl, _⟩ := outcome_ok_of_token first accepted
      obtain ⟨rest, rfl, _⟩ := outcome_ok_of_token second again
      cases alike with
      | cons head _ => exact absurd head.kind kind
    | @token token copy last final whole equal behind =>
      obtain ⟨more, rfl, later⟩ := outcome_ok_of_token first accepted
      obtain ⟨rest, rfl, laterAgain⟩ := outcome_ok_of_token second again
      rw [equal.kind] at laterAgain
      cases alike with
      | cons _ alike =>
        refine List.forall_mem_cons.mpr ⟨whole, ?_⟩
        by_cases ended : token.kind = .endOfFile
        · rw [decide_eq_true ended, outcome_finished] at later
          cases later
          exact List.forall_mem_nil _
        · rw [decide_eq_false ended] at later laterAgain
          have shorter := next_length first ended
          exact ih _ (length ▸ shorter) behind later laterAgain alike rfl

end Lexer

/-- With a carriage return in front of every line feed a source has the same tokens, unless a line
feed stands between quotes. A source that is accepted has the same tokens in no other case. Of a
source that is rejected behind such a line feed nothing is said: it may be accepted or not. -/
theorem tokens_crlf_iff {source : Text} (unix : '\r' ∉ source) (file : Nat) :
    ((∀ token ∈ (Lexer.ofSource source file).run.1, ¬ token.kind.Continues token.text) →
      SameOutcome (List.Forall₂ Token.InCrlf) (Lexer.tokens source file) (Lexer.tokens source.crlf file)) ∧
    ∀ tokens, Lexer.tokens source file = .ok tokens →
      SameOutcome (List.Forall₂ Token.InCrlf) (Lexer.tokens source file) (Lexer.tokens source.crlf file) →
      ∀ token ∈ tokens, ¬ token.kind.Continues token.text := by
  have same : Cursor.InCrlf { rest := source } { rest := source.crlf } := ⟨unix, rfl, rfl⟩
  rw [Lexer.tokens_eq_outcome, Lexer.tokens_eq_outcome]
  refine ⟨Lexer.outcome_crlf same, ?_⟩
  intro tokens accepted alike
  generalize again : (Lexer.ofSource source.crlf file).outcome = second at alike
  rw [accepted] at alike
  cases alike with
  | accepted similar => exact Lexer.whole_of_outcome_crlf same accepted again similar

/-- Line feeds in every place but behind a backslash between quotes. -/
theorem tokens_crlf_everywhere :
    let source : Text := "#if a\n/* b\n */ @\"c\n\" // d\n 'x' +\n\"e\\\"\" '".toList
    '\r' ∉ source ∧ (∀ token ∈ (Lexer.ofSource source 0).run.1, ¬ token.kind.Continues token.text) ∧
      (Lexer.tokens source 0).isOk ∧
      SameOutcome (List.Forall₂ Token.InCrlf) (Lexer.tokens source 0) (Lexer.tokens source.crlf 0) := by
  intro source
  have unix : '\r' ∉ source := by decide +kernel
  have whole : ∀ token ∈ (Lexer.ofSource source 0).run.1, ¬ token.kind.Continues token.text := by decide +kernel
  exact ⟨unix, whole, by decide +kernel, (tokens_crlf_iff unix 0).1 whole⟩

/-- The carriage return is escaped in place of the line feed, which then ends the line. -/
theorem escaped_line_feed_in_crlf :
    let source : Text := "\"a\\\nb\"".toList
    '\r' ∉ source ∧ (Lexer.tokens source 0).isOk = true ∧ (Lexer.tokens source.crlf 0).isOk = false ∧
      ¬ SameOutcome (List.Forall₂ Token.InCrlf) (Lexer.tokens source 0) (Lexer.tokens source.crlf 0) := by
  intro source
  have accepted : (Lexer.tokens source 0).isOk = true := by decide +kernel
  have rejected : (Lexer.tokens source.crlf 0).isOk = false := by decide +kernel
  refine ⟨by decide +kernel, accepted, rejected, ?_⟩
  intro same
  generalize Lexer.tokens source 0 = first at same accepted
  generalize Lexer.tokens source.crlf 0 = second at same rejected
  cases same with
  | rejected => cases accepted
  | accepted => cases rejected

/-- Here the first two quotes are punctuation with a carriage return between them, and the last three are
a character literal, so that the string is no longer open. -/
example :
    let source : Text := "'\\\n'\"'".toList
    (Lexer.tokens source 0).isOk = false ∧ (Lexer.tokens source.crlf 0).isOk = true := by decide +kernel

end Literate
