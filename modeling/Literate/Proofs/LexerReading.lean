import Literate.Proofs.ScannerRules
import Literate.Token.Lexer

/-! The lexer reads a source piece by piece. A reading is a path of lawful pieces
from one place in a source to another; what the lexer returns, tokens or a fault,
is such a path from the start, and a source has only one. -/

namespace Literate

open Text

/-- A piece of a source with its place. -/
structure Piece where
  kind : PieceKind
  text : Text
  span : Span
deriving DecidableEq

/-- The empty piece at the end of a source. -/
def Piece.ending (offset : Nat) : Piece := ⟨.token .endOfFile, [], .covering offset []⟩

def Trivia.piece (trivia : Trivia) : Piece := ⟨.trivia trivia.kind, trivia.text, trivia.span⟩

def Token.piece (token : Token) : Piece := ⟨.token token.kind, token.text, token.span⟩

/-- The leading trivia of a token, the token itself, and its trailing trivia. -/
def Token.pieces (token : Token) : List Piece :=
  token.leading.map Trivia.piece ++ token.piece :: token.trailing.map Trivia.piece

/-- A cut through a source. -/
structure Place where
  before : Text
  after : Text

def Place.cursor (place : Place) : Cursor where
  rest := place.after
  offset := place.before.byteSize
  fresh := place.before.freshAfter

/-- Each piece obeys its rule between all the text before it and all the text after it. -/
inductive Reads : Place → List Piece → Place → Prop where
  | done {place} : Reads place [] place
  | piece {before text after kind pieces last} (lawful : PieceKind.Lawful kind before text after)
      (more : Reads ⟨before ++ text, after⟩ pieces last) :
      Reads ⟨before, text ++ after⟩ (⟨kind, text, .covering before.byteSize text⟩ :: pieces) last

theorem Reads.trans {first middle last : Place} {front back : List Piece} (reads : Reads first front middle)
    (more : Reads middle back last) : Reads first (front ++ back) last := by
  induction reads with
  | done => exact more
  | piece lawful _ ih => exact .piece lawful (ih more)

theorem Reads.texts {first last : Place} {pieces : List Piece} (reads : Reads first pieces last) :
    last.before = first.before ++ pieces.flatMap Piece.text ∧
    first.after = pieces.flatMap Piece.text ++ last.after := by
  induction reads with
  | done => simp
  | piece lawful _ ih =>
    obtain ⟨before, after⟩ := ih
    simp_all

theorem Reads.inside {first last : Place} {pieces : List Piece} (reads : Reads first pieces last) :
    ∀ piece ∈ pieces, piece.text ≠ [] ∧ piece.kind ≠ .token .endOfFile := by
  induction reads with
  | done => simp
  | @piece before text after kind pieces last lawful _ ih =>
    intro piece member
    rcases List.mem_cons.mp member with same | member
    · subst same
      refine ⟨Rule.ne_nil_of_lawful lawful, ?_⟩
      intro ended
      change kind = _ at ended
      subst ended
      exact lawful
    · exact ih piece member

theorem Reads.apart {first last : Place} {pieces : List Piece} (reads : Reads first pieces last)
    (apart : Rule.Apart first.before first.after) : Rule.Apart last.before last.after := by
  induction reads with
  | done => exact apart
  | piece lawful _ ih => exact ih (Rule.apart_of_lawful lawful)

/-- A piece anywhere in a reading obeys its rule there. -/
theorem Reads.lawful {first last : Place} {pieces front back : List Piece} {piece : Piece}
    (reads : Reads first pieces last) (split : pieces = front ++ piece :: back) :
    piece.kind.Lawful (first.before ++ front.flatMap Piece.text) piece.text (back.flatMap Piece.text ++ last.after) ∧
    piece.span = .covering (first.before ++ front.flatMap Piece.text).byteSize piece.text := by
  induction reads generalizing front with
  | done => simp at split
  | @piece before text after kind pieces last lawful more ih =>
    cases front with
    | nil =>
      rw [List.nil_append] at split
      obtain ⟨rfl, rfl⟩ := List.cons.inj split
      rw [List.flatMap_nil, List.append_nil, ← more.texts.2]
      exact ⟨lawful, rfl⟩
    | cons other front =>
      rw [List.cons_append] at split
      obtain ⟨rfl, later⟩ := List.cons.inj split
      simpa only [List.flatMap_cons, List.append_assoc] using ih later

theorem Place.cursor_advance (before text after : Text) :
    (Place.mk before (text ++ after)).cursor.advance text after = (Place.mk (before ++ text) after).cursor := by
  simp [Place.cursor, Cursor.advance, freshAfter, List.foldl_append]

/-- Reading stops short: a piece is opened at some place and never closed. -/
def Stuck (place : Place) (file : Nat) (fault : Fault) : Prop :=
  ∃ pieces stop cause followed, Reads place pieces stop ∧
    Scan.first stop.before.freshAfter stop.after = .unfinished cause followed ∧
    fault = stop.cursor.fault cause followed file

theorem Reads.stuck {first middle : Place} {pieces : List Piece} {file : Nat} {fault : Fault}
    (reads : Reads first pieces middle) (stuck : Stuck middle file fault) : Stuck first file fault := by
  obtain ⟨more, stop, cause, followed, reading, unfinished, located⟩ := stuck
  exact ⟨pieces ++ more, stop, cause, followed, reads.trans reading, unfinished, located⟩

private theorem Reads.cases {place last : Place} {pieces : List Piece} (reads : Reads place pieces last) :
    (pieces = [] ∧ last = place) ∨
    ∃ kind text after more, place.after = text ++ after ∧ PieceKind.Lawful kind place.before text after ∧
      pieces = ⟨kind, text, .covering place.before.byteSize text⟩ :: more ∧
      Reads ⟨place.before ++ text, after⟩ more last := by
  cases reads with
  | done => exact .inl ⟨rfl, rfl⟩
  | piece lawful more => exact .inr ⟨_, _, _, _, rfl, lawful, rfl, more⟩

private theorem Reads.scanned {place last : Place} {pieces : List Piece} (reads : Reads place pieces last)
    (apart : Rule.Apart place.before place.after) (ended : last.after = []) (unread : place.after ≠ []) :
    ∃ kind text after more, Scan.first place.before.freshAfter place.after = .piece kind text after ∧
      pieces = ⟨kind, text, .covering place.before.byteSize text⟩ :: more ∧
      Reads ⟨place.before ++ text, after⟩ more last := by
  rcases reads.cases with ⟨_, same⟩ | ⟨kind, text, after, more, split, lawful, equal, rest⟩
  · subst same
    exact absurd ended unread
  · exact ⟨kind, text, after, more, (Scan.first_eq_piece apart).mpr ⟨split, lawful⟩, equal, rest⟩

/-- Every reading is the beginning of one that reaches the end, if there is one: the
rules leave no choice at any place. -/
theorem Reads.unique {first middle last : Place} {front pieces : List Piece} (reads : Reads first front middle)
    (apart : Rule.Apart first.before first.after) (whole : Reads first pieces last) (ended : last.after = []) :
    ∃ back, pieces = front ++ back ∧ Reads middle back last := by
  induction reads generalizing pieces with
  | done => exact ⟨pieces, rfl, whole⟩
  | @piece before text after kind front middle lawful _ ih =>
    have scanned := (Scan.first_eq_piece apart).mpr ⟨rfl, lawful⟩
    have unread : text ++ after ≠ [] := List.append_ne_nil_of_left_ne_nil (Rule.ne_nil_of_lawful lawful) after
    obtain ⟨_, _, _, more, found, rfl, rest⟩ := whole.scanned apart ended unread
    obtain ⟨rfl, rfl, rfl⟩ := Scan.piece.inj (scanned.symm.trans found)
    obtain ⟨back, rfl, remaining⟩ := ih (Rule.apart_of_lawful lawful) rest
    exact ⟨back, rfl, remaining⟩

theorem Reads.eq_of_ended {first last stop : Place} {pieces others : List Piece} (reads : Reads first pieces last)
    (other : Reads first others stop) (apart : Rule.Apart first.before first.after) (ended : last.after = [])
    (stopped : stop.after = []) : pieces = others := by
  obtain ⟨back, equal, remaining⟩ := other.unique apart reads ended
  cases back with
  | nil => simpa using equal
  | cons piece back =>
    have empty := remaining.texts.2
    rw [stopped, List.flatMap_cons] at empty
    have nonempty := (remaining.inside piece (by simp)).1
    simp [nonempty] at empty

theorem Reads.not_stuck {first last : Place} {pieces : List Piece} {file : Nat} {fault : Fault}
    (whole : Reads first pieces last) (apart : Rule.Apart first.before first.after) (ended : last.after = []) :
    ¬ Stuck first file fault := by
  intro stuck
  obtain ⟨front, stop, cause, followed, reads, unfinished, _⟩ := stuck
  obtain ⟨back, _, remaining⟩ := reads.unique apart whole ended
  by_cases finished : stop.after = []
  · rw [finished] at unfinished
    cases unfinished
  · obtain ⟨_, _, _, _, scanned, _⟩ := remaining.scanned (reads.apart apart) ended finished
    rw [unfinished] at scanned
    cases scanned

namespace Lexer

section

variable {file : Nat} {cursor : Cursor}

theorem leading_of_nothing (quiet : Scan.trivia cursor.fresh cursor.rest = .nothing) :
    leading file cursor = .ok ([], cursor) := by
  rw [leading]
  split <;> simp_all

theorem leading_of_unfinished {cause : Cause} {followed : Text}
    (unfinished : Scan.trivia cursor.fresh cursor.rest = .unfinished cause followed) :
    leading file cursor = .error (cursor.fault cause followed file) := by
  rw [leading]
  split <;> simp_all

theorem leading_of_piece {kind : TriviaKind} {text rest : Text}
    (scanned : Scan.trivia cursor.fresh cursor.rest = .piece kind text rest) :
    leading file cursor = (leading file (cursor.advance text rest)).map fun found =>
      (cursor.trivia kind text :: found.1, found.2) := by
  rw [leading]
  split <;> simp_all
  cases leading file (cursor.advance text rest) <;> rfl

theorem trailing_of_nothing (quiet : Scan.trivia false cursor.rest = .nothing) :
    trailing file cursor = .ok ([], cursor) := by
  rw [trailing]
  split <;> simp_all

theorem trailing_of_unfinished {cause : Cause} {followed : Text}
    (unfinished : Scan.trivia false cursor.rest = .unfinished cause followed) :
    trailing file cursor = .error (cursor.fault cause followed file) := by
  rw [trailing]
  split <;> simp_all

theorem trailing_of_piece {kind : TriviaKind} {text rest : Text}
    (scanned : Scan.trivia false cursor.rest = .piece kind text rest) :
    trailing file cursor =
      if text.getLast?.any isNewline then .ok ([cursor.trivia kind text], cursor.advance text rest)
      else (trailing file (cursor.advance text rest)).map fun found => (cursor.trivia kind text :: found.1, found.2) := by
  rw [trailing]
  split <;> simp_all
  split
  · rfl
  · cases trailing file (cursor.advance text rest) <;> rfl

theorem leading_quiet {found : List Trivia} {last : Cursor} (led : leading file cursor = .ok (found, last)) :
    Scan.trivia last.fresh last.rest = .nothing := by
  fun_induction leading file cursor generalizing found with
  | case1 cursor quiet =>
    cases led
    exact quiet
  | case2 => cases led
  | case3 => simp_all
  | case4 cursor kind text rest scanned more after continued ih =>
    cases led
    exact ih continued

section

variable {found : List Trivia} {start : Cursor} {kind : TokenKind} {text rest : Text}

/-- What follows the leading trivia decides on the next token. -/
theorem next_of_leading (led : leading file cursor = .ok (found, start)) :
    next file cursor =
      match Scan.token start.rest with
      | .nothing => .ok ({ kind := .endOfFile, text := [], span := .covering start.offset [], leading := found }, start)
      | .unfinished cause followed => .error (start.fault cause followed file)
      | .piece kind text rest => (trailing file (start.advance text rest)).map fun behind =>
          ({ kind, text, span := .covering start.offset text, leading := found, trailing := behind.1 }, behind.2) := by
  simp only [next, led]
  cases Scan.token start.rest with
  | nothing => rfl
  | unfinished cause followed => rfl
  | piece kind text rest =>
    dsimp only
    cases trailing file (start.advance text rest) <;> rfl

theorem next_of_nothing (led : leading file cursor = .ok (found, start)) (quiet : Scan.token start.rest = .nothing) :
    next file cursor =
      .ok ({ kind := .endOfFile, text := [], span := .covering start.offset [], leading := found }, start) := by
  rw [next_of_leading led, quiet]

theorem next_of_unfinished {cause : Cause} {followed : Text} (led : leading file cursor = .ok (found, start))
    (unfinished : Scan.token start.rest = .unfinished cause followed) :
    next file cursor = .error (start.fault cause followed file) := by
  rw [next_of_leading led, unfinished]

theorem next_of_piece (led : leading file cursor = .ok (found, start))
    (scanned : Scan.token start.rest = .piece kind text rest) :
    next file cursor = (trailing file (start.advance text rest)).map fun behind =>
      ({ kind, text, span := .covering start.offset text, leading := found, trailing := behind.1 }, behind.2) := by
  rw [next_of_leading led, scanned]

end

end

/-- One piece of trivia is one step of a reading. -/
private theorem reads_trivia {place : Place} {directives : Bool} {kind : TriviaKind} {text rest : Text}
    (apart : Rule.Apart place.before place.after) (allowed : directives = true → Rule.LineStart place.before)
    (scanned : Scan.trivia directives place.after = .piece kind text rest) :
    place.cursor.advance text rest = (Place.mk (place.before ++ text) rest).cursor ∧
    Reads place [(place.cursor.trivia kind text).piece] ⟨place.before ++ text, rest⟩ := by
  obtain ⟨before, after⟩ := place
  obtain rfl := (Scan.trivia_piece scanned).1
  exact ⟨Place.cursor_advance before text rest, .piece (Scan.trivia_sound scanned apart allowed) .done⟩

theorem leading_reads {place : Place} {file : Nat} {trivia : List Trivia} {last : Cursor}
    (apart : Rule.Apart place.before place.after) (found : leading file place.cursor = .ok (trivia, last)) :
    ∃ stop : Place, last = stop.cursor ∧ Reads place (trivia.map Trivia.piece) stop ∧
      Scan.trivia stop.before.freshAfter stop.after = .nothing := by
  generalize same : place.cursor = cursor at found
  fun_induction leading file cursor generalizing place trivia with
  | case1 cursor quiet =>
    subst same
    cases found
    exact ⟨place, rfl, .done, quiet⟩
  | case2 => cases found
  | case3 => simp_all
  | case4 cursor kind text rest scanned more after continued ih =>
    subst same
    cases found
    obtain ⟨advanced, step⟩ := reads_trivia apart Rule.freshAfter_iff.mp scanned
    obtain ⟨stop, located, reads, quiet⟩ := ih (step.apart apart) advanced.symm continued
    exact ⟨stop, located, step.trans reads, quiet⟩

/-- Only comments leave trivia unfinished, and they may start anywhere. -/
private theorem first_of_unfinished {directives fresh : Bool} {source followed : Text} {cause : Cause}
    (unfinished : Scan.trivia directives source = .unfinished cause followed) :
    Scan.first fresh source = .unfinished cause followed := by
  have other : Scan.trivia fresh source = .unfinished cause followed := by
    unfold Scan.trivia at unfinished ⊢
    split at unfinished
    · cases unfinished
    · cases unfinished
    · exact unfinished
    · split at unfinished <;> cases unfinished
    · split at unfinished <;> cases unfinished
  simp [Scan.first, other]

private theorem stuck_of_trivia {place : Place} {directives : Bool} {file : Nat} {cause : Cause} {followed : Text}
    (unfinished : Scan.trivia directives place.after = .unfinished cause followed) :
    Stuck place file (place.cursor.fault cause followed file) :=
  ⟨[], place, cause, followed, .done, first_of_unfinished unfinished, rfl⟩

theorem leading_stuck {place : Place} {file : Nat} {fault : Fault}
    (apart : Rule.Apart place.before place.after) (failed : leading file place.cursor = .error fault) :
    Stuck place file fault := by
  generalize same : place.cursor = cursor at failed
  fun_induction leading file cursor generalizing place with
  | case1 => cases failed
  | case2 cursor cause followed unfinished =>
    subst same
    cases failed
    exact stuck_of_trivia unfinished
  | case3 cursor kind text rest scanned fault continued ih =>
    subst same
    cases failed
    obtain ⟨advanced, step⟩ := reads_trivia apart Rule.freshAfter_iff.mp scanned
    exact step.stuck (ih (step.apart apart) advanced.symm continued)
  | case4 => cases failed

theorem trailing_reads {place : Place} {file : Nat} {trivia : List Trivia} {last : Cursor}
    (apart : Rule.Apart place.before place.after) (found : trailing file place.cursor = .ok (trivia, last)) :
    ∃ stop : Place, last = stop.cursor ∧ Reads place (trivia.map Trivia.piece) stop := by
  generalize same : place.cursor = cursor at found
  fun_induction trailing file cursor generalizing place trivia with
  | case1 cursor =>
    subst same
    cases found
    exact ⟨place, rfl, .done⟩
  | case2 => cases found
  | case3 cursor kind text rest scanned =>
    subst same
    cases found
    obtain ⟨advanced, step⟩ := reads_trivia apart (by simp) scanned
    exact ⟨_, advanced, step⟩
  | case4 => simp_all
  | case5 cursor kind text rest scanned _ more after continued ih =>
    subst same
    cases found
    obtain ⟨advanced, step⟩ := reads_trivia apart (by simp) scanned
    obtain ⟨stop, located, reads⟩ := ih (step.apart apart) advanced.symm continued
    exact ⟨stop, located, step.trans reads⟩

theorem trailing_stuck {place : Place} {file : Nat} {fault : Fault}
    (apart : Rule.Apart place.before place.after) (failed : trailing file place.cursor = .error fault) :
    Stuck place file fault := by
  generalize same : place.cursor = cursor at failed
  fun_induction trailing file cursor generalizing place with
  | case1 => cases failed
  | case2 cursor cause followed unfinished =>
    subst same
    cases failed
    exact stuck_of_trivia unfinished
  | case3 => cases failed
  | case4 cursor kind text rest scanned _ fault continued ih =>
    subst same
    cases failed
    obtain ⟨advanced, step⟩ := reads_trivia apart (by simp) scanned
    exact step.stuck (ih (step.apart apart) advanced.symm continued)
  | case5 => cases failed

private theorem reads_token {place : Place} {kind : TokenKind} {text rest : Text}
    (apart : Rule.Apart place.before place.after)
    (quiet : Scan.trivia place.before.freshAfter place.after = .nothing)
    (scanned : Scan.token place.after = .piece kind text rest) :
    kind ≠ .endOfFile ∧ place.cursor.advance text rest = (Place.mk (place.before ++ text) rest).cursor ∧
    Reads place [⟨.token kind, text, .covering place.cursor.offset text⟩] ⟨place.before ++ text, rest⟩ := by
  have lawful := Scan.token_sound scanned quiet apart Rule.freshAfter_iff.mpr
  obtain ⟨before, after⟩ := place
  obtain rfl := (Scan.token_piece scanned).1
  refine ⟨?_, Place.cursor_advance before text rest, .piece lawful .done⟩
  intro ended
  subst ended
  exact lawful

private theorem eq_nil_of_token {source : Text} (none : Scan.token source = .nothing) : source = [] := by
  unfold Scan.token at none
  split at none
  · rfl
  next body => cases closed : Scan.stringBody body <;> simp [Scan.ofBody, closed] at none
  next body => cases closed : Scan.verbatimBody body <;> simp [Scan.ofBody, closed] at none
  · split at none
    · cases none
    · split at none <;> cases none

/-- A token is read with its trivia, or the end of the source is reached. -/
theorem next_reads {place : Place} {file : Nat} {token : Token} {last : Cursor}
    (apart : Rule.Apart place.before place.after) (found : next file place.cursor = .ok (token, last)) :
    ∃ stop : Place, last = stop.cursor ∧
      (token.kind ≠ .endOfFile ∧ Reads place token.pieces stop ∨
       token.kind = .endOfFile ∧ token.text = [] ∧ token.trailing = [] ∧ stop.after = [] ∧
        ∃ pieces, Reads place pieces stop ∧ token.pieces = pieces ++ [.ending stop.before.byteSize]) := by
  unfold next at found
  split at found
  · cases found
  next trivia start led =>
    obtain ⟨middle, rfl, front, quiet⟩ := leading_reads apart led
    split at found
    next none =>
      cases found
      exact ⟨middle, rfl, .inr ⟨rfl, rfl, rfl, eq_nil_of_token none, _, front, rfl⟩⟩
    next => cases found
    next kind text rest scanned =>
      obtain ⟨inside, advanced, step⟩ := reads_token (front.apart apart) quiet scanned
      split at found
      · cases found
      next behind final trailed =>
        cases found
        rw [advanced] at trailed
        obtain ⟨stop, located, back⟩ := trailing_reads (step.apart (front.apart apart)) trailed
        refine ⟨stop, located, .inl ⟨inside, ?_⟩⟩
        exact front.trans (step.trans back)

theorem next_stuck {place : Place} {file : Nat} {fault : Fault}
    (apart : Rule.Apart place.before place.after) (failed : next file place.cursor = .error fault) :
    Stuck place file fault := by
  unfold next at failed
  split at failed
  next unled =>
    cases failed
    exact leading_stuck apart unled
  next trivia start led =>
    obtain ⟨middle, rfl, front, quiet⟩ := leading_reads apart led
    split at failed
    next => cases failed
    next cause followed unfinished =>
      cases failed
      have first : Scan.first middle.before.freshAfter middle.after = .unfinished cause followed := by
        change Scan.token middle.after = _ at unfinished
        simp [Scan.first, quiet, unfinished]
      exact front.stuck ⟨[], middle, cause, followed, .done, first, rfl⟩
    next kind text rest scanned =>
      obtain ⟨_, advanced, step⟩ := reads_token (front.apart apart) quiet scanned
      split at failed
      next untrailed =>
        cases failed
        rw [advanced] at untrailed
        exact front.stuck (step.stuck (trailing_stuck (step.apart (front.apart apart)) untrailed))
      next => cases failed

/-- Everything that a pull can do. -/
theorem pull_cases {lexer after : Lexer} {item : Option (Except Fault Token)} (pulled : lexer.pull = (item, after)) :
    (lexer.finished = true ∧ item = none ∧ after = lexer) ∨
    (lexer.finished = false ∧ ∃ fault, next lexer.file lexer.cursor = .error fault ∧
      item = some (.error fault) ∧ after = { lexer with finished := true }) ∨
    (lexer.finished = false ∧ ∃ token last, next lexer.file lexer.cursor = .ok (token, last) ∧
      item = some (.ok token) ∧
      after = { lexer with cursor := last, finished := decide (token.kind = .endOfFile) }) := by
  unfold pull at pulled
  split at pulled
  next finished =>
    cases pulled
    exact .inl ⟨finished, rfl, rfl⟩
  next running =>
    have running : lexer.finished = false := by simpa using running
    split at pulled
    next fault failed =>
      cases pulled
      exact .inr (.inl ⟨running, fault, failed, rfl, rfl⟩)
    next token last found =>
      cases pulled
      exact .inr (.inr ⟨running, token, last, found, rfl, rfl⟩)

theorem pull_token {lexer after : Lexer} {token : Token} (pulled : lexer.pull = (some (.ok token), after)) :
    ∃ last, next lexer.file lexer.cursor = .ok (token, last) ∧
      after = { lexer with cursor := last, finished := decide (token.kind = .endOfFile) } := by
  rcases pull_cases pulled with ⟨_, impossible, _⟩ | ⟨_, fault, _, impossible, _⟩ | ⟨_, found, last, moved, same, final⟩
  · cases impossible
  · cases impossible
  · cases same
    exact ⟨last, moved, final⟩

theorem pull_fault {lexer after : Lexer} {fault : Fault} (pulled : lexer.pull = (some (.error fault), after)) :
    next lexer.file lexer.cursor = .error fault := by
  rcases pull_cases pulled with ⟨_, impossible, _⟩ | ⟨_, found, failed, same, _⟩ | ⟨_, token, _, _, impossible, _⟩
  · cases impossible
  · cases same
    exact failed
  · cases impossible

theorem pull_none {lexer after : Lexer} (pulled : lexer.pull = (none, after)) : lexer.finished = true := by
  rcases pull_cases pulled with ⟨finished, _⟩ | ⟨_, fault, _, impossible, _⟩ | ⟨_, token, _, _, impossible, _⟩
  · exact finished
  · cases impossible
  · cases impossible

theorem run_none {lexer last : Lexer} (pulled : lexer.pull = (none, last)) : lexer.run = ([], none, last) := by
  rw [run]
  split <;> simp_all

theorem run_fault {lexer last : Lexer} {fault : Fault} (pulled : lexer.pull = (some (.error fault), last)) :
    lexer.run = ([], some fault, last) := by
  rw [run]
  split <;> simp_all

theorem run_token {lexer after : Lexer} {token : Token} (pulled : lexer.pull = (some (.ok token), after)) :
    lexer.run = (token :: after.run.1, after.run.2) := by
  rw [run]
  split <;> simp_all

theorem run_finished {lexer : Lexer} (finished : lexer.finished = true) : lexer.run = ([], none, lexer) :=
  run_none (by simp [pull, finished])

/-- The last token, and no other, is the empty one that ends the source. -/
def Ended (tokens : List Token) : Prop :=
  ∃ body final, tokens = body ++ [final] ∧ (∀ token ∈ body, token.kind ≠ .endOfFile) ∧
    final.kind = .endOfFile ∧ final.text = [] ∧ final.trailing = []

theorem Ended.cons {token : Token} {tokens : List Token} (inside : token.kind ≠ .endOfFile) (ended : Ended tokens) :
    Ended (token :: tokens) := by
  obtain ⟨body, final, rfl, before, last⟩ := ended
  refine ⟨token :: body, final, rfl, ?_, last⟩
  intro other member
  rcases List.mem_cons.mp member with same | member
  · rwa [same]
  · exact before other member

theorem run_reads {lexer last : Lexer} {place : Place} {tokens : List Token}
    (apart : Rule.Apart place.before place.after) (running : lexer.finished = false)
    (located : lexer.cursor = place.cursor) (ran : lexer.run = (tokens, none, last)) :
    Ended tokens ∧ ∃ pieces stop, Reads place pieces stop ∧ stop.after = [] ∧
      tokens.flatMap Token.pieces = pieces ++ [.ending stop.before.byteSize] := by
  fun_induction run lexer generalizing place tokens with
  | case1 lexer last pulled => simp [pull_none pulled] at running
  | case2 => cases ran
  | case3 lexer token after pulled more fault final continued ih =>
    cases ran
    obtain ⟨next, found, rfl⟩ := pull_token pulled
    rw [located] at found
    obtain ⟨middle, rfl, ⟨inside, step⟩ | ⟨kind, text, trailing, emptied, pieces, step, ending⟩⟩ := next_reads apart found
    · obtain ⟨ended, pieces, stop, reads, emptied, whole⟩ := ih (step.apart apart) (by simpa using inside) rfl continued
      refine ⟨ended.cons inside, token.pieces ++ pieces, stop, step.trans reads, emptied, ?_⟩
      rw [List.flatMap_cons, whole, List.append_assoc]
    · rw [run_finished (by simpa using kind)] at continued
      cases continued
      exact ⟨⟨[], token, rfl, by simp, kind, text, trailing⟩, pieces, middle, step, emptied, by simpa using ending⟩

theorem pull_of_run {lexer last : Lexer} {token : Token} {more : List Token} {fault : Option Fault}
    (ran : lexer.run = (token :: more, fault, last)) :
    ∃ after, lexer.pull = (some (.ok token), after) ∧ after.run = (more, fault, last) := by
  rcases pulled : lexer.pull with ⟨_ | found | other, after⟩
  · rw [run_none pulled] at ran
    cases ran
  · rw [run_fault pulled] at ran
    cases ran
  · rw [run_token pulled] at ran
    obtain ⟨listed, rest⟩ := Prod.mk.inj ran
    obtain ⟨rfl, later⟩ := List.cons.inj listed
    exact ⟨after, rfl, Prod.ext later rest⟩

/-- A run can be cut behind any of its tokens but the last: what is left is the run from there. -/
theorem run_cut {lexer last : Lexer} {place : Place} {front back : List Token} {fault : Option Fault}
    (apart : Rule.Apart place.before place.after) (running : lexer.finished = false)
    (located : lexer.cursor = place.cursor) (inside : ∀ token ∈ front, token.kind ≠ .endOfFile)
    (ran : lexer.run = (front ++ back, fault, last)) :
    ∃ stop : Place, Reads place (front.flatMap Token.pieces) stop ∧
      run ⟨stop.cursor, lexer.file, false⟩ = (back, fault, last) := by
  induction front generalizing lexer place with
  | nil =>
    refine ⟨place, .done, ?_⟩
    rw [← located, ← running]
    exact ran
  | cons token front ih =>
    obtain ⟨after, pulled, continued⟩ := pull_of_run ran
    obtain ⟨next, found, rfl⟩ := pull_token pulled
    rw [located] at found
    have within := inside token List.mem_cons_self
    obtain ⟨middle, rfl, ⟨_, step⟩ | ⟨ended, _⟩⟩ := next_reads apart found
    · obtain ⟨stop, reads, remaining⟩ := ih (step.apart apart) (decide_eq_false within) rfl
        (fun other member => inside other (List.mem_cons_of_mem token member)) continued
      exact ⟨stop, step.trans reads, remaining⟩
    · exact absurd ended within

/-- Nothing is read behind the token that ends the source. -/
theorem run_ended {lexer last : Lexer} {front back : List Token} {token : Token} {fault : Option Fault}
    (ran : lexer.run = (front ++ token :: back, fault, last)) (ended : token.kind = .endOfFile) :
    back = [] ∧ fault = none := by
  induction front generalizing lexer with
  | nil =>
    obtain ⟨after, pulled, continued⟩ := pull_of_run ran
    obtain ⟨_, _, rfl⟩ := pull_token pulled
    rw [run_finished (decide_eq_true ended)] at continued
    cases continued
    exact ⟨rfl, rfl⟩
  | cons other front ih =>
    obtain ⟨after, _, continued⟩ := pull_of_run ran
    exact ih continued

theorem run_finishes (lexer : Lexer) : lexer.run.2.2.finished = true := by
  fun_induction run lexer with
  | case1 lexer last pulled =>
    rcases pull_cases pulled with ⟨finished, _, rfl⟩ | ⟨_, _, _, impossible, _⟩ | ⟨_, _, _, _, impossible, _⟩
    · exact finished
    · cases impossible
    · cases impossible
  | case2 lexer fault last pulled =>
    rcases pull_cases pulled with ⟨_, impossible, _⟩ | ⟨_, _, _, _, rfl⟩ | ⟨_, _, _, _, impossible, _⟩
    · cases impossible
    · rfl
    · cases impossible
  | case3 lexer token after pulled more fault last continued ih =>
    rwa [continued] at ih

/-- The tokens in front of a fault are a reading, and the lexer is stuck somewhere behind them. -/
theorem run_stuck {lexer last : Lexer} {place : Place} {tokens : List Token} {fault : Fault}
    (apart : Rule.Apart place.before place.after) (running : lexer.finished = false)
    (located : lexer.cursor = place.cursor) (ran : lexer.run = (tokens, some fault, last)) :
    ∃ middle, Reads place (tokens.flatMap Token.pieces) middle ∧ Stuck middle lexer.file fault := by
  have inside : ∀ token ∈ tokens, token.kind ≠ .endOfFile := by
    intro token member ended
    obtain ⟨front, back, rfl⟩ := List.append_of_mem member
    cases (run_ended ran ended).2
  rw [← List.append_nil tokens] at ran
  obtain ⟨middle, reads, remaining⟩ := run_cut apart running located inside ran
  refine ⟨middle, reads, ?_⟩
  apply next_stuck (reads.apart apart)
  rcases pulled : pull ⟨middle.cursor, lexer.file, false⟩ with ⟨_ | found | token, after⟩
  · cases pull_none pulled
  · rw [run_fault pulled] at remaining
    cases remaining
    exact pull_fault pulled
  · rw [run_token pulled] at remaining
    cases remaining

theorem tokens_reads {source : Text} {file : Nat} {tokens : List Token} (accepted : Lexer.tokens source file = .ok tokens) :
    Ended tokens ∧ ∃ pieces, Reads ⟨[], source⟩ pieces ⟨source, []⟩ ∧
      tokens.flatMap Token.pieces = pieces ++ [.ending source.byteSize] := by
  unfold Lexer.tokens at accepted
  split at accepted
  next found last ran =>
    cases accepted
    obtain ⟨ended, pieces, ⟨before, after⟩, reads, emptied, whole⟩ :=
      @run_reads _ _ ⟨[], source⟩ _ (by simp [Rule.Apart]) rfl rfl ran
    obtain ⟨consumed, split⟩ := reads.texts
    change after = [] at emptied
    subst emptied
    obtain rfl : before = source := consumed.trans (split.trans (List.append_nil _)).symm
    exact ⟨ended, pieces, reads, whole⟩
  next => cases accepted

theorem tokens_stuck {source : Text} {file : Nat} {fault : Fault} (failed : Lexer.tokens source file = .error fault) :
    Stuck ⟨[], source⟩ file fault := by
  unfold Lexer.tokens at failed
  split at failed
  next => cases failed
  next ran =>
    cases failed
    obtain ⟨middle, reads, stuck⟩ := @run_stuck _ _ ⟨[], source⟩ _ _ (by simp [Rule.Apart]) rfl rfl ran
    exact reads.stuck stuck

end Lexer

end Literate
