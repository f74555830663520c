import Literate.Proofs.BlockGrouping

/-! To which token a piece of trivia belongs. It trails the last token before it as long as the
line goes on, and else leads the next one; only white space ends a line, so that a comment over
several lines does not. Comments are prose or code by the same rule. -/

namespace Literate

open Text

namespace Piece

def IsToken (piece : Piece) : Prop := ∃ kind, piece.kind = .token kind

/-- White space up to a line terminator. -/
def EndsLine (piece : Piece) : Prop := piece.kind = .trivia .whitespace ∧ piece.text.getLast?.any isNewline = true

end Piece

theorem Token.isToken_piece (token : Token) : token.piece.IsToken := ⟨token.kind, rfl⟩

theorem Trivia.not_isToken_piece (trivia : Trivia) : ¬ trivia.piece.IsToken := by
  intro ⟨kind, same⟩
  cases same

/-- There is a token among the pieces, and the line of the last one has not ended. -/
def OnTokenLine (read : List Piece) : Prop :=
  ∃ earlier token between, read = earlier ++ token :: between ∧ token.IsToken ∧
    ∀ piece ∈ between, ¬ piece.IsToken ∧ ¬ piece.EndsLine

theorem onTokenLine_concat {read : List Piece} {piece : Piece} :
    OnTokenLine (read ++ [piece]) ↔ piece.IsToken ∨ OnTokenLine read ∧ ¬ piece.EndsLine := by
  constructor
  · intro ⟨earlier, token, between, split, isToken, plain⟩
    rcases List.eq_nil_or_concat between with rfl | ⟨between, last, rfl⟩
    · obtain ⟨_, single⟩ := List.append_inj' split rfl
      rw [List.singleton_inj.mp single]
      exact .inl isToken
    · rw [List.concat_eq_append] at split plain
      obtain ⟨rfl, single⟩ := List.append_inj' (split.trans (List.append_assoc earlier (token :: between) [last]).symm) rfl
      rw [List.singleton_inj.mp single]
      refine .inr ⟨⟨earlier, token, between, rfl, isToken, ?_⟩, (plain last (by simp)).2⟩
      intro other member
      exact plain other (List.mem_append_left [last] member)
  · intro either
    by_cases isToken : piece.IsToken
    · exact ⟨read, piece, [], rfl, isToken, by simp⟩
    · obtain ⟨⟨earlier, token, between, rfl, first, plain⟩, goesOn⟩ := either.resolve_left isToken
      refine ⟨earlier, token, between ++ [piece], by simp, first, ?_⟩
      intro other member
      rcases List.mem_append.mp member with member | last
      · exact plain other member
      · rw [List.mem_singleton.mp last]
        exact ⟨isToken, goesOn⟩

theorem not_onTokenLine_nil : ¬ OnTokenLine [] := by
  intro ⟨earlier, token, between, split, _⟩
  simp at split

/-- The part of a token that a piece is. -/
inductive Side where
  | leading
  | itself
  | trailing
deriving DecidableEq

def Token.sides (token : Token) : List (Piece × Side) :=
  token.leading.map (·.piece, .leading) ++ (token.piece, .itself) :: token.trailing.map (·.piece, .trailing)

theorem Token.map_sides (token : Token) : token.sides.map Prod.fst = token.pieces := by
  simp [sides, pieces, Function.comp_def]

theorem Token.not_onTokenLine_pieces {token : Token} {ending : Trivia} {read : List Piece}
    (listed : token.trailing.getLast? = some ending) (ends : ending.piece.EndsLine) :
    ¬ OnTokenLine (read ++ token.pieces) := by
  obtain ⟨inner, same⟩ := List.getLast?_eq_some_iff.mp listed
  rw [pieces, same, List.map_append, List.map_singleton, ← List.cons_append, ← List.append_assoc, ← List.append_assoc,
    onTokenLine_concat]
  intro online
  rcases online with isToken | ⟨_, goesOn⟩
  · exact ending.not_isToken_piece isToken
  · exact goesOn ends

/-- Behind what was read already, all trivia trails a token while its line goes on, and leads one
otherwise. -/
def Sided (read : List Piece) (sides : List (Piece × Side)) : Prop :=
  ∀ front piece side back, sides = front ++ (piece, side) :: back → ¬ piece.IsToken →
    (OnTokenLine (read ++ front.map Prod.fst) → side = .trailing) ∧
    (¬ OnTokenLine (read ++ front.map Prod.fst) → side = .leading)

namespace Sided

variable {read : List Piece}

theorem nil : Sided read [] := by
  intro front piece side back split
  simp at split

theorem cons {piece : Piece} {side : Side} {sides : List (Piece × Side)}
    (first : ¬ piece.IsToken → (OnTokenLine read → side = .trailing) ∧ (¬ OnTokenLine read → side = .leading))
    (rest : Sided (read ++ [piece]) sides) : Sided read ((piece, side) :: sides) := by
  intro front other place back split inside
  cases front with
  | nil =>
    obtain ⟨same, _⟩ := List.cons.inj split
    obtain ⟨rfl, rfl⟩ := Prod.mk.inj same
    rw [List.map_nil, List.append_nil]
    exact first inside
  | cons head front =>
    obtain ⟨rfl, later⟩ := List.cons.inj split
    have behind := rest front other place back later inside
    rwa [List.append_assoc] at behind

theorem append {first second : List (Piece × Side)} (before : Sided read first)
    (after : Sided (read ++ first.map Prod.fst) second) : Sided read (first ++ second) := by
  intro front piece side back split inside
  rcases List.append_eq_append_iff.mp split with ⟨middle, rfl, later⟩ | ⟨middle, rfl, later⟩
  · have found := after middle piece side back later inside
    rwa [List.append_assoc, ← List.map_append] at found
  · cases middle with
    | nil =>
      have found := after [] piece side back (by simpa using later.symm) inside
      simpa using found
    | cons head middle =>
      obtain ⟨rfl, _⟩ := List.cons.inj later
      exact before front piece side middle rfl inside

/-- Trivia behind the end of a line leads the next token. -/
theorem leading {found : List Trivia} (apart : ¬ OnTokenLine read) :
    Sided read (found.map (·.piece, .leading)) ∧ ¬ OnTokenLine (read ++ found.map Trivia.piece) := by
  induction found generalizing read with
  | nil => exact ⟨nil, by simpa using apart⟩
  | cons trivia found ih =>
    have still : ¬ OnTokenLine (read ++ [trivia.piece]) := by
      intro online
      rcases onTokenLine_concat.mp online with isToken | ⟨online, _⟩
      · exact trivia.not_isToken_piece isToken
      · exact apart online
    obtain ⟨sided, after⟩ := ih still
    rw [List.append_assoc] at after
    exact ⟨cons (fun _ => ⟨fun online => absurd online apart, fun _ => rfl⟩) sided, after⟩

/-- Trivia on the line of a token trails it. -/
theorem trailing {found : List Trivia} (online : OnTokenLine read)
    (goesOn : ∀ trivia ∈ found.dropLast, ¬ trivia.piece.EndsLine) :
    Sided read (found.map (·.piece, .trailing)) := by
  induction found generalizing read with
  | nil => exact nil
  | cons trivia found ih =>
    refine cons (fun _ => ⟨fun _ => rfl, fun apart => absurd online apart⟩) ?_
    cases found with
    | nil => exact nil
    | cons next found =>
      apply ih
      · exact onTokenLine_concat.mpr (.inr ⟨online, goesOn trivia List.mem_cons_self⟩)
      · intro other member
        exact goesOn other (List.mem_cons_of_mem trivia member)

end Sided

/-! Where a directive may start. It may not on the line of a token. -/

namespace Cursor

variable {cursor : Cursor} {text : Text}

theorem stale_of_sameLine (stale : cursor.fresh = false) (sameLine : ∀ c ∈ text, isNewline c = false) (rest : Text) :
    (cursor.advance text rest).fresh = false := by
  have fold : text.foldl (fun fresh c => isNewline c || fresh && isPad c) false = false := by
    induction text with
    | nil => rfl
    | cons c text ih =>
      rw [List.foldl_cons, sameLine c List.mem_cons_self]
      exact ih fun other member => sameLine other (List.mem_cons_of_mem c member)
  rwa [advance, stale]

theorem stale_of_last {c : Char} (last : text.getLast? = some c) (solid : isSpace c = false) (rest : Text) :
    (cursor.advance text rest).fresh = false := by
  obtain ⟨front, rfl⟩ := List.getLast?_eq_some_iff.mp last
  have notNewline : isNewline c = false := by
    by_contra newline
    rw [isSpace_of_isNewline (by simpa using newline)] at solid
    cases solid
  have notPad : isPad c = false := by
    by_contra pad
    rw [isSpace_of_isHorizontal (isHorizontal_of_isPad (by simpa using pad))] at solid
    cases solid
  simp [advance, notNewline, notPad]

end Cursor

namespace Scan

/-- Every token ends with a character that is seen. -/
theorem solid_of_token {kind : TokenKind} {before text after : Text}
    (lawful : (PieceKind.token kind).Lawful before text after) : ∃ c, text.getLast? = some c ∧ isSpace c = false := by
  cases kind with
  | word =>
    obtain ⟨nonempty, inside, _⟩ := lawful
    refine ⟨_, List.getLast?_eq_some_getLast nonempty, ?_⟩
    exact not_isSpace_of_isWordChar (inside _ (List.getLast_mem nonempty))
  | stringLiteral =>
    rcases lawful with ⟨interior, _, rfl⟩ | ⟨interior, _, rfl, _⟩
    all_goals exact ⟨'"', by simp [List.getLast?_cons], by decide⟩
  | charLiteral =>
    rcases lawful with ⟨c, rfl, _⟩ | ⟨c, rfl⟩
    all_goals exact ⟨'\x27', by simp, by decide⟩
  | punctuation =>
    obtain ⟨c, rfl, notSpace, _⟩ := lawful
    exact ⟨c, rfl, notSpace⟩
  | endOfFile => exact lawful.elim

variable {kind : TriviaKind} {source text rest : Text}

theorem not_directive (scanned : trivia false source = .piece kind text rest) : kind ≠ .directive := by
  intro same
  subst same
  unfold trivia at scanned
  split at scanned
  · cases scanned
  · cases scanned
  next body => cases closed : commentBody body <;> simp [ofBody, closed] at scanned
  · simp at scanned
  · split at scanned <;> cases scanned

-- Where no directive is looked for, the rules do not depend on what is in front.
theorem lawful_of_scanned (scanned : trivia false source = .piece kind text rest) :
    (PieceKind.trivia kind).Lawful [] text rest :=
  trivia_sound scanned (by simp [Rule.Apart]) (by simp)

/-- Of the trivia behind a token, white space alone may hold the end of the line. -/
theorem ends_or_sameLine (scanned : trivia false source = .piece kind text rest) :
    (kind = .whitespace ∧ text.getLast?.any isNewline = true) ∨ (∀ c ∈ text, isNewline c = false) ∨
      text.getLast? = some '/' := by
  have lawful := lawful_of_scanned scanned
  cases kind with
  | whitespace =>
    obtain ⟨_, run, ending, rfl, horizontal, _, _, between⟩ := lawful
    cases between with
    | none =>
      right; left
      intro c member
      rw [List.append_nil] at member
      exact not_isNewline_of_isHorizontal (horizontal c member)
    | both | carriageReturn | lineFeed =>
      left
      simp [isNewline]
  | directive => exact absurd rfl (not_directive scanned)
  | lineComment =>
    obtain ⟨body, rfl, sameLine, _⟩ := lawful
    right; left
    simpa [isNewline] using sameLine
  | blockComment =>
    obtain ⟨interior, rfl, _⟩ := lawful
    right; right
    simp [List.getLast?_cons]

theorem whitespace_of_ends (scanned : trivia false source = .piece kind text rest)
    (ends : text.getLast?.any isNewline = true) : kind = .whitespace := by
  rcases ends_or_sameLine scanned with ⟨same, _⟩ | sameLine | slash
  · exact same
  · obtain ⟨c, last, newline⟩ := (Option.any_eq_true ..).mp ends
    rw [sameLine c (List.mem_of_getLast? last)] at newline
    cases newline
  · rw [slash] at ends
    cases ends

/-- Behind trivia that does not end a line no directive may start, if none could before. -/
theorem stale_of_goesOn {cursor : Cursor} (scanned : trivia false source = .piece kind text rest)
    (goesOn : ¬ text.getLast?.any isNewline = true) (stale : cursor.fresh = false) :
    (cursor.advance text rest).fresh = false := by
  rcases ends_or_sameLine scanned with ⟨_, ends⟩ | sameLine | slash
  · exact absurd ends goesOn
  · exact Cursor.stale_of_sameLine stale sameLine rest
  · exact Cursor.stale_of_last slash (by decide) rest

end Scan

/-- Trivia behind a token: it holds no directive, and only the last piece may end the line. -/
structure TrailsLine (found : List Trivia) : Prop where
  directive : ∀ trivia ∈ found, trivia.kind ≠ .directive
  inner : ∀ trivia ∈ found.dropLast, trivia.text.getLast?.any isNewline = false

namespace Lexer

variable {file : Nat}

theorem trailing_line {cursor last : Cursor} {found : List Trivia} (stale : cursor.fresh = false)
    (trailed : trailing file cursor = .ok (found, last)) :
    TrailsLine found ∧
      ((∃ ending, found.getLast? = some ending ∧ ending.piece.EndsLine) ∨ Scan.trivia last.fresh last.rest = .nothing) := by
  fun_induction trailing file cursor generalizing found with
  | case1 cursor quiet =>
    cases trailed
    rw [← stale] at quiet
    exact ⟨⟨by simp, by simp⟩, .inr quiet⟩
  | case2 => cases trailed
  | case3 cursor kind text rest scanned ends =>
    cases trailed
    refine ⟨⟨List.forall_mem_singleton.mpr (Scan.not_directive scanned), by simp⟩, .inl ⟨_, rfl, ?_, ends⟩⟩
    exact congrArg _ (Scan.whitespace_of_ends scanned ends)
  | case4 => simp_all
  | case5 cursor kind text rest scanned goesOn more after continued ih =>
    cases trailed
    obtain ⟨⟨directive, inner⟩, stops⟩ := ih (Scan.stale_of_goesOn scanned goesOn stale) continued
    refine ⟨⟨List.forall_mem_cons.mpr ⟨Scan.not_directive scanned, directive⟩, ?_⟩, ?_⟩
    · cases more with
      | nil => simp
      | cons next more =>
        rw [List.dropLast_cons_cons]
        exact List.forall_mem_cons.mpr ⟨by simpa [Cursor.trivia] using goesOn, inner⟩
    · refine stops.imp_left ?_
      intro ended
      obtain ⟨ending, listed, ends⟩ := ended
      exact ⟨ending, by rw [List.getLast?_cons, listed]; rfl, ends⟩

theorem next_attached {place : Place} {read : List Piece} {token : Token} {last : Cursor}
    (apart : Rule.Apart place.before place.after)
    (quiet : OnTokenLine read → Scan.trivia place.cursor.fresh place.cursor.rest = .nothing)
    (found : next file place.cursor = .ok (token, last)) :
    Sided read token.sides ∧ TrailsLine token.trailing ∧
      (OnTokenLine (read ++ token.pieces) → Scan.trivia last.fresh last.rest = .nothing) := by
  cases led : leading file place.cursor with
  | error fault => simp [next, led] at found
  | ok result =>
    obtain ⟨trivia, start⟩ := result
    -- On the line of a token nothing is left for this loop, so that what it reads is behind the line.
    have front : Sided read (trivia.map (·.piece, .leading)) := by
      by_cases online : OnTokenLine read
      · rw [leading_of_nothing (quiet online)] at led
        cases led
        exact .nil
      · exact (Sided.leading online).1
    obtain ⟨middle, rfl, reads, nothing⟩ := leading_reads apart led
    cases scanned : Scan.token middle.after with
    | nothing =>
      rw [next_of_nothing led scanned] at found
      cases found
      refine ⟨front.append (.cons (fun inside => absurd (Token.isToken_piece _) inside) .nil), ⟨by simp, by simp⟩, ?_⟩
      intro _
      exact nothing
    | unfinished cause followed =>
      rw [next_of_unfinished led scanned] at found
      cases found
    | piece kind text rest =>
      rw [next_of_piece led scanned] at found
      have lawful := Scan.token_sound scanned nothing (reads.apart apart) Rule.freshAfter_iff.mpr
      obtain ⟨c, ends, solid⟩ := Scan.solid_of_token lawful
      have stale : (middle.cursor.advance text rest).fresh = false := Cursor.stale_of_last ends solid rest
      cases trailed : trailing file (middle.cursor.advance text rest) with
      | error fault => simp [trailed, Except.map] at found
      | ok behind =>
        obtain ⟨more, final⟩ := behind
        rw [trailed] at found
        cases found
        obtain ⟨line, stops⟩ := trailing_line stale trailed
        refine ⟨front.append (.cons (fun inside => absurd (Token.isToken_piece _) inside) ?_), line, ?_⟩
        · apply Sided.trailing
          · exact onTokenLine_concat.mpr (.inl (Token.isToken_piece _))
          · intro other member ends
            simp [line.inner other member, Piece.EndsLine, Trivia.piece] at ends
        · intro online
          refine stops.resolve_left ?_
          intro ended
          obtain ⟨ending, listed, ends⟩ := ended
          exact Token.not_onTokenLine_pieces listed ends online

/-- All trivia that the lexer returns is on its side, also in front of a fault. -/
theorem run_attached {lexer : Lexer} {place : Place} {read : List Piece} (apart : Rule.Apart place.before place.after)
    (located : lexer.cursor = place.cursor)
    (quiet : OnTokenLine read → Scan.trivia place.cursor.fresh place.cursor.rest = .nothing) :
    Sided read (lexer.run.1.flatMap Token.sides) ∧ ∀ token ∈ lexer.run.1, TrailsLine token.trailing := by
  -- Along the run: while the line of the last token goes on, all trivia there is read already.
  fun_induction run lexer generalizing place read with
  | case1 => exact ⟨.nil, by simp⟩
  | case2 => exact ⟨.nil, by simp⟩
  | case3 lexer token after pulled more fault last continued ih =>
    obtain ⟨next, found, rfl⟩ := pull_token pulled
    rw [located] at found
    obtain ⟨sides, line, later⟩ := next_attached apart quiet found
    rw [← Token.map_sides] at later
    obtain ⟨stop, rfl, ⟨_, step⟩ | ⟨ended, _⟩⟩ := next_reads apart found
    · obtain ⟨rest, lines⟩ := ih (step.apart apart) rfl later
      rw [continued] at rest lines
      exact ⟨sides.append rest, List.forall_mem_cons.mpr ⟨line, lines⟩⟩
    · rw [run_finished (decide_eq_true ended)] at continued
      cases continued
      exact ⟨sides.append .nil, List.forall_mem_singleton.mpr line⟩

end Lexer

/-- What a piece on one side of a token is to the splitter. -/
def Piece.event (piece : Piece) (side : Side) : Event :=
  if piece.kind = .trivia .blockComment ∧ side = .leading then .prose ((piece.text.drop 2).rdrop 2)
  else .code piece.text

theorem Token.events_eq (token : Token) : token.events = token.sides.map fun (piece, side) => piece.event side := by
  have leading : (fun trivia : Trivia => trivia.piece.event .leading) = Trivia.event := by
    funext trivia
    simp [Piece.event, Trivia.event, Trivia.piece]
  have trailing : (fun trivia : Trivia => trivia.piece.event .trailing) = fun trivia => .code trivia.text := by
    funext trivia
    simp [Piece.event, Trivia.piece]
  have itself : token.piece.event .itself = .code token.text := by simp [Piece.event, Token.piece]
  simp [events, sides, Function.comp_def, leading, trailing, itself]

/-- A comment that is on the line of no token is its interior as prose, everything else is code as
it is written. -/
def Piece.Becomes (piece : Piece) (read : List Piece) (event : Event) : Prop :=
  (piece.kind = .trivia .blockComment ∧ ¬ OnTokenLine read ∧
    ∃ interior, piece.text = ['/', '*'] ++ interior ++ ['*', '/'] ∧ event = .prose interior) ∨
  ((piece.kind = .trivia .blockComment → OnTokenLine read) ∧ event = .code piece.text)

theorem Piece.becomes_event {piece : Piece} {side : Side} {read : List Piece}
    (placed : ¬ piece.IsToken → (OnTokenLine read → side = .trailing) ∧ (¬ OnTokenLine read → side = .leading))
    (delimited : piece.kind = .trivia .blockComment → ∃ interior, piece.text = ['/', '*'] ++ interior ++ ['*', '/']) :
    piece.Becomes read (piece.event side) := by
  by_cases comment : piece.kind = .trivia .blockComment
  · have inside : ¬ piece.IsToken := by
      intro ⟨kind, same⟩
      rw [comment] at same
      cases same
    by_cases online : OnTokenLine read
    · right
      rw [(placed inside).1 online]
      exact ⟨fun _ => online, by simp [event]⟩
    · left
      obtain ⟨interior, text⟩ := delimited comment
      rw [(placed inside).2 online]
      exact ⟨comment, online, interior, text, by simp [event, comment, text, List.rdrop]⟩
  · right
    exact ⟨fun same => absurd same comment, by simp [event, comment]⟩

/-- All trivia is on its side, and the blocks are those of the events that the pieces become. -/
structure Attached (source : Text) (file : Nat) (tokens : List Token) : Prop where
  sided : Sided [] (tokens.flatMap Token.sides)
  lines : ∀ token ∈ tokens, TrailsLine token.trailing
  blocks : ∀ layout, ∃ events,
    Chain.ofSource source file layout = .ok (Chain.ofEvents layout layout.format.encoder events) ∧
    events.length = (tokens.flatMap Token.pieces).length ∧
    ∀ read piece behind, tokens.flatMap Token.pieces = read ++ piece :: behind →
      ∃ event, events[read.length]? = some event ∧ piece.Becomes read event

/-- Trivia trails the last token before it while the line of that token goes on and else leads the
next one, and the comments that lead are the ones that become prose. -/
theorem trivia_attached {source : Text} {file : Nat} {tokens : List Token}
    (accepted : Lexer.tokens source file = .ok tokens) : Attached source file tokens := by
  obtain ⟨sided, lines⟩ := @Lexer.run_attached (Lexer.ofSource source file) ⟨[], source⟩ [] (by simp [Rule.Apart]) rfl
    (fun online => absurd online not_onTokenLine_nil)
  rw [Lexer.run_of_tokens accepted] at sided lines
  have pieces : tokens.flatMap Token.pieces = (tokens.flatMap Token.sides).map Prod.fst := by
    rw [List.map_flatMap]
    exact List.flatMap_congr fun token _ => token.map_sides.symm
  have events : tokens.flatMap Token.events = (tokens.flatMap Token.sides).map fun (piece, side) => piece.event side := by
    rw [List.map_flatMap]
    exact List.flatMap_congr fun token _ => token.events_eq
  refine ⟨sided, lines, fun layout => ⟨tokens.flatMap Token.events, ?_, by simp [events, pieces], ?_⟩⟩
  · rw [Chain.ofSource_eq, accepted]
    exact congrArg Except.ok (Splitter.finish_foldl_step_empty _)
  · intro read piece behind split
    have member : piece ∈ (Lexer.ofSource source file).run.1.flatMap Token.pieces := by
      simp [Lexer.run_of_tokens accepted, split]
    have delimited := Lexer.delimited member
    rw [pieces] at split
    obtain ⟨front, back, whole, rfl, later⟩ := List.map_eq_append_iff.mp split
    obtain ⟨⟨other, side⟩, rest, rfl, rfl, _⟩ := List.map_eq_cons_iff.mp later
    refine ⟨other.event side, by simp [events, whole], ?_⟩
    exact Piece.becomes_event (sided front other side rest whole) delimited

/-- The comment behind the first token goes over two lines, and the trivia behind it still trails. -/
theorem trivia_attached_behind_long_comment :
    let source : Text := "/* p */\n#if é\nx /* a\n */ // b\r\n/* q */ y; /* c */".toList
    ∃ tokens, Lexer.tokens source 0 = .ok tokens ∧
      tokens.map (·.trailing.map Trivia.text) =
        [[" ".toList, "/* a\n */".toList, " ".toList, "// b".toList, "\r\n".toList], [], [" ".toList, "/* c */".toList], []] ∧
      Attached source 0 tokens := by
  intro source
  have trailing : (Lexer.tokens source 0).toOption.map (·.map (·.trailing.map Trivia.text)) =
      some [[" ".toList, "/* a\n */".toList, " ".toList, "// b".toList, "\r\n".toList], [],
        [" ".toList, "/* c */".toList], []] := by
    decide +kernel
  cases accepted : Lexer.tokens source 0 with
  | error fault =>
    rw [accepted] at trailing
    cases trailing
  | ok tokens =>
    rw [accepted] at trailing
    exact ⟨tokens, rfl, Option.some.inj trailing, trivia_attached accepted⟩

end Literate
