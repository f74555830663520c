import Literate.Proofs.LexicalRules
import Mathlib.Data.List.TakeWhile

/-! The scanners and the lexical rules. Each scanner is complete for its rule, so a
lawful piece is found whole whatever stands behind it, and sound, so that nothing
else is found. Both scanners together cut off exactly the lawful first piece. -/

namespace Literate

open Text

namespace Text

/-- A run of a class that ends at its edge is what the scanners for classes take. -/
theorem takeWhile_run {test : Char → Bool} {run after : Text} (inside : ∀ c ∈ run, test c = true)
    (stops : Stops test after) : (run ++ after).takeWhile test = run := by
  rw [List.takeWhile_append_of_pos inside]
  cases after with
  | nil => simp
  | cons c after => simp [stops c rfl]

theorem dropWhile_run {test : Char → Bool} {run after : Text} (inside : ∀ c ∈ run, test c = true)
    (stops : Stops test after) : (run ++ after).dropWhile test = after := by
  rw [List.dropWhile_append_of_pos inside]
  cases after with
  | nil => simp
  | cons c after => simp [stops c rfl]

theorem stops_dropWhile (test : Char → Bool) (text : Text) : Stops test (text.dropWhile test) := by
  intro c first
  obtain ⟨rest, equal⟩ := List.head?_eq_some_iff.mp first
  have outside := List.head?_dropWhile_not test text
  simpa [equal] using outside

end Text

namespace Rule

theorem Terminator.scanned {before ending after : Text} (between : Terminator before ending after) :
    terminator (ending ++ after) = (ending, after) := by
  cases between with
  | none stops =>
    cases after with
    | nil => rfl
    | cons c after =>
      have different : ∀ rest, c = '\r' → after = '\n' :: rest → False := by
        rintro rest rfl -
        simpa [isNewline] using stops '\r' rfl
      rw [List.nil_append, terminator.eq_2 _ _ different]
      simp [stops c rfl]
  | both => rfl
  | carriageReturn whole =>
    have single : ∀ rest, '\r' = '\r' → after = '\n' :: rest → False := by
      rintro rest - rfl
      exact whole rfl
    rw [List.singleton_append, terminator.eq_2 _ _ single]
    simp [isNewline]
  | lineFeed whole => simp [terminator, isNewline]

theorem Terminator.ofScanned {before source : Text}
    (whole : source.head? = some '\n' → before.getLast? ≠ some '\r') :
    Terminator before source.terminator.1 source.terminator.2 := by
  fun_cases terminator source with
  | case1 rest => exact .both
  | case2 c rest noLineFeed newline =>
    rcases isNewline_iff.mp newline with rfl | rfl
    · refine .carriageReturn ?_
      intro first
      obtain ⟨behind, rfl⟩ := List.head?_eq_some_iff.mp first
      exact noLineFeed behind rfl rfl
    · exact .lineFeed (whole rfl)
  | case3 c rest _ notNewline =>
    refine .none ?_
    rintro d ⟨⟩
    simpa using notNewline
  | case4 => exact .none (by simp [Stops])

end Rule

namespace Scan

open Rule

/-! The bodies of comments and literals. -/

private theorem not_closing_cons {c : Char} {interior rest : Text}
    (clear : ¬ ['*', '/'] <:+: c :: interior) : ∀ after, c = '*' → interior ++ '*' :: '/' :: rest = '/' :: after → False := by
  intro after first equal
  apply clear
  cases interior with
  | nil => simp at equal
  | cons second interior =>
    obtain rfl : second = '/' := (List.cons.inj equal).1
    exact ⟨[], interior, by simp [first]⟩

theorem commentBody_complete {interior rest : Text} (clear : ¬ ['*', '/'] <:+: interior) :
    commentBody (interior ++ '*' :: '/' :: rest) = .ok (interior ++ ['*', '/'], rest) := by
  induction interior with
  | nil => rfl
  | cons c interior ih =>
    have shorter : ¬ ['*', '/'] <:+: interior := fun inside => clear (inside.trans (List.suffix_cons c interior).isInfix)
    rw [List.cons_append, commentBody.eq_2 _ _ (not_closing_cons clear), ih shorter]
    rfl

theorem commentBody_sound {source body rest : Text} (closed : commentBody source = .ok (body, rest)) :
    ∃ interior, body = interior ++ ['*', '/'] ∧ ¬ ['*', '/'] <:+: interior := by
  fun_induction commentBody source generalizing body with
  | case1 after =>
    obtain ⟨rfl, rfl⟩ := Prod.mk.inj (Except.ok.inj closed)
    exact ⟨[], rfl, by simp⟩
  | case2 c after noEarly ih =>
    obtain ⟨inner, found, rfl⟩ := Body.extend_eq_ok.mp closed
    obtain ⟨interior, rfl, clear⟩ := ih found
    refine ⟨c :: interior, rfl, ?_⟩
    intro inside
    rcases List.infix_cons_iff.mp inside with start | later
    · obtain ⟨first, start⟩ := List.cons_prefix_cons.mp start
      obtain ⟨behind, rfl⟩ := start
      have same := commentBody_append found
      exact noEarly (behind ++ ['*', '/'] ++ rest) first.symm (by simpa using same.symm)
    · exact clear later
  | case3 => cases closed

theorem stringBody_complete {interior rest : Text} (escaped : Escaped interior) :
    stringBody (interior ++ '"' :: rest) = .ok (interior ++ ['"'], rest) := by
  induction escaped with
  | nil => simp [stringBody, isNewline]
  | plain notEscape notQuote sameLine more ih =>
    rw [List.cons_append, stringBody.eq_4 _ _ (fun same _ => notEscape same) (fun _ _ same _ => notEscape same)]
    simp [sameLine, notQuote, ih, Body.extend]
  | escape c more ih => simp [stringBody, ih, Body.extend]

theorem stringBody_sound {source body rest : Text} (closed : stringBody source = .ok (body, rest)) :
    ∃ interior, body = interior ++ ['"'] ∧ Escaped interior := by
  fun_induction stringBody source generalizing body with
  | case1 | case2 | case4 => cases closed
  | case3 c after ih =>
    obtain ⟨inner, found, rfl⟩ := Body.extend_eq_ok.mp closed
    obtain ⟨interior, rfl, escaped⟩ := ih found
    exact ⟨'\\' :: c :: interior, rfl, .escape c escaped⟩
  | case5 =>
    obtain ⟨rfl, rfl⟩ := Prod.mk.inj (Except.ok.inj closed)
    exact ⟨[], rfl, .nil⟩
  | case6 c after lone notEscape sameLine notQuote ih =>
    obtain ⟨inner, found, rfl⟩ := Body.extend_eq_ok.mp closed
    obtain ⟨interior, rfl, escaped⟩ := ih found
    have different : c ≠ '\\' := by
      intro same
      cases after with
      | nil => exact lone same rfl
      | cons next after => exact notEscape next after same rfl
    exact ⟨c :: interior, rfl, .plain different notQuote (by simpa using sameLine) escaped⟩

theorem verbatimBody_complete {interior rest : Text} (doubled : Doubled interior) (stops : Stops (· = '"') rest) :
    verbatimBody (interior ++ '"' :: rest) = .ok (interior ++ ['"'], rest) := by
  induction doubled with
  | nil =>
    have single : ∀ after, '"' = '"' → rest = '"' :: after → False := by
      rintro after - rfl
      simpa using stops '"' rfl
    rw [List.nil_append, verbatimBody.eq_3 _ _ single]
    simp
  | plain notQuote more ih =>
    rw [List.cons_append, verbatimBody.eq_3 _ _ (fun _ same _ => notQuote same)]
    simp [notQuote, ih, Body.extend]
  | pair more ih => simp [verbatimBody, ih, Body.extend]

theorem verbatimBody_sound {source body rest : Text} (closed : verbatimBody source = .ok (body, rest)) :
    ∃ interior, body = interior ++ ['"'] ∧ Doubled interior ∧ Stops (· = '"') rest := by
  fun_induction verbatimBody source generalizing body with
  | case1 => cases closed
  | case2 after ih =>
    obtain ⟨inner, found, rfl⟩ := Body.extend_eq_ok.mp closed
    obtain ⟨interior, rfl, doubled, stops⟩ := ih found
    exact ⟨'"' :: '"' :: interior, rfl, .pair doubled, stops⟩
  | case3 after single =>
    obtain ⟨rfl, rfl⟩ := Prod.mk.inj (Except.ok.inj closed)
    refine ⟨[], rfl, .nil, ?_⟩
    intro c first
    by_contra quote
    obtain rfl : c = '"' := by simpa using quote
    obtain ⟨behind, rfl⟩ := List.head?_eq_some_iff.mp first
    exact single behind rfl rfl
  | case4 c after _ notQuote ih =>
    obtain ⟨inner, found, rfl⟩ := Body.extend_eq_ok.mp closed
    obtain ⟨interior, rfl, doubled, stops⟩ := ih found
    exact ⟨c :: interior, rfl, .plain notQuote doubled, stops⟩

theorem charLiteral?_eq_some {source literal rest : Text} :
    charLiteral? source = some (literal, rest) ↔ source = literal ++ rest ∧ CharLiteral literal := by
  constructor
  · intro found
    refine ⟨(charLiteral?_append found).1.symm, ?_⟩
    unfold charLiteral? at found
    split at found
    next c after =>
      obtain ⟨rfl, rfl⟩ := Prod.mk.inj (Option.some.inj found)
      exact .inr ⟨c, rfl⟩
    next c after _ =>
      split at found
      · cases found
      next plain =>
        obtain ⟨rfl, rfl⟩ := Prod.mk.inj (Option.some.inj found)
        simp only [Bool.or_eq_true, decide_eq_true_eq, not_or, Bool.not_eq_true] at plain
        exact .inl ⟨c, rfl, plain.1.1, plain.1.2, plain.2⟩
    next => cases found
  · rintro ⟨rfl, ⟨c, rfl, notEscape, notQuote, sameLine⟩ | ⟨c, rfl⟩⟩
    · simp [charLiteral?, notEscape, notQuote, sameLine]
    · simp [charLiteral?]

/-! White space and lines. -/

theorem whitespace_complete {before text after : Text} (lawful : Whitespace before text after) :
    whitespace (text ++ after) = (text, after) := by
  obtain ⟨_, run, ending, rfl, inside, _, stops, between⟩ := lawful
  rw [whitespace, List.append_assoc, takeWhile_run inside stops, dropWhile_run inside stops, between.scanned]

theorem whitespace_sound {before source : Text} (apart : Apart before source)
    (nonempty : (whitespace source).1 ≠ []) : Whitespace before (whitespace source).1 (whitespace source).2 := by
  have inside : ∀ c ∈ source.takeWhile isHorizontal, isHorizontal c = true := fun c member => List.mem_takeWhile_imp member
  refine ⟨nonempty, source.takeWhile isHorizontal, (terminator (source.dropWhile isHorizontal)).1, rfl, inside, ?_, ?_, ?_⟩
  · intro started c last
    obtain ⟨d, run, begun⟩ := List.exists_cons_of_ne_nil started
    have first : d ∈ source.head? := by
      rw [← List.takeWhile_append_dropWhile (p := isHorizontal) (l := source), begun]
      rfl
    have parted := (apart c (by simpa using last) d first).1
    simpa [inside d (by simp [begun])] using parted
  · simpa only [whitespace, terminator_append] using stops_dropWhile isHorizontal source
  · apply Terminator.ofScanned
    intro lineFeed
    rcases List.eq_nil_or_concat (source.takeWhile isHorizontal) with none | ⟨run, last, equal⟩
    · have whole : source.dropWhile isHorizontal = source := by
        simpa [none] using List.takeWhile_append_dropWhile (p := isHorizontal) (l := source)
      rw [whole] at lineFeed
      rw [none, List.append_nil]
      intro carriageReturn
      exact (apart '\r' carriageReturn '\n' lineFeed).2.2 ⟨rfl, rfl⟩
    · have horizontal := inside last (by simp [equal])
      rw [equal, List.concat_eq_append, ← List.append_assoc, List.getLast?_concat]
      rintro ⟨⟩
      simp [isHorizontal, isNewline] at horizontal

theorem restOfLine_cons {c : Char} (sameLine : isNewline c = false) (rest : Text) :
    restOfLine (c :: rest) = (c :: (restOfLine rest).1, (restOfLine rest).2) := by
  simp [restOfLine, sameLine]

theorem restOfLine_complete {text after : Text} (lawful : ToLineEnd text after) :
    restOfLine (text ++ after) = (text, after) := by
  have inside : ∀ c ∈ text, (!isNewline c) = true := by
    intro c member
    simp [lawful.1 c member]
  have stops : Stops (!isNewline ·) after := by
    intro c first
    simp [lawful.2 c first]
  rw [restOfLine, takeWhile_run inside stops, dropWhile_run inside stops]

theorem restOfLine_sound (source : Text) : ToLineEnd (restOfLine source).1 (restOfLine source).2 := by
  constructor
  · intro c member
    simpa using List.mem_takeWhile_imp member
  · intro c first
    simpa using stops_dropWhile _ source c first

/-! Trivia and tokens. -/

private theorem ofBody_ne_nothing {kind : κ} {opening : Text} {cause : Cause} {body : Body} :
    ofBody kind opening cause body ≠ .nothing := by
  cases body <;> simp [ofBody]

/-- No trivia is at the front exactly where no rule for trivia lets a piece begin. -/
theorem trivia_eq_nothing {directives : Bool} {c : Char} {after : Text} :
    trivia directives (c :: after) = .nothing ↔
      isSpace c = false ∧ ¬ (c = '/' ∧ (after.head? = some '/' ∨ after.head? = some '*')) ∧
      ¬ (c = '#' ∧ directives = true ∧ ∃ letter ∈ after.head?, isAlphabetic letter = true) := by
  generalize equal : c :: after = source
  unfold trivia
  split
  · cases equal
  · cases equal
    simp
  · cases equal
    simp [ofBody_ne_nothing]
  next letter rest =>
    cases equal
    have notSpace : isSpace '#' = false := by decide
    split
    next opens => simpa [notSpace] using opens
    next stays => simpa [notSpace] using stays
  next other rest notLine notBlock notHash =>
    cases equal
    split
    next space => simp [space]
    next notSpace =>
      refine iff_of_true rfl ⟨by simpa using notSpace, ?_, ?_⟩
      · rintro ⟨slash, opens | opens⟩
        · obtain ⟨body, rfl⟩ := List.head?_eq_some_iff.mp opens
          exact notLine body slash rfl
        · obtain ⟨body, rfl⟩ := List.head?_eq_some_iff.mp opens
          exact notBlock body slash rfl
      · rintro ⟨hash, -, letter, first, -⟩
        obtain ⟨body, rfl⟩ := List.head?_eq_some_iff.mp first
        exact notHash letter body hash rfl

theorem trivia_of_space {directives : Bool} {c : Char} (space : isSpace c = true) (after : Text) :
    trivia directives (c :: after) =
      .piece .whitespace (whitespace (c :: after)).1 (whitespace (c :: after)).2 := by
  generalize equal : c :: after = source
  unfold trivia
  split
  · cases equal
  · cases equal
    simp [isSpace] at space
  · cases equal
    simp [isSpace] at space
  · cases equal
    simp [isSpace] at space
  · cases equal
    rw [if_pos space]

theorem trivia_complete {directives : Bool} {kind : TriviaKind} {before text after : Text}
    (lawful : (PieceKind.trivia kind).Lawful before text after) (allowed : LineStart before → directives = true) :
    trivia directives (text ++ after) = .piece kind text after := by
  cases kind with
  | whitespace =>
    have scanned := whitespace_complete lawful
    obtain ⟨c, rest, rfl⟩ := List.exists_cons_of_ne_nil lawful.1
    rw [List.cons_append] at scanned ⊢
    rw [trivia_of_space (lawful.spaces c (by simp)), scanned]
  | lineComment =>
    obtain ⟨body, rfl, lineEnd⟩ := lawful
    change Scan.piece TriviaKind.lineComment ('/' :: '/' :: (restOfLine (body ++ after)).1) (restOfLine (body ++ after)).2 = _
    rw [restOfLine_complete lineEnd]
  | blockComment =>
    obtain ⟨interior, rfl, clear⟩ := lawful
    rw [List.append_assoc, List.append_assoc]
    change ofBody TriviaKind.blockComment ['/', '*'] .openComment (commentBody (interior ++ '*' :: '/' :: after)) = _
    rw [commentBody_complete clear, ofBody, List.append_assoc]
  | directive =>
    obtain ⟨start, c, body, rfl, letter, lineEnd⟩ := lawful
    change (if directives && isAlphabetic c then
      Scan.piece TriviaKind.directive ('#' :: (restOfLine ((c :: body) ++ after)).1) (restOfLine ((c :: body) ++ after)).2
      else .nothing) = _
    rw [restOfLine_complete lineEnd, allowed start, letter]
    rfl

theorem trivia_sound {directives : Bool} {kind : TriviaKind} {before source text after : Text}
    (scanned : trivia directives source = .piece kind text after) (apart : Apart before source)
    (allowed : directives = true → LineStart before) : (PieceKind.trivia kind).Lawful before text after := by
  have nonempty := (trivia_piece scanned).2
  unfold trivia at scanned
  split at scanned
  · cases scanned
  next rest =>
    obtain ⟨rfl, rfl, rfl⟩ := Scan.piece.inj scanned
    exact ⟨(restOfLine rest).1, rfl, restOfLine_sound rest⟩
  next rest =>
    obtain ⟨rfl, inner, closed, rfl⟩ := ofBody_piece scanned
    obtain ⟨interior, rfl, clear⟩ := commentBody_sound closed
    exact ⟨interior, by simp, clear⟩
  next c rest =>
    split at scanned
    next opens =>
      obtain ⟨rfl, rfl, rfl⟩ := Scan.piece.inj scanned
      rw [Bool.and_eq_true] at opens
      have lineEnd := restOfLine_sound (c :: rest)
      rw [restOfLine_cons (not_isNewline_of_isAlphabetic opens.2)] at lineEnd ⊢
      exact ⟨allowed opens.1, c, (restOfLine rest).1, rfl, opens.2, lineEnd⟩
    next => cases scanned
  next c rest _ _ _ =>
    split at scanned
    next space =>
      obtain ⟨rfl, rfl, rfl⟩ := Scan.piece.inj scanned
      exact whitespace_sound apart nonempty
    next => cases scanned

/-- Behind the literals with an opening delimiter, a quoted character comes before words and punctuation. -/
theorem token_of_plain {c : Char} {rest : Text} (notQuote : c ≠ '"')
    (notVerbatim : ¬ (c = '@' ∧ rest.head? = some '"')) :
    token (c :: rest) =
      match charLiteral? (c :: rest) with
      | some (literal, after) => .piece .charLiteral literal after
      | none =>
        if isWordChar c then .piece .word (c :: rest.takeWhile isWordChar) (rest.dropWhile isWordChar)
        else .piece .punctuation [c] rest := by
  exact token.eq_4 _ _ notQuote (fun body sign quote => notVerbatim ⟨sign, by rw [quote]; rfl⟩)

private theorem charLiteral?_of_ne {c : Char} (notQuote : c ≠ '\x27') (rest : Text) : charLiteral? (c :: rest) = none := by
  simp [charLiteral?, notQuote]

theorem token_complete {kind : TokenKind} {before text after : Text}
    (lawful : (PieceKind.token kind).Lawful before text after) : token (text ++ after) = .piece kind text after := by
  cases kind with
  | word =>
    obtain ⟨nonempty, inside, _, stops⟩ := lawful
    obtain ⟨c, rest, rfl⟩ := List.exists_cons_of_ne_nil nonempty
    have wordChar := inside c (by simp)
    have within : ∀ d ∈ rest, isWordChar d = true := fun d member => inside d (by simp [member])
    have different (d : Char) (outside : isWordChar d = false) : c ≠ d := by
      rintro rfl
      simp [outside] at wordChar
    rw [List.cons_append, token_of_plain (different '"' (by decide)) (fun verbatim => different '@' (by decide) verbatim.1),
      charLiteral?_of_ne (different '\x27' (by decide))]
    simp [wordChar, takeWhile_run within stops, dropWhile_run within stops]
  | stringLiteral =>
    rcases lawful with ⟨interior, escaped, rfl⟩ | ⟨interior, doubled, rfl, stops⟩
    · simp [token, ofBody, stringBody_complete escaped]
    · simp [token, ofBody, verbatimBody_complete doubled stops]
  | charLiteral =>
    have found : charLiteral? (text ++ after) = some (text, after) := charLiteral?_eq_some.mpr ⟨rfl, lawful⟩
    rcases lawful with ⟨c, rfl, _⟩ | ⟨c, rfl⟩
    all_goals
      simp only [List.cons_append] at found ⊢
      rw [token_of_plain (by decide) (by simp), found]
  | punctuation =>
    obtain ⟨c, rfl, _, notWord, notQuote, _, notVerbatim, _, noLiteral⟩ := lawful
    have none : charLiteral? (c :: after) = none := by
      apply Option.eq_none_iff_forall_ne_some.mpr
      rintro ⟨literal, rest⟩ found
      obtain ⟨equal, lawful⟩ := charLiteral?_eq_some.mp found
      exact noLiteral literal rest equal lawful
    rw [List.singleton_append, token_of_plain notQuote notVerbatim, none]
    simp [notWord]
  | endOfFile => exact lawful.elim

/-- A lawful token stands where no trivia begins, so the scanners never dispute a piece. -/
theorem trivia_of_token {directives : Bool} {kind : TokenKind} {before text after : Text}
    (lawful : (PieceKind.token kind).Lawful before text after) (allowed : directives = true → LineStart before) :
    trivia directives (text ++ after) = .nothing := by
  have plain {c : Char} {rest : Text} (notSpace : isSpace c = false) (notSlash : c ≠ '/') (notHash : c ≠ '#') :
      trivia directives (c :: rest) = .nothing :=
    trivia_eq_nothing.mpr ⟨notSpace, fun opens => notSlash opens.1, fun opens => notHash opens.1⟩
  cases kind with
  | word =>
    obtain ⟨c, rest, rfl⟩ := List.exists_cons_of_ne_nil lawful.1
    have wordChar := lawful.2.1 c (by simp)
    refine plain (not_isSpace_of_isWordChar wordChar) ?_ ?_
    all_goals
      rintro rfl
      revert wordChar
      decide
  | stringLiteral =>
    rcases lawful with ⟨interior, _, rfl⟩ | ⟨interior, _, rfl, _⟩
    all_goals exact plain (by decide) (by decide) (by decide)
  | charLiteral =>
    rcases lawful with ⟨c, rfl, _⟩ | ⟨c, rfl⟩
    all_goals exact plain (by decide) (by decide) (by decide)
  | punctuation =>
    obtain ⟨c, rfl, notSpace, _, _, notComment, _, notDirective, _⟩ := lawful
    refine trivia_eq_nothing.mpr ⟨notSpace, notComment, ?_⟩
    rintro ⟨hash, fresh, letter⟩
    exact notDirective ⟨hash, allowed fresh, letter⟩
  | endOfFile => exact lawful.elim

theorem token_sound {directives : Bool} {kind : TokenKind} {before source text after : Text}
    (scanned : token source = .piece kind text after) (quiet : trivia directives source = .nothing)
    (apart : Apart before source) (allowed : LineStart before → directives = true) :
    (PieceKind.token kind).Lawful before text after := by
  cases source with
  | nil => cases scanned
  | cons c rest =>
    obtain ⟨notSpace, notComment, notDirective⟩ := trivia_eq_nothing.mp quiet
    by_cases quote : c = '"'
    · subst c
      obtain ⟨rfl, inner, closed, rfl⟩ := ofBody_piece scanned
      obtain ⟨interior, rfl, escaped⟩ := stringBody_sound closed
      exact .inl ⟨interior, escaped, rfl⟩
    by_cases verbatim : c = '@' ∧ rest.head? = some '"'
    · obtain ⟨rfl, first⟩ := verbatim
      obtain ⟨body, rfl⟩ := List.head?_eq_some_iff.mp first
      obtain ⟨rfl, inner, closed, rfl⟩ := ofBody_piece scanned
      obtain ⟨interior, rfl, doubled, stops⟩ := verbatimBody_sound closed
      exact .inr ⟨interior, doubled, rfl, stops⟩
    rw [token_of_plain quote verbatim] at scanned
    split at scanned
    next literal behind found =>
      obtain ⟨rfl, rfl, rfl⟩ := Scan.piece.inj scanned
      exact (charLiteral?_eq_some.mp found).2
    next none =>
      split at scanned
      next wordChar =>
        obtain ⟨rfl, rfl, rfl⟩ := Scan.piece.inj scanned
        refine ⟨by simp, ?_, ?_, stops_dropWhile isWordChar rest⟩
        · intro d member
          rcases List.mem_cons.mp member with rfl | member
          · exact wordChar
          · exact List.mem_takeWhile_imp member
        · intro d last
          have parted := (apart d (by simpa using last) c rfl).2.1
          simpa [wordChar] using parted
      next notWord =>
        obtain ⟨rfl, rfl, rfl⟩ := Scan.piece.inj scanned
        refine ⟨c, rfl, notSpace, by simpa using notWord, quote, notComment, verbatim, ?_, ?_⟩
        · rintro ⟨hash, start, letter⟩
          exact notDirective ⟨hash, allowed start, letter⟩
        · intro literal behind equal lawful
          rw [charLiteral?_eq_some.mpr ⟨equal, lawful⟩] at none
          cases none

/-- The piece at the front: trivia if there is any, else a token. -/
def first (fresh : Bool) (source : Text) : Scan PieceKind :=
  match trivia fresh source with
  | .piece kind text rest => .piece (.trivia kind) text rest
  | .unfinished cause scanned => .unfinished cause scanned
  | .nothing =>
    match token source with
    | .piece kind text rest => .piece (.token kind) text rest
    | .unfinished cause scanned => .unfinished cause scanned
    | .nothing => .nothing

theorem first_of_trivia {fresh : Bool} {source text rest : Text} {kind : TriviaKind}
    (scanned : trivia fresh source = .piece kind text rest) : first fresh source = .piece (.trivia kind) text rest := by
  simp [first, scanned]

theorem first_of_token {fresh : Bool} {source text rest : Text} {kind : TokenKind}
    (quiet : trivia fresh source = .nothing) (scanned : token source = .piece kind text rest) :
    first fresh source = .piece (.token kind) text rest := by
  simp [first, quiet, scanned]

theorem first_piece {fresh : Bool} {source text rest : Text} {kind : PieceKind}
    (scanned : first fresh source = .piece kind text rest) : text ++ rest = source ∧ text ≠ [] := by
  unfold first at scanned
  split at scanned
  next found =>
    obtain ⟨_, rfl, rfl⟩ := Scan.piece.inj scanned
    exact trivia_piece found
  next => cases scanned
  next quiet =>
    split at scanned
    next found =>
      obtain ⟨_, rfl, rfl⟩ := Scan.piece.inj scanned
      exact token_piece found
    next => cases scanned
    next => cases scanned

/-- Both scanners together accept exactly the grammar. -/
theorem first_eq_piece {before source text after : Text} {kind : PieceKind} (apart : Apart before source) :
    first before.freshAfter source = .piece kind text after ↔
      source = text ++ after ∧ kind.Lawful before text after := by
  constructor
  · intro scanned
    refine ⟨(first_piece scanned).1.symm, ?_⟩
    unfold first at scanned
    split at scanned
    next found =>
      obtain ⟨rfl, rfl, rfl⟩ := Scan.piece.inj scanned
      exact trivia_sound found apart freshAfter_iff.mp
    next => cases scanned
    next quiet =>
      split at scanned
      next found =>
        obtain ⟨rfl, rfl, rfl⟩ := Scan.piece.inj scanned
        exact token_sound found quiet apart freshAfter_iff.mpr
      next => cases scanned
      next => cases scanned
  · rintro ⟨rfl, lawful⟩
    cases kind with
    | trivia kind => exact first_of_trivia (trivia_complete lawful freshAfter_iff.mpr)
    | token kind => exact first_of_token (trivia_of_token lawful freshAfter_iff.mp) (token_complete lawful)

end Scan

end Literate
