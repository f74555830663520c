import Literate.Proofs.ScannerRules

/-! The scanners on a text without carriage returns and on the same text with one in front of every
line feed. They find the same pieces up to their terminators. The one exception is an escape between
quotes: it covers a single character, so that it takes the carriage return and leaves the line feed. -/

namespace Literate

open Text

namespace Text

/-- Every line feed with a carriage return in front of it. -/
def crlf (text : Text) : Text := text.flatMap fun c => if c = '\n' then ['\r', '\n'] else [c]

@[simp] theorem crlf_nil : crlf [] = [] := rfl

@[simp] theorem crlf_lineFeed (text : Text) : crlf ('\n' :: text) = '\r' :: '\n' :: crlf text := rfl

theorem crlf_cons {c : Char} (other : c ≠ '\n') (text : Text) : crlf (c :: text) = c :: crlf text := by
  simp [crlf, other]

@[simp] theorem crlf_append (front back : Text) : crlf (front ++ back) = crlf front ++ crlf back := by
  simp [crlf]

theorem crlf_of_not_mem {text : Text} (single : '\n' ∉ text) : crlf text = text := by
  induction text with
  | nil => rfl
  | cons c text ih =>
    rw [List.mem_cons, not_or] at single
    rw [crlf_cons (Ne.symm single.1), ih single.2]

/-- Only a carriage return can come to the front. -/
theorem crlf_eq_cons {text rest : Text} {c : Char} (notReturn : c ≠ '\r') (equal : crlf text = c :: rest) :
    ∃ behind, text = c :: behind ∧ rest = crlf behind := by
  cases text with
  | nil => cases equal
  | cons d text =>
    by_cases feed : d = '\n'
    · subst feed
      exact absurd (List.cons.inj equal).1.symm notReturn
    · rw [crlf_cons feed] at equal
      obtain ⟨rfl, rfl⟩ := List.cons.inj equal
      exact ⟨text, rfl, rfl⟩

theorem head?_crlf {text : Text} {c : Char} (notReturn : c ≠ '\r') (notFeed : c ≠ '\n') :
    (crlf text).head? = some c ↔ text.head? = some c := by
  constructor
  · intro first
    obtain ⟨rest, equal⟩ := List.head?_eq_some_iff.mp first
    obtain ⟨behind, rfl, _⟩ := crlf_eq_cons notReturn equal
    rfl
  · intro first
    obtain ⟨rest, rfl⟩ := List.head?_eq_some_iff.mp first
    rw [crlf_cons notFeed]
    rfl

theorem getLast?_crlf (text : Text) : (crlf text).getLast? = text.getLast? := by
  rcases List.eq_nil_or_concat' text with rfl | ⟨front, c, rfl⟩
  · rfl
  · rw [crlf_append]
    by_cases feed : c = '\n'
    · subst feed
      simp
    · rw [crlf_cons feed]
      simp

section

variable {test : Char → Bool} (noFeed : test '\n' = false) (noReturn : test '\r' = false)

include noFeed noReturn

theorem takeWhile_crlf (text : Text) : (crlf text).takeWhile test = crlf (text.takeWhile test) := by
  induction text with
  | nil => rfl
  | cons c text ih =>
    by_cases feed : c = '\n'
    · subst feed
      simp [noFeed, noReturn]
    · rw [crlf_cons feed]
      by_cases inside : test c = true
      · simp [inside, ih, crlf_cons feed]
      · simp [inside]

theorem dropWhile_crlf (text : Text) : (crlf text).dropWhile test = crlf (text.dropWhile test) := by
  induction text with
  | nil => rfl
  | cons c text ih =>
    by_cases feed : c = '\n'
    · subst feed
      simp [noFeed, noReturn]
    · rw [crlf_cons feed]
      by_cases inside : test c = true
      · simp [inside, ih]
      · simp [inside, crlf_cons feed]

end

theorem terminator_crlf {text : Text} (unix : '\r' ∉ text) :
    terminator (crlf text) = (crlf (terminator text).1, crlf (terminator text).2) := by
  fun_cases terminator text with
  | case1 rest => simp at unix
  | case2 c rest _ newline =>
    have notReturn : c ≠ '\r' := by
      rintro rfl
      simp at unix
    obtain rfl : c = '\n' := by simpa [isNewline, notReturn] using newline
    rfl
  | case3 c rest _ stays =>
    have other : c ≠ '\n' := by
      rintro rfl
      simp [isNewline] at stays
    have notReturn : c ≠ '\r' := by
      rintro rfl
      simp [isNewline] at stays
    rw [crlf_cons other, terminator]
    · simp [stays]
    · simp [notReturn]
  | case4 => rfl

end Text

namespace Scan

theorem whitespace_crlf {text : Text} (unix : '\r' ∉ text) :
    whitespace (crlf text) = (crlf (whitespace text).1, crlf (whitespace text).2) := by
  have later : '\r' ∉ text.dropWhile isHorizontal := fun member => unix (List.dropWhile_sublist _ |>.mem member)
  rw [whitespace, whitespace, takeWhile_crlf (by decide) (by decide), dropWhile_crlf (by decide) (by decide),
    terminator_crlf later]
  simp

theorem restOfLine_crlf (text : Text) : restOfLine (crlf text) = (crlf (restOfLine text).1, crlf (restOfLine text).2) := by
  rw [restOfLine, restOfLine, takeWhile_crlf (by decide) (by decide), dropWhile_crlf (by decide) (by decide)]

def Body.crlf : Body → Body
  | .ok (body, rest) => .ok (body.crlf, rest.crlf)
  | .error followed => .error followed.crlf

theorem Body.crlf_extend (scanned : Text) (body : Body) : (body.extend scanned).crlf = body.crlf.extend scanned.crlf := by
  cases body <;> simp [extend, crlf]

theorem Body.extend_extend (first second : Text) (body : Body) :
    (body.extend second).extend first = body.extend (first ++ second) := by
  cases body <;> simp [extend]

theorem commentBody_crlf (text : Text) : commentBody text.crlf = (commentBody text).crlf := by
  fun_induction commentBody text with
  | case1 rest => rfl
  | case2 c rest unclosed ih =>
    rw [Body.crlf_extend, ← ih]
    by_cases feed : c = '\n'
    · subst feed
      rw [crlf_lineFeed, commentBody.eq_2 _ _ (by simp), commentBody.eq_2 _ _ (by simp), Body.extend_extend]
      rfl
    · have stays : ∀ after, c = '*' → crlf rest = '/' :: after → False := by
        intro after star slash
        obtain ⟨behind, rfl, _⟩ := crlf_eq_cons (by decide) slash
        exact unclosed behind star rfl
      rw [crlf_cons feed, commentBody.eq_2 _ _ stays, crlf_cons feed]
      rfl
  | case3 => rfl

theorem verbatimBody_crlf (text : Text) : verbatimBody text.crlf = (verbatimBody text).crlf := by
  fun_induction verbatimBody text with
  | case1 => rfl
  | case2 rest ih =>
    rw [Body.crlf_extend, ← ih]
    rfl
  | case3 rest single =>
    have stays : ∀ after, '"' = '"' → crlf rest = '"' :: after → False := by
      intro after _ quote
      obtain ⟨behind, rfl, _⟩ := crlf_eq_cons (by decide) quote
      exact single behind rfl rfl
    rw [crlf_cons (by decide), verbatimBody.eq_3 _ _ stays, if_pos rfl]
    rfl
  | case4 c rest _ notQuote ih =>
    rw [Body.crlf_extend, ← ih]
    by_cases feed : c = '\n'
    · subst feed
      rw [crlf_lineFeed, verbatimBody.eq_3 _ _ (by simp), if_neg (by decide), verbatimBody.eq_3 _ _ (by simp),
        if_neg (by decide), Body.extend_extend]
      rfl
    · rw [crlf_cons feed, verbatimBody.eq_3 _ _ (fun _ quote _ => notQuote quote), if_neg notQuote, crlf_cons feed]
      rfl

theorem Body.toOption_extend (scanned : Text) (body : Body) :
    (body.extend scanned).toOption = body.toOption.map fun closed => (scanned ++ closed.1, closed.2) := by
  cases body <;> rfl

/-- A string that goes on behind an escaped line feed ends at the escaped carriage return. -/
theorem stringBody_crlf {text : Text} (unix : '\r' ∉ text) :
    (stringBody text.crlf).toOption =
      ((stringBody text).toOption.filter ('\n' ∉ ·.1)).map fun closed => (closed.1, closed.2.crlf) := by
  fun_induction stringBody text with
  | case1 => rfl
  | case2 => rfl
  | case3 c rest ih =>
    rw [List.mem_cons, List.mem_cons, not_or, not_or] at unix
    rw [crlf_cons (by decide)]
    by_cases feed : c = '\n'
    · subst feed
      have stops : stringBody ('\n' :: crlf rest) = .error [] := rfl
      rw [crlf_lineFeed, stringBody, stops, Body.toOption_extend, Body.toOption_extend]
      cases (stringBody rest).toOption <;> simp [Except.toOption, Option.filter]
    · rw [crlf_cons feed, stringBody, Body.toOption_extend, Body.toOption_extend, ih unix.2.2]
      cases (stringBody rest).toOption with
      | none => rfl
      | some closed => by_cases inside : '\n' ∈ closed.1 <;> simp [Option.filter, inside, Ne.symm feed]
  | case4 c rest _ _ newline =>
    have notReturn : c ≠ '\r' := by
      rintro rfl
      simp at unix
    obtain rfl : c = '\n' := by simpa [isNewline, notReturn] using newline
    rfl
  | case5 rest =>
    rw [crlf_cons (by decide)]
    rfl
  | case6 c rest notLast notEscape sameLine notQuote ih =>
    have feed : c ≠ '\n' := by
      rintro rfl
      exact sameLine rfl
    rw [List.mem_cons, not_or] at unix
    have plain : c ≠ '\\' := by
      intro escape
      cases rest with
      | nil => exact notLast escape rfl
      | cons next rest => exact notEscape next rest escape rfl
    rw [crlf_cons feed, stringBody.eq_4 _ _ (fun escape _ => plain escape) (fun _ _ escape _ => plain escape),
      if_neg sameLine, if_neg notQuote, Body.toOption_extend, Body.toOption_extend, ih unix.2]
    cases (stringBody rest).toOption with
    | none => rfl
    | some closed => by_cases inside : '\n' ∈ closed.1 <;> simp [Option.filter, inside, Ne.symm feed]

/-- A literal of one line has its quotes at the same places, and a longer one is a literal no more. -/
theorem charLiteral?_crlf (text : Text) :
    charLiteral? text.crlf =
      ((charLiteral? text).filter ('\n' ∉ ·.1)).map fun found => (found.1, found.2.crlf) := by
  apply Option.ext
  intro ⟨literal, after⟩
  rw [charLiteral?_eq_some, Option.map_eq_some_iff]
  constructor
  · rintro ⟨whole, ⟨c, rfl, notEscape, notQuote, sameLine⟩ | ⟨c, rfl⟩⟩
    · have notReturn : c ≠ '\r' := by
        rintro rfl
        cases sameLine
      have notFeed : c ≠ '\n' := by
        rintro rfl
        cases sameLine
      obtain ⟨_, rfl, first⟩ := crlf_eq_cons (by decide) whole
      obtain ⟨_, rfl, second⟩ := crlf_eq_cons notReturn first.symm
      obtain ⟨rest, rfl, third⟩ := crlf_eq_cons (by decide) second.symm
      refine ⟨(['\x27', c, '\x27'], rest), Option.filter_eq_some_iff.mpr ⟨?_, by simp [Ne.symm notFeed]⟩, Prod.ext rfl third.symm⟩
      exact charLiteral?_eq_some.mpr ⟨rfl, .inl ⟨c, rfl, notEscape, notQuote, sameLine⟩⟩
    · obtain ⟨_, rfl, first⟩ := crlf_eq_cons (by decide) whole
      obtain ⟨behind, rfl, second⟩ := crlf_eq_cons (by decide) first.symm
      cases behind with
      | nil => cases second
      | cons d behind =>
        by_cases feed : d = '\n'
        · -- The escaped character would be the carriage return, and the quote the line feed.
          subst feed
          simp at second
        · rw [crlf_cons feed] at second
          obtain ⟨rfl, last⟩ := List.cons.inj second
          obtain ⟨rest, rfl, third⟩ := crlf_eq_cons (by decide) last.symm
          refine ⟨(['\x27', '\\', c, '\x27'], rest), Option.filter_eq_some_iff.mpr ⟨?_, by simp [Ne.symm feed]⟩, Prod.ext rfl third.symm⟩
          exact charLiteral?_eq_some.mpr ⟨rfl, .inr ⟨c, rfl⟩⟩
  · rintro ⟨⟨found, rest⟩, kept, same⟩
    obtain ⟨scanned, single⟩ := Option.filter_eq_some_iff.mp kept
    obtain ⟨rfl, lawful⟩ := charLiteral?_eq_some.mp scanned
    obtain ⟨rfl, rfl⟩ := Prod.mk.inj same
    rw [crlf_append, crlf_of_not_mem (by simpa using single)]
    exact ⟨rfl, lawful⟩

def crlf : Scan κ → Scan κ
  | piece kind text rest => piece kind text.crlf rest.crlf
  | nothing => nothing
  | unfinished cause followed => unfinished cause followed.crlf

theorem crlf_ofBody (kind : κ) {opening : Text} (single : '\n' ∉ opening) (cause : Cause) (body : Body) :
    ofBody kind opening cause body.crlf = (ofBody kind opening cause body).crlf := by
  cases body <;> simp [ofBody, Body.crlf, crlf, crlf_of_not_mem single]

private theorem quiet_crlf {directives : Bool} {c : Char} {rest : Text}
    (quiet : trivia directives (c :: rest) = .nothing) : trivia directives (Text.crlf (c :: rest)) = .nothing := by
  obtain ⟨notSpace, notComment, notDirective⟩ := trivia_eq_nothing.mp quiet
  have feed : c ≠ '\n' := by
    rintro rfl
    cases notSpace
  rw [crlf_cons feed]
  refine trivia_eq_nothing.mpr ⟨notSpace, ?_, ?_⟩
  · rwa [head?_crlf (by decide) (by decide), head?_crlf (by decide) (by decide)]
  · rintro ⟨hash, allowed, letter, first, alphabetic⟩
    have sameLine := not_isNewline_of_isAlphabetic alphabetic
    have before : rest.head? = some letter := by
      refine (head?_crlf ?_ ?_).mp first
      all_goals
        rintro rfl
        cases sameLine
    exact notDirective ⟨hash, allowed, letter, before, alphabetic⟩

-- The branches of the scanner that the proof below meets again on the other side.

private theorem trivia_lineComment (directives : Bool) (rest : Text) : trivia directives ('/' :: '/' :: rest) =
    .piece .lineComment ('/' :: '/' :: (restOfLine rest).1) (restOfLine rest).2 := rfl

private theorem trivia_blockComment (directives : Bool) (rest : Text) : trivia directives ('/' :: '*' :: rest) =
    ofBody .blockComment ['/', '*'] .openComment (commentBody rest) := rfl

private theorem trivia_directive {directives : Bool} {c : Char} (opens : (directives && isAlphabetic c) = true)
    (rest : Text) : trivia directives ('#' :: c :: rest) =
      .piece .directive ('#' :: (restOfLine (c :: rest)).1) (restOfLine (c :: rest)).2 :=
  if_pos opens

theorem trivia_crlf {text : Text} (unix : '\r' ∉ text) (directives : Bool) :
    trivia directives text.crlf = (trivia directives text).crlf := by
  generalize scanned : trivia directives text = found
  have whole := scanned
  unfold trivia at scanned
  split at scanned
  next =>
    subst scanned
    rfl
  next rest =>
    subst scanned
    rw [crlf_cons (by decide), crlf_cons (by decide), trivia_lineComment, restOfLine_crlf]
    rfl
  next rest =>
    subst scanned
    rw [crlf_cons (by decide), crlf_cons (by decide), trivia_blockComment, commentBody_crlf]
    exact crlf_ofBody _ (by decide) _ _
  next c rest =>
    by_cases opens : (directives && isAlphabetic c) = true
    · rw [if_pos opens] at scanned
      subst scanned
      have feed : c ≠ '\n' := by
        rintro rfl
        simp [show isAlphabetic '\n' = false from by decide] at opens
      have line := restOfLine_crlf (c :: rest)
      rw [crlf_cons feed] at line
      rw [crlf_cons (by decide), crlf_cons feed, trivia_directive opens, line]
      rfl
    · rw [if_neg opens] at scanned
      subst scanned
      exact quiet_crlf whole
  next c rest _ _ _ =>
    by_cases space : isSpace c = true
    · rw [if_pos space] at scanned
      subst scanned
      have cut := whitespace_crlf unix
      by_cases feed : c = '\n'
      · subst feed
        rw [crlf_lineFeed] at cut ⊢
        rw [trivia_of_space (by decide), cut]
        rfl
      · rw [crlf_cons feed] at cut ⊢
        rw [trivia_of_space space, cut]
        rfl
    · rw [if_neg space] at scanned
      subst scanned
      exact quiet_crlf whole

end Scan

/-- A quoted literal with a line feed in it, which can only stand behind a backslash. Verbatim
strings span lines without one. -/
def TokenKind.Continues (kind : TokenKind) (text : Text) : Prop :=
  (kind = .stringLiteral ∨ kind = .charLiteral) ∧ text.head? ≠ some '@' ∧ '\n' ∈ text

instance (kind : TokenKind) (text : Text) : Decidable (kind.Continues text) :=
  inferInstanceAs (Decidable (_ ∧ _ ∧ _))

namespace Scan

/-- What the scanner for tokens finds without carriage returns, and what it finds with one in
front of every line feed. -/
inductive TokenInCrlf : Scan TokenKind → Scan TokenKind → Prop where
  | nothing : TokenInCrlf .nothing .nothing
  | unfinished {cause followed other} : TokenInCrlf (.unfinished cause followed) (.unfinished cause other)
  | piece {kind text rest} (whole : ¬ kind.Continues text) :
      TokenInCrlf (.piece kind text rest) (.piece kind text.crlf rest.crlf)
  /-- The carriage return is escaped in place of the line feed, which then ends the line. -/
  | brokenString {text rest cause followed} (long : TokenKind.stringLiteral.Continues text) :
      TokenInCrlf (.piece .stringLiteral text rest) (.unfinished cause followed)
  /-- The terminator is one character too long to stand between quotes. -/
  | brokenChar {rest} : TokenInCrlf (.piece .charLiteral ['\x27', '\\', '\n', '\x27'] rest)
      (.piece .punctuation ['\x27'] ('\\' :: '\r' :: '\n' :: '\x27' :: rest.crlf))

private theorem TokenInCrlf.single {kind : TokenKind} {text : Text} (single : '\n' ∉ text) (rest : Text) :
    TokenInCrlf (.piece kind text rest) (.piece kind text rest.crlf) := by
  have found : TokenInCrlf (.piece kind text rest) (.piece kind text.crlf rest.crlf) :=
    .piece fun continues => single continues.2.2
  rwa [crlf_of_not_mem single] at found

private theorem string_crlf {text : Text} (unix : '\r' ∉ text) :
    TokenInCrlf (ofBody .stringLiteral ['"'] .openString (stringBody text))
      (ofBody .stringLiteral ['"'] .openString (stringBody text.crlf)) := by
  have closed := stringBody_crlf unix
  cases first : stringBody text with
  | error followed =>
    cases second : stringBody text.crlf with
    | error other => exact .unfinished
    | ok found => simp [first, second, Except.toOption] at closed
  | ok found =>
    obtain ⟨inner, rest⟩ := found
    by_cases long : '\n' ∈ inner
    · cases second : stringBody text.crlf with
      | error other => exact .brokenString ⟨.inl rfl, by simp, by simp [long]⟩
      | ok found => simp [first, second, Except.toOption, Option.filter, long] at closed
    · cases second : stringBody text.crlf with
      | error other => simp [first, second, Except.toOption, Option.filter, long] at closed
      | ok found =>
        obtain rfl : found = (inner, rest.crlf) := by
          simpa [first, second, Except.toOption, Option.filter, long] using closed
        exact .single (by simp [long]) rest

theorem token_crlf {text : Text} (unix : '\r' ∉ text) (sameLine : text.head? ≠ some '\n') :
    TokenInCrlf (token text) (token text.crlf) := by
  cases text with
  | nil => exact .nothing
  | cons c rest =>
    rw [List.mem_cons, not_or] at unix
    have feed : c ≠ '\n' := fun same => sameLine (congrArg some same)
    rw [crlf_cons feed]
    by_cases quote : c = '"'
    · subst quote
      exact string_crlf unix.2
    by_cases verbatim : c = '@' ∧ rest.head? = some '"'
    · obtain ⟨rfl, first⟩ := verbatim
      obtain ⟨body, rfl⟩ := List.head?_eq_some_iff.mp first
      rw [crlf_cons (by decide), token, token, verbatimBody_crlf, crlf_ofBody _ (by decide)]
      cases verbatimBody body with
      | error followed => exact .unfinished
      | ok found => exact .piece fun continues => continues.2.1 rfl
    have plain : ¬ (c = '@' ∧ (Text.crlf rest).head? = some '"') := by rwa [head?_crlf (by decide) (by decide)]
    rw [token_of_plain quote verbatim, token_of_plain quote plain, ← crlf_cons feed, charLiteral?_crlf]
    cases found : charLiteral? (c :: rest) with
    | none =>
      by_cases word : isWordChar c = true
      · simp only [Option.filter_none, Option.map_none, word, if_true]
        rw [takeWhile_crlf (by decide) (by decide), dropWhile_crlf (by decide) (by decide), ← crlf_cons feed]
        refine .piece fun continues => ?_
        rcases continues.1 with string | char
        · cases string
        · cases char
      · simp only [Option.filter_none, Option.map_none, word]
        exact .single (by simpa using Ne.symm feed) rest
    | some literal =>
      obtain ⟨literal, after⟩ := literal
      by_cases long : '\n' ∈ literal
      · obtain ⟨equal, ⟨d, rfl, _, _, short⟩ | ⟨d, rfl⟩⟩ := charLiteral?_eq_some.mp found
        · obtain rfl : '\n' = d := by simpa using long
          cases short
        · obtain rfl : '\n' = d := by simpa using long
          obtain ⟨rfl, rfl⟩ := List.cons.inj equal
          exact .brokenChar
      · simp only [Option.filter, long, not_false_eq_true, decide_true, if_true, Option.map_some]
        exact .single long after

end Scan

end Literate
