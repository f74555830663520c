import Literate.Token.Scan
import Mathlib.Data.List.Infix

/-! The lexical grammar, one rule for each kind of piece. A rule sees the piece, the
text in front of it and the text behind it, and says nothing about how a scanner
finds the piece. The scanners accept exactly the pieces that obey their rule. -/

namespace Literate

open Text

/-- Trivia, or a token without the trivia around it. -/
inductive PieceKind where
  | trivia (kind : TriviaKind)
  | token (kind : TokenKind)
deriving DecidableEq

/-- The text is empty or its first character is outside a class. -/
def Text.Stops (test : Char → Bool) (text : Text) : Prop := ∀ c ∈ text.head?, test c = false

namespace Rule

/-- Only spaces and tabs stand between the last line terminator and the end. -/
def LineStart (before : Text) : Prop :=
  ∃ earlier line, before = earlier ++ line ∧ (∀ c ∈ line, isPad c = true) ∧
    ∀ c ∈ earlier.getLast?, isNewline c = true

/-- The line terminator between two texts, empty if there is none. A carriage return
and the line feed after it are one terminator and are never parted. -/
inductive Terminator (before : Text) : (ending after : Text) → Prop where
  | none {after} (stops : Stops isNewline after) : Terminator before [] after
  | both {after} : Terminator before ['\r', '\n'] after
  | carriageReturn {after} (whole : after.head? ≠ some '\n') : Terminator before ['\r'] after
  | lineFeed {after} (whole : before.getLast? ≠ some '\r') : Terminator before ['\n'] after

/-- A maximal run of horizontal white space with the terminator that follows, or a
terminator alone. -/
def Whitespace (before text after : Text) : Prop :=
  text ≠ [] ∧ ∃ run ending, text = run ++ ending ∧ (∀ c ∈ run, isHorizontal c = true) ∧
    (run ≠ [] → Stops isHorizontal before.reverse) ∧ Stops isHorizontal (ending ++ after) ∧
    Terminator (before ++ run) ending after

/-- The text reaches up to the next line terminator or to the end of the source. -/
def ToLineEnd (text after : Text) : Prop :=
  (∀ c ∈ text, isNewline c = false) ∧ ∀ c ∈ after.head?, isNewline c = true

def LineComment (text after : Text) : Prop :=
  ∃ body, text = '/' :: '/' :: body ∧ ToLineEnd body after

/-- The first closing delimiter behind the opening one ends the comment. -/
def BlockComment (text : Text) : Prop :=
  ∃ interior, text = ['/', '*'] ++ interior ++ ['*', '/'] ∧ ¬ ['*', '/'] <:+: interior

def Directive (before text after : Text) : Prop :=
  LineStart before ∧ ∃ c body, text = '#' :: c :: body ∧ isAlphabetic c = true ∧ ToLineEnd (c :: body) after

def Word (before text after : Text) : Prop :=
  text ≠ [] ∧ (∀ c ∈ text, Scan.isWordChar c = true) ∧ Stops Scan.isWordChar before.reverse ∧
    Stops Scan.isWordChar after

/-- Text in which a backslash escapes the next character, whatever it is, without an
unescaped quote or line terminator. -/
inductive Escaped : Text → Prop where
  | nil : Escaped []
  | plain {c rest} (notEscape : c ≠ '\\') (notQuote : c ≠ '"') (sameLine : isNewline c = false)
      (more : Escaped rest) : Escaped (c :: rest)
  | escape (c) {rest} (more : Escaped rest) : Escaped ('\\' :: c :: rest)

/-- Text in which the quotes, paired from the left, all stand in pairs. -/
inductive Doubled : Text → Prop where
  | nil : Doubled []
  | plain {c rest} (notQuote : c ≠ '"') (more : Doubled rest) : Doubled (c :: rest)
  | pair {rest} (more : Doubled rest) : Doubled ('"' :: '"' :: rest)

def StringLiteral (text after : Text) : Prop :=
  (∃ interior, Escaped interior ∧ text = '"' :: (interior ++ ['"'])) ∨
  ∃ interior, Doubled interior ∧ text = '@' :: '"' :: (interior ++ ['"']) ∧ Stops (· = '"') after

def CharLiteral (text : Text) : Prop :=
  (∃ c, text = ['\x27', c, '\x27'] ∧ c ≠ '\\' ∧ c ≠ '\x27' ∧ isNewline c = false) ∨
  ∃ c, text = ['\x27', '\\', c, '\x27']

/-- A single character that opens no piece of another kind. -/
def Punctuation (before text after : Text) : Prop :=
  ∃ c, text = [c] ∧ isSpace c = false ∧ Scan.isWordChar c = false ∧ c ≠ '"' ∧
    ¬ (c = '/' ∧ (after.head? = some '/' ∨ after.head? = some '*')) ∧
    ¬ (c = '@' ∧ after.head? = some '"') ∧
    ¬ (c = '#' ∧ LineStart before ∧ ∃ letter ∈ after.head?, isAlphabetic letter = true) ∧
    ∀ literal rest, c :: after = literal ++ rest → ¬ CharLiteral literal

end Rule

/-- The rule for pieces of a kind. The end of a source is not a piece of it. -/
def PieceKind.Lawful : PieceKind → (before text after : Text) → Prop
  | .trivia .whitespace, before, text, after => Rule.Whitespace before text after
  | .trivia .lineComment, _, text, after => Rule.LineComment text after
  | .trivia .blockComment, _, text, _ => Rule.BlockComment text
  | .trivia .directive, before, text, after => Rule.Directive before text after
  | .token .word, before, text, after => Rule.Word before text after
  | .token .stringLiteral, _, text, after => Rule.StringLiteral text after
  | .token .charLiteral, _, text, _ => Rule.CharLiteral text
  | .token .punctuation, before, text, after => Rule.Punctuation before text after
  | .token .endOfFile, _, _, _ => False

namespace Text

theorem isNewline_iff {c : Char} : isNewline c = true ↔ c = '\r' ∨ c = '\n' := by simp [isNewline]

theorem isSpace_of_isNewline {c : Char} (newline : isNewline c = true) : isSpace c = true := by
  rcases isNewline_iff.mp newline with rfl | rfl <;> decide

theorem isSpace_of_isHorizontal {c : Char} (horizontal : isHorizontal c = true) : isSpace c = true := by
  simp only [isHorizontal, Bool.and_eq_true] at horizontal
  exact horizontal.1

theorem isHorizontal_of_isPad {c : Char} (pad : isPad c = true) : isHorizontal c = true := by
  have either : c = ' ' ∨ c = '\t' := by simpa [isPad] using pad
  rcases either with rfl | rfl <;> decide

theorem not_isNewline_of_isHorizontal {c : Char} (horizontal : isHorizontal c = true) : isNewline c = false := by
  simp only [isHorizontal, Bool.and_eq_true, Bool.not_eq_true'] at horizontal
  exact horizontal.2

/-- No code point lies in a range of both tables. -/
def Ranges.apart (first second : Ranges) : Bool :=
  first.all fun range => second.all fun other => range.2.blt other.1 || other.2.blt range.1

theorem Ranges.not_holds_of_apart {first second : Ranges} (disjoint : first.apart second = true) {c : Char}
    (inside : second.holds c = true) : first.holds c = false := by
  by_contra both
  obtain ⟨range, member, low, high⟩ := (first.holds_iff c).mp (by simpa using both)
  obtain ⟨other, otherMember, otherLow, otherHigh⟩ := (second.holds_iff c).mp inside
  have parted := List.all_eq_true.mp (List.all_eq_true.mp disjoint range member) other otherMember
  simp only [Bool.or_eq_true, Nat.blt_eq] at parted
  omega

private def wideSpaces : Ranges :=
  [(0x85, 0x85), (0xA0, 0xA0), (0x1680, 0x1680), (0x2000, 0x200A), (0x2028, 0x2029), (0x202F, 0x202F),
   (0x205F, 0x205F), (0x3000, 0x3000)]

/-- White space is neither a letter nor a number, so it never joins a word. -/
theorem not_isWordChar_of_isSpace {c : Char} (space : isSpace c = true) : Scan.isWordChar c = false := by
  simp only [isSpace, Bool.or_eq_true, Bool.and_eq_true, decide_eq_true_eq] at space
  by_cases ascii : c.toNat < 0x80
  · have known : c.toNat ∈ [0x09, 0x0A, 0x0B, 0x0C, 0x0D, 0x20] := by
      simp only [List.mem_cons, List.not_mem_nil, or_false]
      omega
    have outside : ∀ n ∈ [0x09, 0x0A, 0x0B, 0x0C, 0x0D, 0x20], Scan.isWordChar (Char.ofNat n) = false := by decide
    simpa only [Char.ofNat_toNat] using outside c.toNat known
  · have wide : wideSpaces.holds c = true := by
      simp only [Ranges.holds, wideSpaces, List.any_cons, List.any_nil, Bool.or_eq_true, Bool.and_eq_true,
        decide_eq_true_eq]
      omega
    have notLetter : alphabeticRanges.holds c = false := Ranges.not_holds_of_apart (by decide +kernel) wide
    have notNumber : numericRanges.holds c = false := Ranges.not_holds_of_apart (by decide +kernel) wide
    have notLine : c ≠ '_' := by
      rintro rfl
      exact ascii (by decide)
    simp [Scan.isWordChar, isAlphabetic, isNumeric, ascii, notLetter, notNumber, notLine]

theorem not_isSpace_of_isWordChar {c : Char} (word : Scan.isWordChar c = true) : isSpace c = false := by
  by_contra space
  rw [not_isWordChar_of_isSpace (by simpa using space)] at word
  cases word

theorem not_isNewline_of_isAlphabetic {c : Char} (letter : isAlphabetic c = true) : isNewline c = false := by
  have word : Scan.isWordChar c = true := by simp [Scan.isWordChar, letter]
  by_contra newline
  have space := isSpace_of_isNewline (by simpa using newline)
  rw [not_isSpace_of_isWordChar word] at space
  cases space

end Text

/-- What a cursor that has read the text says about the line it is on. -/
def Text.freshAfter (before : Text) : Bool := before.foldl (fun fresh c => isNewline c || fresh && isPad c) true

namespace Rule

private theorem lineStart_concat {before : Text} {c : Char} :
    LineStart (before ++ [c]) ↔ isNewline c = true ∨ LineStart before ∧ isPad c = true := by
  constructor
  · rintro ⟨earlier, line, equal, pads, newline⟩
    rcases List.eq_nil_or_concat line with rfl | ⟨front, last, rfl⟩
    · rw [List.append_nil] at equal
      exact .inl (newline c (by simp [← equal]))
    · rw [List.concat_eq_append] at equal pads
      obtain ⟨rfl, single⟩ := List.append_inj' (equal.trans (List.append_assoc ..).symm) rfl
      obtain rfl : c = last := List.singleton_inj.mp single
      exact .inr ⟨⟨earlier, front, rfl, fun d member => pads d (by simp [member]), newline⟩, pads c (by simp)⟩
  · rintro (newline | ⟨⟨earlier, line, rfl, pads, newline⟩, pad⟩)
    · exact ⟨before ++ [c], [], by simp, by simp, by simpa using newline⟩
    · refine ⟨earlier, line ++ [c], by simp, ?_, newline⟩
      intro d member
      rcases List.mem_append.mp member with member | member
      · exact pads d member
      · rwa [List.mem_singleton.mp member]

theorem freshAfter_iff {before : Text} : before.freshAfter = true ↔ LineStart before := by
  induction before using List.reverseRecOn with
  | nil => exact ⟨fun _ => ⟨[], [], rfl, by simp, by simp⟩, fun _ => rfl⟩
  | append_singleton before c ih =>
    rw [lineStart_concat, ← ih]
    simp [freshAfter]

/-- The texts part where no rule would join the characters on both sides. -/
def Apart (before after : Text) : Prop :=
  ∀ c ∈ before.getLast?, ∀ d ∈ after.head?,
    ¬ (isHorizontal c = true ∧ isHorizontal d = true) ∧
    ¬ (Scan.isWordChar c = true ∧ Scan.isWordChar d = true) ∧ ¬ (c = '\r' ∧ d = '\n')

theorem Terminator.newlines {before ending after : Text} (between : Terminator before ending after) :
    ∀ c ∈ ending, isNewline c = true := by
  cases between <;> simp [isNewline]

theorem Whitespace.spaces {before text after : Text} (lawful : Whitespace before text after) :
    ∀ c ∈ text, isSpace c = true := by
  obtain ⟨_, run, ending, rfl, inside, _, _, between⟩ := lawful
  intro c member
  rcases List.mem_append.mp member with member | member
  · exact isSpace_of_isHorizontal (inside c member)
  · exact isSpace_of_isNewline (between.newlines c member)

private theorem apart_of_last {before text after : Text} {c : Char} (last : c ∈ text.getLast?)
    (notHorizontal : isHorizontal c = false) (notWord : Scan.isWordChar c = false) (notReturn : c ≠ '\r') :
    Apart (before ++ text) after := by
  have nonempty : text ≠ [] := by rintro rfl; cases last
  intro d other
  rw [List.getLast?_append_of_ne_nil _ nonempty] at other
  obtain rfl : c = d := Option.some.inj (last.symm.trans other)
  simp [notHorizontal, notWord, notReturn]

private theorem apart_of_lineEnd {before text after : Text} (nonempty : text ≠ []) (lineEnd : ToLineEnd text after) :
    Apart (before ++ text) after := by
  intro c last d first
  rw [List.getLast?_append_of_ne_nil _ nonempty] at last
  have newline := lineEnd.2 d first
  have space := isSpace_of_isNewline newline
  refine ⟨?_, ?_, ?_⟩
  · simp [isHorizontal, newline]
  · simp [not_isWordChar_of_isSpace space]
  · rintro ⟨rfl, -⟩
    simpa [isNewline] using lineEnd.1 '\r' (List.mem_of_getLast? last)

private theorem Whitespace.apart {before text after : Text} (lawful : Whitespace before text after) :
    Apart (before ++ text) after := by
  obtain ⟨nonempty, run, ending, rfl, inside, _, stops, between⟩ := lawful
  cases between with
  | none =>
    rw [List.append_nil] at nonempty
    intro c last d first
    rw [List.append_nil, List.getLast?_append_of_ne_nil _ nonempty] at last
    have horizontal := inside c (List.mem_of_getLast? last)
    refine ⟨?_, ?_, ?_⟩
    · simp [stops d first]
    · simp [not_isWordChar_of_isSpace (isSpace_of_isHorizontal horizontal)]
    · rintro ⟨rfl, -⟩
      simp [isHorizontal, isNewline] at horizontal
  | both => exact apart_of_last (c := '\n') (by simp) (by decide) (by decide) (by decide)
  | lineFeed => exact apart_of_last (c := '\n') (by simp) (by decide) (by decide) (by decide)
  | carriageReturn whole =>
    intro c last d first
    obtain rfl : '\r' = c := by simpa using last
    refine ⟨by simp [isHorizontal, isNewline], fun both => absurd both.1 (by decide), ?_⟩
    rintro ⟨-, rfl⟩
    exact whole first

theorem ne_nil_of_lawful {kind : PieceKind} {before text after : Text} (lawful : kind.Lawful before text after) :
    text ≠ [] := by
  match kind with
  | .trivia .whitespace | .token .word => exact lawful.1
  | .trivia .lineComment | .trivia .blockComment =>
    obtain ⟨body, rfl, _⟩ := lawful
    simp
  | .trivia .directive =>
    obtain ⟨_, c, body, rfl, _⟩ := lawful
    simp
  | .token .stringLiteral =>
    rcases lawful with ⟨interior, _, rfl⟩ | ⟨interior, _, rfl, _⟩ <;> simp
  | .token .charLiteral =>
    rcases lawful with ⟨c, rfl, _⟩ | ⟨c, rfl⟩ <;> simp
  | .token .punctuation =>
    obtain ⟨c, rfl, _⟩ := lawful
    simp
  | .token .endOfFile => exact lawful.elim

/-- A lawful piece leaves nothing over that its own rule or the next would join to it. -/
theorem apart_of_lawful {kind : PieceKind} {before text after : Text} (lawful : kind.Lawful before text after) :
    Apart (before ++ text) after := by
  match kind with
  | .trivia .whitespace => exact Whitespace.apart lawful
  | .trivia .lineComment =>
    obtain ⟨body, rfl, sameLine, ends⟩ := lawful
    exact apart_of_lineEnd (by simp) ⟨by simpa [isNewline] using sameLine, ends⟩
  | .trivia .directive =>
    obtain ⟨_, c, body, rfl, _, sameLine, ends⟩ := lawful
    exact apart_of_lineEnd (by simp) ⟨by simpa [isNewline] using sameLine, ends⟩
  | .trivia .blockComment =>
    obtain ⟨interior, rfl, _⟩ := lawful
    exact apart_of_last (c := '/') (by simp [List.getLast?_cons]) (by decide) (by decide) (by decide)
  | .token .word =>
    obtain ⟨nonempty, inside, _, stops⟩ := lawful
    intro c last d first
    rw [List.getLast?_append_of_ne_nil _ nonempty] at last
    have space := not_isSpace_of_isWordChar (inside c (List.mem_of_getLast? last))
    refine ⟨?_, ?_, ?_⟩
    · simp [isHorizontal, space]
    · simp [stops d first]
    · rintro ⟨rfl, -⟩
      cases space
  | .token .stringLiteral =>
    rcases lawful with ⟨interior, _, rfl⟩ | ⟨interior, _, rfl, _⟩
    all_goals exact apart_of_last (c := '"') (by simp [List.getLast?_cons]) (by decide) (by decide) (by decide)
  | .token .charLiteral =>
    rcases lawful with ⟨c, rfl, _⟩ | ⟨c, rfl⟩
    all_goals exact apart_of_last (c := '\x27') (by simp) (by decide) (by decide) (by decide)
  | .token .punctuation =>
    obtain ⟨c, rfl, notSpace, notWord, _⟩ := lawful
    refine apart_of_last (c := c) (by simp) (by simp [isHorizontal, notSpace]) notWord ?_
    rintro rfl
    cases notSpace
  | .token .endOfFile => exact lawful.elim

end Rule

end Literate
