import Literate.Proofs.ScannerRules
import Literate.Proofs.TextLines

/-! The one way to cut a text into lines. Every line but the last is ended by a terminator, and a
carriage return is never parted from the line feed behind it. Lines that are handed out one at a
time are the same, and there is an end to them. -/

namespace Literate.Text

/-- A text cut into lines at the terminators between them. -/
inductive LineCut : (text : Text) → (lines endings : List Text) → Prop where
  | last {line} (sameLine : ∀ c ∈ line, isNewline c = false) : LineCut line [line] []
  | next {line ending text lines endings} (sameLine : ∀ c ∈ line, isNewline c = false)
      (ends : LineEnd ending text) (more : LineCut text lines endings) :
      LineCut (line ++ ending ++ text) (line :: lines) (ending :: endings)

/-- The text that is still to be handed out, and nothing any more after the last line. -/
abbrev LineReader := Option Text

namespace LineReader

/-- The next line, if there is one, and what is left after it. -/
def next : LineReader → Option Text × LineReader
  | none => (none, none)
  | some text =>
    let (line, behind) := Scan.restOfLine text
    match behind.terminator with
    | ([], _) => (some line, none)
    | (_, rest) => (some line, some rest)

/-- What is handed out after some number of earlier calls. -/
def handed : (earlier : Nat) → LineReader → Option Text
  | 0, reader => reader.next.1
  | earlier + 1, reader => handed earlier reader.next.2

theorem handed_none (earlier : Nat) : handed earlier none = none := by
  induction earlier with
  | zero => rfl
  | succ earlier ih => exact ih

end LineReader

namespace LineEnd

variable {ending text : Text} (ends : LineEnd ending text)

include ends

theorem between : Rule.Terminator [] ending text := by
  cases ends with
  | both => exact .both
  | carriageReturn whole => exact .carriageReturn whole
  | lineFeed => exact .lineFeed (by simp)

theorem first : ∃ c rest, ending = c :: rest ∧ isNewline c = true := by
  cases ends with
  | both => exact ⟨_, _, rfl, rfl⟩
  | carriageReturn => exact ⟨_, _, rfl, rfl⟩
  | lineFeed => exact ⟨_, _, rfl, rfl⟩

theorem lines_eq {line : Text} (sameLine : ∀ c ∈ line, isNewline c = false) :
    lines (line ++ ending ++ text) = line :: lines text := by
  induction line with
  | nil => exact lines_lineEnd ends
  | cons c line ih =>
    obtain ⟨notNewline, sameLine⟩ := List.forall_mem_cons.mp sameLine
    rw [List.cons_append, List.cons_append, lines_cons notNewline, ih sameLine]
    rfl

end LineEnd

namespace LineReader

theorem next_last {line : Text} (sameLine : ∀ c ∈ line, isNewline c = false) : next (some line) = (some line, none) := by
  have read : Scan.restOfLine line = (line, []) := by
    simpa using @Scan.restOfLine_complete line [] ⟨sameLine, by simp⟩
  simp [next, read, terminator]

theorem next_ended {line ending text : Text} (sameLine : ∀ c ∈ line, isNewline c = false) (ends : LineEnd ending text) :
    next (some (line ++ ending ++ text)) = (some line, some text) := by
  obtain ⟨c, rest, rfl, newline⟩ := ends.first
  have read : Scan.restOfLine (line ++ (c :: rest ++ text)) = (line, c :: rest ++ text) := by
    apply Scan.restOfLine_complete
    refine ⟨sameLine, ?_⟩
    simpa using newline
  rw [List.append_assoc, next, read]
  simp only [ends.between.scanned]

end LineReader

namespace LineCut

variable {text : Text} {lines endings : List Text} (cut : LineCut text lines endings)

include cut

theorem lines_eq : text.lines = lines := by
  induction cut with
  | last sameLine => exact lines_of_sameLine sameLine
  | next sameLine ends _ ih => rw [ends.lines_eq sameLine, ih]

theorem length_eq : lines.length = endings.length + 1 := by
  induction cut with
  | last => rfl
  | next _ _ _ ih => simp [ih]

/-- A character in front that ends no line belongs to the first one. -/
theorem extend {c : Char} (notNewline : isNewline c = false) :
    LineCut (c :: text) (lines.modifyHead (c :: ·)) endings := by
  cases cut with
  | last sameLine => exact .last (List.forall_mem_cons.mpr ⟨notNewline, sameLine⟩)
  | next sameLine ends more => exact .next (List.forall_mem_cons.mpr ⟨notNewline, sameLine⟩) ends more

theorem handed_eq (earlier : Nat) : LineReader.handed earlier (some text) = lines[earlier]? := by
  induction cut generalizing earlier with
  | last sameLine =>
    cases earlier with
    | zero => rw [LineReader.handed, LineReader.next_last sameLine, List.getElem?_cons_zero]
    | succ earlier => simp [LineReader.handed, LineReader.next_last sameLine, LineReader.handed_none]
  | next sameLine ends _ ih =>
    cases earlier with
    | zero => rw [LineReader.handed, LineReader.next_ended sameLine ends, List.getElem?_cons_zero]
    | succ earlier => rw [LineReader.handed, LineReader.next_ended sameLine ends, ih, List.getElem?_cons_succ]

end LineCut

namespace LineCut

variable {text : Text} {endings : List Text}

theorem split {line : Text} {lines : List Text} (cut : LineCut text (line :: lines) endings) :
    (lines = [] ∧ endings = []) ∨ ∃ ending rest others, text = line ++ ending ++ rest ∧ LineEnd ending rest ∧
      LineCut rest lines others ∧ endings = ending :: others := by
  cases cut with
  | last => exact .inl ⟨rfl, rfl⟩
  | next _ ends more => exact .inr ⟨_, _, _, rfl, ends, more, rfl⟩

theorem endings_eq {lines others : List Text} (cut : LineCut text lines endings) (other : LineCut text lines others) :
    others = endings := by
  induction cut generalizing others with
  | last =>
    rcases other.split with ⟨_, rfl⟩ | ⟨_, _, _, _, _, more, _⟩
    · rfl
    · cases more
  | next _ ends more ih =>
    rcases other.split with ⟨rfl, _⟩ | ⟨ending, rest, others, same, otherEnds, otherMore, rfl⟩
    · cases more
    -- The same text stands behind the line in both cuts, and a text has one terminator in front.
    · rw [List.append_assoc, List.append_assoc] at same
      have scanned := congrArg terminator (List.append_cancel_left same)
      rw [ends.between.scanned, otherEnds.between.scanned] at scanned
      obtain ⟨rfl, rfl⟩ := Prod.mk.inj scanned
      rw [ih otherMore]

theorem join {lines : List Text} (nonempty : lines ≠ []) (sameLine : ∀ line ∈ lines, ∀ c ∈ line, isNewline c = false) :
    ∃ endings, LineCut (Text.join ['\n'] lines) lines endings := by
  induction lines with
  | nil => exact absurd rfl nonempty
  | cons line lines ih =>
    obtain ⟨first, others⟩ := List.forall_mem_cons.mp sameLine
    cases lines with
    | nil => exact ⟨[], .last first⟩
    | cons second lines =>
      obtain ⟨endings, cut⟩ := ih (List.cons_ne_nil _ _) others
      exact ⟨_, .next first .lineFeed cut⟩

end LineCut

theorem cut_lines (text : Text) : ∃ endings, LineCut text text.lines endings := by
  fun_induction lines text with
  | case1 => exact ⟨[], .last (by simp)⟩
  | case2 rest ih =>
    obtain ⟨endings, cut⟩ := ih
    exact ⟨_, @LineCut.next [] _ _ _ _ (by simp) .both cut⟩
  | case3 c rest single newline ih =>
    obtain ⟨endings, cut⟩ := ih
    have ends : LineEnd [c] rest := by
      rcases isNewline_iff.mp newline with rfl | rfl
      · apply LineEnd.carriageReturn
        intro lineFeed
        obtain ⟨more, split⟩ := List.head?_eq_some_iff.mp lineFeed
        exact single more rfl split
      · exact .lineFeed
    exact ⟨_, @LineCut.next [] _ _ _ _ (by simp) ends cut⟩
  | case4 c rest _ notNewline ih =>
    obtain ⟨endings, cut⟩ := ih
    exact ⟨endings, cut.extend (by simpa using notNewline)⟩

/-- No other lines make up a text, with a terminator between each two of them. -/
theorem lines_unique (text : Text) : ∃ endings,
    (∀ lines others, LineCut text lines others ↔ lines = text.lines ∧ others = endings) ∧
    text.lines.length = endings.length + 1 ∧
    ∀ earlier, LineReader.handed earlier (some text) = text.lines[earlier]? := by
  obtain ⟨endings, cut⟩ := cut_lines text
  refine ⟨endings, ?_, cut.length_eq, cut.handed_eq⟩
  intro lines others
  constructor
  · intro other
    obtain rfl := other.lines_eq
    exact ⟨rfl, cut.endings_eq other⟩
  · rintro ⟨rfl, rfl⟩
    exact cut

end Literate.Text
