import Literate.Proofs.BytePlaces
import Literate.Proofs.LineDecomposition
import Literate.Text.Margin

/-! Margins. The first line with text fixes the margin for itself and for all lines after it. A line
loses what it has of the margin, and none of its text. What is left has no margin, so that nothing
is lost when it is taken off once more. -/

namespace Literate.Text

/-- There is more on the line than white space. -/
def hasText (line : Text) : Bool := line.any (!isSpace ·)

/-- The column that lines fix: the indentation of the first of them with text. -/
def firstColumn? (lines : List Text) : Option Nat := (lines.find? hasText).map indent

/-- How many characters a line loses. -/
def marginSize (column : Option Nat) (line : Text) : Nat :=
  match column with
  | none => 0
  | some column => if line.length < column then 0 else min column (indent line)

/-- Where the white space ends that a line loses, in bytes: behind the last of the characters in
front of the column, as far as they are white space. -/
def outdentPlace (column : Nat) (line : Text) : Nat :=
  (((places 0 line).take column).takeWhile (fun place => isSpace place.2)).getLast?.elim 0
    fun place => place.1 + place.2.utf8Size

/-! Lines. -/

theorem indent_cons_space {c : Char} (space : isSpace c = true) (line : Text) : indent (c :: line) = indent line + 1 := by
  simp [indent, space]

theorem indent_cons_text {c : Char} (text : isSpace c = false) (line : Text) : indent (c :: line) = 0 := by
  simp [indent, text]

theorem indent_lt_iff (line : Text) : indent line < line.length ↔ hasText line = true := by
  induction line with
  | nil => simp [indent, hasText]
  | cons c line ih =>
    cases space : isSpace c with
    | true => simpa [indent_cons_space, hasText, space] using ih
    | false => simp [indent_cons_text, hasText, space]

/-- The text starts where the indentation ends. -/
theorem indent_drop_indent (line : Text) : indent (line.drop (indent line)) = 0 := by
  induction line with
  | nil => rfl
  | cons c line ih =>
    cases space : isSpace c with
    | true => rw [indent_cons_space space, List.drop_succ_cons, ih]
    | false => rw [indent_cons_text space, List.drop_zero, indent_cons_text space]

theorem take_indent (line : Text) : line.take (indent line) = line.takeWhile isSpace :=
  (List.prefix_iff_eq_take.mp (List.takeWhile_prefix isSpace)).symm

theorem takeWhile_take_isSpace (column : Nat) (line : Text) :
    (line.take column).takeWhile isSpace = line.take (min column (indent line)) := by
  rw [← List.take_takeWhile, ← take_indent, List.take_take]

theorem outdent_eq_drop (column : Nat) (line : Text) : outdent column line = line.drop (min column (indent line)) := by
  fun_induction outdent column line with
  | case1 column c line space ih => rw [ih, indent_cons_space space, Nat.succ_min_succ, List.drop_succ_cons]
  | case2 column c line notSpace => simp [indent_cons_text (Bool.eq_false_iff.mpr notSpace)]
  | case3 column line other =>
    cases column with
    | zero => simp
    | succ column =>
      cases line with
      | nil => simp
      | cons c line => exact absurd rfl (other column c line rfl)

theorem outdentPlace_eq (column : Nat) (line : Text) :
    outdentPlace column line = byteSize (line.take (min column (indent line))) := by
  rw [outdentPlace, places_take, places_takeWhile, places_end, takeWhile_take_isSpace, Nat.zero_add]

theorem marginSize_le (column : Option Nat) (line : Text) : marginSize column line ≤ indent line := by
  unfold marginSize
  split
  · omega
  · split <;> omega

/-! Columns. -/

theorem firstColumn?_append (first second : List Text) :
    firstColumn? (first ++ second) = (firstColumn? first).or (firstColumn? second) := by
  rw [firstColumn?, List.find?_append, Option.map_or]
  rfl

theorem firstColumn?_of_text {line : Text} (text : hasText line = true) (lines : List Text) :
    firstColumn? (line :: lines) = some (indent line) := by
  simp [firstColumn?, text]

theorem firstColumn?_of_blank {line : Text} (blank : hasText line = false) (lines : List Text) :
    firstColumn? (line :: lines) = firstColumn? lines := by
  simp [firstColumn?, blank]

namespace Margin

theorem observe_column (margin : Margin) (line : Text) :
    (margin.observe line).column = margin.column.or (firstColumn? [line]) := by
  obtain ⟨column⟩ := margin
  cases column with
  | some => rfl
  | none =>
    cases text : hasText line with
    | true => simp [observe, indent_lt_iff, text, firstColumn?]
    | false => simp [observe, indent_lt_iff, text, firstColumn?]

theorem cut_eq (margin : Margin) (line : Text) : margin.cut line = line.drop (marginSize margin.column line) := by
  obtain ⟨column⟩ := margin
  cases column with
  | none => rfl
  | some column =>
    simp only [cut, marginSize, outdent_eq_drop]
    by_cases short : line.length < column
    · rw [if_neg (by omega), if_pos short, List.drop_zero]
    · rw [if_pos (by omega), if_neg short]

/-- Taking the margin off a line takes white space from its beginning, and nothing else. -/
theorem cut_split (margin : Margin) (line : Text) :
    ∃ pad, pad ++ margin.cut line = line ∧ ∀ c ∈ pad, isSpace c = true := by
  refine ⟨line.take (marginSize margin.column line), ?_, ?_⟩
  · rw [cut_eq, List.take_append_drop]
  · intro c member
    have leading := List.take_subset_take_left line (marginSize_le margin.column line) member
    rw [take_indent] at leading
    exact List.mem_takeWhile_imp leading

theorem isSuffix_of_mem_trimAll {margin : Margin} {lines : List Text} {trimmed : Text}
    (member : trimmed ∈ trimAll margin lines) : ∃ line ∈ lines, trimmed <:+ line := by
  induction lines generalizing margin with
  | nil => cases member
  | cons line lines ih =>
    rcases List.mem_cons.mp member with rfl | later
    · refine ⟨line, by simp, ?_⟩
      rw [trim, cut_eq]
      exact List.drop_suffix _ line
    · obtain ⟨other, inside, suffix⟩ := ih later
      exact ⟨other, by simp [inside], suffix⟩

theorem trimAll_ne_nil {margin : Margin} {lines : List Text} (nonempty : lines ≠ []) :
    trimAll margin lines ≠ [] := by
  cases lines with
  | nil => exact absurd rfl nonempty
  | cons => simp [trimAll]

/-- Each line without its margin, with the column that is known behind it. -/
def run : Margin → List Text → List (Text × Option Nat)
  | _, [] => []
  | margin, line :: lines => ((margin.trim line).1, (margin.trim line).2.column) :: run (margin.trim line).2 lines

theorem trimAll_eq_run (margin : Margin) (lines : List Text) : trimAll margin lines = (margin.run lines).map (·.1) := by
  induction lines generalizing margin with
  | nil => rfl
  | cons line lines ih => rw [trimAll, run, List.map_cons, ih]

theorem run_getElem? (margin : Margin) (lines : List Text) (i : Nat) :
    (margin.run lines)[i]? = lines[i]?.map fun line =>
      let column := margin.column.or (firstColumn? (lines.take (i + 1)))
      (line.drop (marginSize column line), column) := by
  induction lines generalizing margin i with
  | nil => rfl
  | cons line lines ih =>
    cases i with
    | zero => simp [run, trim, cut_eq, observe_column]
    | succ i =>
      have grown : firstColumn? ((line :: lines).take (i + 1 + 1)) =
          (firstColumn? [line]).or (firstColumn? (lines.take (i + 1))) := firstColumn?_append [line] _
      rw [run, List.getElem?_cons_succ, ih, List.getElem?_cons_succ, trim, observe_column, grown, Option.or_assoc]

/-- Where a column is known and the line reaches it, the line is cut behind a whole character. -/
theorem trim_at_place {margin : Margin} {line : Text} {column : Nat}
    (known : (margin.observe line).column = some column) (reached : column ≤ line.length) :
    String.Pos.Raw.IsValid (String.ofList line) ⟨outdentPlace column line⟩ ∧
    String.Pos.Raw.extract (String.ofList line) ⟨outdentPlace column line⟩ ⟨line.byteSize⟩ =
      String.ofList (margin.trim line).1 := by
  have size : marginSize (some column) line = min column (indent line) := if_neg (by omega)
  rw [trim, cut_eq, known, size, outdentPlace_eq]
  exact ⟨isValid_take _ line, extract_drop _ line⟩

theorem trimAll_of_blank {line : Text} (blank : hasText line = false) (lines : List Text) :
    trimAll {} (line :: lines) = line :: trimAll {} lines := by
  have unknown : observe {} line = {} := by simp [observe, indent_lt_iff, blank]
  simp [trimAll, trim, unknown, cut]

theorem trimAll_of_text {line : Text} (text : hasText line = true) (lines : List Text) :
    trimAll {} (line :: lines) = line.drop (indent line) :: trimAll ⟨some (indent line)⟩ lines := by
  have inside := (indent_lt_iff line).mpr text
  have size : marginSize (some (indent line)) line = indent line := by
    simp only [marginSize, Nat.min_self]
    exact if_neg (by omega)
  have known : observe {} line = ⟨some (indent line)⟩ := if_pos inside
  rw [trimAll, trim, known, cut_eq, size]

/-- The first line with text is not indented, if there is one. -/
def Flush (lines : List Text) : Prop := ∀ column ∈ firstColumn? lines, column = 0

theorem trimAll_flush (lines : List Text) : Flush (trimAll {} lines) := by
  induction lines with
  | nil => simp [Flush, trimAll, firstColumn?]
  | cons line lines ih =>
    cases text : hasText line with
    | false =>
      rw [trimAll_of_blank text, Flush, firstColumn?_of_blank text]
      exact ih
    | true =>
      have inside := (indent_lt_iff line).mpr text
      have first := indent_drop_indent line
      have kept : hasText (line.drop (indent line)) = true := by
        rw [← indent_lt_iff, first, List.length_drop]
        omega
      rw [trimAll_of_text text, Flush, firstColumn?_of_text kept, first]
      simp

theorem trimAll_zero (lines : List Text) : trimAll ⟨some 0⟩ lines = lines := by
  induction lines with
  | nil => rfl
  | cons line lines ih => simp [trimAll, trim, observe, cut_eq, marginSize, ih]

theorem trimAll_of_flush {lines : List Text} (flush : Flush lines) : trimAll {} lines = lines := by
  induction lines with
  | nil => rfl
  | cons line lines ih =>
    cases text : hasText line with
    | false =>
      rw [Flush, firstColumn?_of_blank text] at flush
      rw [trimAll_of_blank text, ih flush]
    | true =>
      have first : indent line = 0 := flush _ (firstColumn?_of_text text lines)
      rw [trimAll_of_text text, first, trimAll_zero, List.drop_zero]

end Margin

theorem lines_join_trimMargin (text : Text) : lines (join ['\n'] (trimMargin text)) = trimMargin text := by
  have sameLine : ∀ line ∈ trimMargin text, ∀ c ∈ line, isNewline c = false := by
    intro trimmed member c inside
    obtain ⟨line, cut, suffix⟩ := Margin.isSuffix_of_mem_trimAll member
    exact not_isNewline_of_mem_lines line cut c (suffix.subset inside)
  obtain ⟨endings, cut⟩ := LineCut.join (Margin.trimAll_ne_nil (lines_ne_nil text)) sameLine
  exact cut.lines_eq

/-- Taking off a margin leaves none. -/
theorem trimMargin_again (text : Text) : trimMargin (join ['\n'] (trimMargin text)) = trimMargin text := by
  have flush : Margin.Flush (trimMargin text) := Margin.trimAll_flush text.lines
  calc trimMargin (join ['\n'] (trimMargin text))
    _ = Margin.trimAll {} (lines (join ['\n'] (trimMargin text))) := rfl
    _ = Margin.trimAll {} (trimMargin text) := by rw [lines_join_trimMargin]
    _ = trimMargin text := Margin.trimAll_of_flush flush

/-- Each line loses what it has of the column that the first line with text has fixed by then, and the
column stays as it is from there on. A line is always cut between two of its characters. -/
theorem margin_runs (lines : List Text) :
    (∀ i, (Margin.run {} lines)[i]? = lines[i]?.map fun line =>
      let column := firstColumn? (lines.take (i + 1))
      (line.drop (marginSize column line), column)) ∧
    Margin.trimAll {} lines = (Margin.run {} lines).map (·.1) ∧
    (∀ i j column, firstColumn? (lines.take i) = some column → i ≤ j → firstColumn? (lines.take j) = some column) ∧
    ∀ margin : Margin, ∀ line column, (margin.observe line).column = some column → column ≤ line.length →
      String.Pos.Raw.IsValid (String.ofList line) ⟨outdentPlace column line⟩ ∧
      String.Pos.Raw.extract (String.ofList line) ⟨outdentPlace column line⟩ ⟨line.byteSize⟩ =
        String.ofList (margin.trim line).1 := by
  refine ⟨Margin.run_getElem? {} lines, Margin.trimAll_eq_run {} lines, ?_, ?_⟩
  · intro i j column fixed later
    obtain ⟨count, rfl⟩ := Nat.exists_eq_add_of_le later
    rw [List.take_add, firstColumn?_append, fixed]
    rfl
  · intro margin line column known reached
    exact Margin.trim_at_place known reached

/-- White space of several bytes, on a line shorter than the column and on one that goes beyond it. -/
theorem margin_runs_wide_spaces :
    let last := "\t\u00a0\u3000y".toList
    let lines := ["\u3000".toList, "\u3000\u00a0x".toList, "\u3000".toList, last]
    Margin.run {} lines =
      [("\u3000".toList, none), ("x".toList, some 2), ("\u3000".toList, some 2), ("\u3000y".toList, some 2)] ∧
    firstColumn? (lines.take 2) = some 2 ∧ firstColumn? (lines.take 4) = some 2 ∧
    String.Pos.Raw.IsValid (String.ofList last) ⟨3⟩ ∧
    String.Pos.Raw.extract (String.ofList last) ⟨3⟩ ⟨byteSize last⟩ = String.ofList "\u3000y".toList := by
  intro last lines
  obtain ⟨steps, _, kept, cuts⟩ := margin_runs lines
  have fixed : firstColumn? (lines.take 2) = some 2 := by decide
  have place : outdentPlace 2 last = 3 := by decide
  have trimmed : (Margin.trim ⟨some 2⟩ last).1 = "\u3000y".toList := by decide
  have cut := cuts ⟨some 2⟩ last 2 rfl (by decide)
  rw [place, trimmed] at cut
  refine ⟨?_, fixed, kept 2 4 2 fixed (by decide), cut⟩
  apply List.ext_getElem?
  intro i
  rw [steps i]
  match i with
  | 0 | 1 | 2 | 3 => decide
  | i + 4 => rfl

end Literate.Text
