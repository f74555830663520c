import Literate.Proofs.LexicalRules

/-! Text and its lines. A text is cut behind every line terminator, and nothing but the
terminators is lost: they can be written in another way, and the lines stay the same. -/

namespace Literate.Text

/-- A line terminator in front of a text. A carriage return and the line feed behind it are one. -/
inductive LineEnd : (ending after : Text) → Prop where
  | both {after} : LineEnd ['\r', '\n'] after
  | carriageReturn {after} (whole : after.head? ≠ some '\n') : LineEnd ['\r'] after
  | lineFeed {after} : LineEnd ['\n'] after

/-- The second text is the first one, each of its line terminators written in one of the three
ways. -/
inductive Respelled : Text → Text → Prop where
  | done : Respelled [] []
  | same {c text other} (sameLine : isNewline c = false) (more : Respelled text other) :
      Respelled (c :: text) (c :: other)
  | ending {first second text other} (ends : LineEnd first text) (otherEnds : LineEnd second other)
      (more : Respelled text other) : Respelled (first ++ text) (second ++ other)

theorem lines_cons {c : Char} (sameLine : isNewline c = false) (rest : Text) :
    lines (c :: rest) = (lines rest).modifyHead (c :: ·) := by
  have different : ∀ more, c = '\r' → rest = '\n' :: more → False := by
    intro more carriageReturn _
    rw [carriageReturn] at sameLine
    cases sameLine
  rw [lines.eq_3 _ _ different]
  simp [sameLine]

theorem lines_newline {c : Char} {rest : Text} (newline : isNewline c = true)
    (single : c = '\r' → rest.head? ≠ some '\n') : lines (c :: rest) = [] :: lines rest := by
  have apart : ∀ more, c = '\r' → rest = '\n' :: more → False := by
    intro more carriageReturn lineFeed
    exact single carriageReturn (by simp [lineFeed])
  rw [lines.eq_3 _ _ apart]
  simp [newline]

theorem lines_of_sameLine {text : Text} (sameLine : ∀ c ∈ text, isNewline c = false) : lines text = [text] := by
  induction text with
  | nil => rfl
  | cons c text ih =>
    rw [lines_cons (sameLine c (by simp)), ih (fun d member => sameLine d (by simp [member]))]
    rfl

/-- Text without a terminator goes on with the last line. -/
theorem lines_append (front : Text) : ∃ init last, lines front = init ++ [last] ∧ last <:+ front ∧
    (init = [] → last = front) ∧
    ∀ tail : Text, (∀ c ∈ tail, isNewline c = false) → lines (front ++ tail) = init ++ [last ++ tail] := by
  fun_induction lines front with
  | case1 => exact ⟨[], [], rfl, List.suffix_refl _, fun _ => rfl, fun tail sameLine => lines_of_sameLine sameLine⟩
  | case2 rest ih =>
    obtain ⟨init, last, front, suffix, alone, extended⟩ := ih
    refine ⟨[] :: init, last, by rw [front]; rfl, suffix.trans (List.suffix_append ['\r', '\n'] rest), by simp, ?_⟩
    intro tail sameLine
    simp [lines, extended tail sameLine]
  | case3 c rest single newline ih =>
    obtain ⟨init, last, front, suffix, alone, extended⟩ := ih
    refine ⟨[] :: init, last, by rw [front]; rfl, suffix.trans (List.suffix_cons c rest), by simp, ?_⟩
    intro tail sameLine
    rw [List.cons_append, lines_newline newline, extended tail sameLine]
    · rfl
    · intro carriageReturn lineFeed
      cases rest with
      | nil =>
        have clear := sameLine '\n' (List.mem_of_head? lineFeed)
        cases clear
      | cons d rest =>
        obtain rfl : d = '\n' := by simpa using lineFeed
        exact single rest carriageReturn rfl
  | case4 c rest _ notNewline ih =>
    obtain ⟨init, last, front, suffix, alone, extended⟩ := ih
    have sameLine : isNewline c = false := by simpa using notNewline
    cases init with
    | nil =>
      obtain rfl := alone rfl
      refine ⟨[], c :: last, by rw [front]; rfl, List.suffix_refl _, fun _ => rfl, ?_⟩
      intro tail clear
      rw [List.cons_append, lines_cons sameLine, extended tail clear]
      rfl
    | cons line init =>
      refine ⟨(c :: line) :: init, last, by rw [front]; rfl, suffix.trans (List.suffix_cons c rest), by simp, ?_⟩
      intro tail clear
      rw [List.cons_append, lines_cons sameLine, extended tail clear]
      rfl

theorem lines_lineEnd {ending text : Text} (ends : LineEnd ending text) : lines (ending ++ text) = [] :: lines text := by
  cases ends with
  | both => rfl
  | carriageReturn whole => exact lines_newline rfl fun _ => whole
  | lineFeed => exact lines_newline rfl (by simp)

theorem Respelled.lines_eq {text other : Text} (respelled : Respelled text other) : text.lines = other.lines := by
  induction respelled with
  | done => rfl
  | same sameLine _ ih => rw [lines_cons sameLine, lines_cons sameLine, ih]
  | ending ends otherEnds _ ih => rw [lines_lineEnd ends, lines_lineEnd otherEnds, ih]

theorem not_isNewline_of_mem_lines {text : Text} : ∀ line ∈ lines text, ∀ c ∈ line, isNewline c = false := by
  fun_induction lines text with
  | case1 => simp
  | case2 rest ih => simpa using ih
  | case3 c rest _ _ ih => simpa using ih
  | case4 c rest _ notNewline ih =>
    obtain ⟨first, others, split⟩ := List.exists_cons_of_ne_nil (lines_ne_nil rest)
    rw [split] at ih ⊢
    intro line member d inside
    rcases List.mem_cons.mp member with rfl | behind
    · rcases List.mem_cons.mp inside with rfl | later
      · simpa using notNewline
      · exact ih first (by simp) d later
    · exact ih line (by simp [behind]) d inside

private theorem whole_of_cons {c : Char} {rest : Text} (whole : (c :: rest).getLast? ≠ some '\r') :
    rest.getLast? ≠ some '\r' := by
  cases rest with
  | nil => simp
  | cons d rest => simpa using whole

/-- A line feed ends a line, unless it belongs to a carriage return. -/
theorem lines_append_lineFeed {front : Text} (whole : front.getLast? ≠ some '\r') (back : Text) :
    lines (front ++ '\n' :: back) = lines front ++ lines back := by
  fun_induction lines front with
  | case1 => exact lines_newline rfl (by simp)
  | case2 rest ih => exact congrArg ([] :: ·) (ih (whole_of_cons (whole_of_cons whole)))
  | case3 c rest single newline ih =>
    cases rest with
    | nil =>
      have feed : c = '\n' := (isNewline_iff.mp newline).resolve_left (by simpa using whole)
      subst feed
      exact (lines_newline rfl (by simp)).trans (congrArg _ (lines_newline rfl (by simp)))
    | cons d rest =>
      rw [List.cons_append, lines_newline newline]
      · exact congrArg ([] :: ·) (ih (whole_of_cons whole))
      · intro carriageReturn lineFeed
        obtain rfl : d = '\n' := by simpa using lineFeed
        exact single rest carriageReturn rfl
  | case4 c rest _ notNewline ih =>
    have sameLine : isNewline c = false := by simpa using notNewline
    obtain ⟨first, others, split⟩ := List.exists_cons_of_ne_nil (lines_ne_nil rest)
    rw [List.cons_append, lines_cons sameLine, ih (whole_of_cons whole), split]
    rfl

/-- A beginning without terminators belongs to the first line. -/
theorem tail_lines_append {front : Text} (sameLine : ∀ c ∈ front, isNewline c = false) (text : Text) :
    (lines (front ++ text)).tail = (lines text).tail := by
  induction front with
  | nil => rfl
  | cons c front ih =>
    rw [List.cons_append, lines_cons (sameLine c (by simp)), List.tail_modifyHead]
    exact ih fun d member => sameLine d (by simp [member])

end Literate.Text
