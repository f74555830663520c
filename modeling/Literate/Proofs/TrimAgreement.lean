import Literate.Proofs.SplitterRuns

/-! Trimming margins is a matter of white space in prose. With it and without it a source
fails alike and is cut into the same blocks; code is the same, and of prose only white
space can differ. -/

namespace Literate

open Text

namespace Text

/-- The characters other than white space, in order. -/
def solid (text : Text) : Text := text.filter fun c => !isSpace c

@[simp] theorem solid_append (first second : Text) : solid (first ++ second) = solid first ++ solid second := by
  simp [solid]

theorem solid_eq_nil {text : Text} (spaces : ∀ c ∈ text, isSpace c = true) : solid text = [] := by
  rw [solid, List.filter_eq_nil_iff]
  intro c member
  simp [spaces c member]

theorem solid_cons_of_isSpace {c : Char} (space : isSpace c = true) (text : Text) : solid (c :: text) = solid text := by
  simp [solid, space]

theorem Margin.solid_cut (margin : Margin) (line : Text) : solid (margin.cut line) = solid line := by
  obtain ⟨pad, whole, spaces⟩ := margin.cut_split line
  rw [← congrArg solid whole, solid_append, solid_eq_nil spaces, List.nil_append]

theorem Margin.solid_trimAll (margin : Margin) (lines : List Text) :
    solid ((trimAll margin lines).flatMap (· ++ ['\n'])) = solid lines.flatten := by
  induction lines generalizing margin with
  | nil => rfl
  | cons line lines ih =>
    have terminator : solid ['\n'] = [] := rfl
    rw [trimAll, List.flatMap_cons, solid_append, solid_append, ih, terminator, List.append_nil, List.flatten_cons,
      solid_append]
    exact congrArg (· ++ solid lines.flatten) ((margin.observe line).solid_cut line)

/-- Cutting a text into lines loses its terminators only. -/
theorem solid_lines (text : Text) : solid text.lines.flatten = solid text := by
  fun_induction lines text with
  | case1 => rfl
  | case2 rest ih => exact ih
  | case3 c rest _ newline ih =>
    rw [List.flatten_cons, List.nil_append, ih, solid_cons_of_isSpace (isSpace_of_isNewline newline)]
  | case4 c rest _ _ ih =>
    obtain ⟨line, others, split⟩ := List.exists_cons_of_ne_nil (lines_ne_nil rest)
    rw [split] at ih ⊢
    change solid ([c] ++ (line :: others).flatten) = solid ([c] ++ rest)
    rw [solid_append, solid_append, ih]

theorem solid_dropEndWhile {test : Char → Bool} (spaces : ∀ c, test c = true → isSpace c = true) (text : Text) :
    solid (dropEndWhile test text) = solid text := by
  have split : text.rdropWhile test ++ text.rtakeWhile test = text := List.rdropWhile_append_rtakeWhile
  have dropped : solid (text.rtakeWhile test) = [] :=
    solid_eq_nil fun c member => spaces c (List.mem_rtakeWhile_imp member)
  calc solid (dropEndWhile test text)
    _ = solid (text.rdropWhile test) ++ solid (text.rtakeWhile test) := by rw [dropped, List.append_nil]; rfl
    _ = solid text := by rw [← solid_append, split]

end Text

theorem Layout.solid_prose (layout : Layout) (interior : Text) : solid (layout.prose interior) = solid interior := by
  rw [layout.prose_eq]
  split
  next =>
    have pads : ∀ c, isPad c = true → isSpace c = true := by
      intro c pad
      exact isSpace_of_isHorizontal (isHorizontal_of_isPad pad)
    rw [trimMargin, Margin.solid_trimAll, solid_lines, solid_dropEndWhile pads]
  next => rfl

theorem Layout.solid_flatMap_prose (layout : Layout) (interiors : List Text) :
    solid (interiors.flatMap layout.prose) = interiors.flatMap solid := by
  induction interiors with
  | nil => rfl
  | cons interior interiors ih => rw [List.flatMap_cons, solid_append, ih, layout.solid_prose, List.flatMap_cons]

/-- Two blocks that differ in the white space of prose at most. -/
def Block.SameButSpace (block other : Block) : Prop :=
  block.kind = other.kind ∧
  match block.kind with
  | .prose => solid block.contents = solid other.contents
  | .verbatim => block.contents = other.contents

theorem Block.ofRun_sameButSpace (format : Format) (language : Text) (encoder : Encoder) (run : List Event)
    (uniform : Event.Uniform run) :
    Block.SameButSpace (.ofRun ⟨format, true, language⟩ encoder run)
      (.ofRun ⟨format, false, language⟩ encoder run) := by
  cases uniform with
  | @prose interiors nonempty =>
    rw [ofRun_prose _ _ nonempty, ofRun_prose _ _ nonempty]
    refine ⟨rfl, ?_⟩
    change solid _ = solid _
    rw [Layout.solid_flatMap_prose, Layout.solid_flatMap_prose]
  | @code texts nonempty =>
    rw [ofRun_code _ _ nonempty, ofRun_code _ _ nonempty]
    exact ⟨rfl, rfl⟩

/-- Trimming decides nothing but white space in prose, whichever encoder code goes through. -/
theorem trim_changes_space_only (format : Format) (language : Text) (encoder : Encoder) (file : Nat) :
    (∀ source, Agree (List.Forall₂ Block.SameButSpace)
      ((Splitter.drain ⟨format, true, language⟩ encoder (.ofSource source file) {}).map
        (Splitter.finish ⟨format, true, language⟩))
      ((Splitter.drain ⟨format, false, language⟩ encoder (.ofSource source file) {}).map
        (Splitter.finish ⟨format, false, language⟩))) ∧
    ∀ tokens, Agree (List.Forall₂ Block.SameButSpace)
      ((Splitter.pushAll ⟨format, true, language⟩ encoder file tokens {}).map
        (Splitter.finish ⟨format, true, language⟩))
      ((Splitter.pushAll ⟨format, false, language⟩ encoder file tokens {}).map
        (Splitter.finish ⟨format, false, language⟩)) := by
  have similar := Block.ofRun_sameButSpace format language encoder
  exact ⟨fun source => Splitter.drain_agree similar _, Splitter.pushAll_agree similar file⟩

end Literate
