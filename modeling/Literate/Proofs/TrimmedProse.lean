import Literate.Proofs.FencePlacement

/-! Prose whose margins are trimmed. What a comment adds is made of whole lines, each ended by a
line feed, and how the lines of the comment were ended makes no difference. -/

namespace Literate

open Text

namespace Layout

variable {layout : Layout} (trimmed : layout.trim = true)

include trimmed

theorem prose_of_trim (interior : Text) :
    layout.prose interior = (trimMargin (dropEndWhile isPad interior)).flatMap (· ++ ['\n']) := by
  rw [layout.prose_eq, if_pos trimmed]

theorem prose_ne_nil (interior : Text) : layout.prose interior ≠ [] := by
  rw [prose_of_trim trimmed]
  have written : trimMargin (dropEndWhile isPad interior) ≠ [] := Margin.trimAll_ne_nil (lines_ne_nil _)
  obtain ⟨line, others, split⟩ := List.exists_cons_of_ne_nil written
  simp [split]

theorem not_mem_prose (interior : Text) : '\r' ∉ layout.prose interior := by
  rw [prose_of_trim trimmed]
  intro member
  obtain ⟨line, shown, inside⟩ := List.mem_flatMap.mp member
  obtain ⟨whole, cut, suffix⟩ := Margin.isSuffix_of_mem_trimAll shown
  have inLine : '\r' ∈ whole := suffix.subset (by simpa using inside)
  exact absurd (not_isNewline_of_mem_lines whole cut '\r' inLine) (by decide)

theorem prose_respelled {interior other : Text} (respelled : Respelled interior other) :
    layout.prose interior = layout.prose other := by
  simp [prose, respelled.lines_eq, trimmed]

end Layout

/-- Prose that consists of whole lines, each ended by a line feed. -/
def Chain.ProseEndsLines (chain : Chain) : Prop :=
  ∀ block ∈ chain, block.kind = .prose → ['\n'] <:+ block.contents ∧ '\r' ∉ block.contents

theorem Chain.ofEvents_proseEndsLines {layout : Layout} {encoder : Encoder} (trimmed : layout.trim = true)
    (events : List Event) : (Chain.ofEvents layout encoder events).ProseEndsLines := by
  intro block member prose
  have ends := Chain.prose_endsLine trimmed member prose
  obtain ⟨interiors, nonempty, contents⟩ := Chain.prose_contents member prose
  have single : '\r' ∉ block.contents := by
    rw [contents]
    intro inside
    obtain ⟨interior, _, carriageReturn⟩ := List.mem_flatMap.mp inside
    exact Layout.not_mem_prose trimmed interior carriageReturn
  have written : block.contents ≠ [] := by
    obtain ⟨first, others, split⟩ := List.exists_cons_of_ne_nil nonempty
    simp [contents, split, Layout.prose_ne_nil trimmed first]
  obtain ⟨front, last, concat⟩ := List.eq_nil_or_concat' block.contents |>.resolve_left written
  -- Whichever terminator is last, the prose has no carriage return.
  have newline := ends last (by simp [concat])
  refine ⟨?_, single⟩
  rcases isNewline_iff.mp newline with rfl | rfl
  · exact absurd (by simp [concat]) single
  · exact ⟨front, concat.symm⟩

/-- A comment in front of a token. -/
def Trivia.comment (interior : Text) (span : Span) : Trivia :=
  { kind := .blockComment, text := ['/', '*'] ++ interior ++ ['*', '/'], span }

namespace Splitter

/-- The prose that a comment would be added to. -/
def openProse (splitter : Splitter) : Text :=
  match splitter.current with
  | some block => if block.kind = .prose then block.buffer else []
  | none => []

theorem pushLeading_comment {layout : Layout} {encoder : Encoder} {file : Nat} (interior : Text) (span : Span)
    (splitter : Splitter) : pushLeading layout encoder file [.comment interior span] splitter =
      (none, splitter.append layout .prose (layout.prose interior)) := by
  have delimited : commentInterior? (Trivia.comment interior span).text = some interior := commentInterior?_eq_some.mpr rfl
  rw [pushLeading, delimited]
  rfl

theorem append_prose (layout : Layout) (text : Text) (splitter : Splitter) :
    ∃ closed block, splitter.append layout .prose text = ⟨closed, some block⟩ ∧
      block.kind = .prose ∧ block.buffer = splitter.openProse ++ text := by
  obtain ⟨closed, current⟩ := splitter
  cases current with
  | none => exact ⟨closed, _, rfl, rfl, by simp [OpenBlock.buffer, Layout.opening, Frame.of?, openProse]⟩
  | some block =>
    by_cases prose : block.kind = .prose
    · exact ⟨closed, _, append_same prose text, prose, by simp [openProse, prose]⟩
    · exact ⟨_, _, append_other prose text, rfl, by simp [OpenBlock.buffer, Layout.opening, Frame.of?, openProse, prose]⟩

end Splitter

/-- A comment adds its lines without the common margin, each with a line feed. -/
theorem trimmed_comments_add_lines (format : Format) (language : Text) (encoder : Encoder) (file : Nat) :
    let layout : Layout := ⟨format, true, language⟩
    (∀ interior span splitter, ∃ closed block,
      Splitter.pushLeading layout encoder file [.comment interior span] splitter = (none, ⟨closed, some block⟩) ∧
      block.kind = .prose ∧
      block.buffer = splitter.openProse ++ (trimMargin (dropEndWhile isPad interior)).flatMap (· ++ ['\n'])) ∧
    (∀ source chain, (Splitter.drain layout encoder (.ofSource source file) {}).map (Splitter.finish layout) = .ok chain →
      chain.ProseEndsLines) ∧
    (∀ tokens chain, (Splitter.pushAll layout encoder file tokens {}).map (Splitter.finish layout) = .ok chain →
      chain.ProseEndsLines) ∧
    ∀ interior other, interior.Respelled other → ∀ span splitter,
      Splitter.pushLeading layout encoder file [.comment interior span] splitter =
        Splitter.pushLeading layout encoder file [.comment other span] splitter := by
  intro layout
  have trimmed : layout.trim = true := rfl
  refine ⟨?_, ?_, ?_, ?_⟩
  · intro interior span splitter
    obtain ⟨closed, block, appended, prose, buffer⟩ := Splitter.append_prose layout (layout.prose interior) splitter
    rw [Splitter.pushLeading_comment, appended, ← Layout.prose_of_trim trimmed]
    exact ⟨closed, block, rfl, prose, buffer⟩
  · intro source chain accepted
    obtain ⟨events, rfl⟩ := Splitter.events_of_drain accepted
    exact Chain.ofEvents_proseEndsLines trimmed events
  · intro tokens chain accepted
    obtain ⟨events, rfl⟩ := Splitter.events_of_pushAll accepted
    exact Chain.ofEvents_proseEndsLines trimmed events
  · intro interior other respelled span splitter
    rw [Splitter.pushLeading_comment, Splitter.pushLeading_comment, Layout.prose_respelled trimmed respelled]

theorem trimmed_comments_add_lines_mixed :
    let layout : Layout := ⟨.plain, true, "c".toList⟩
    (∃ chain, (Splitter.drain layout id (.ofSource "/*\r\n  a\r   b\t*/x/*c*/\n/**/".toList 0) {}).map
      (Splitter.finish layout) = .ok chain ∧ chain.ProseEndsLines) ∧
    (∃ chain, (Splitter.pushAll layout id 0 [⟨.word, "x".toList, {}, [.comment "\n a\r".toList {}], []⟩] {}).map
      (Splitter.finish layout) = .ok chain ∧ chain.ProseEndsLines) ∧
    Splitter.pushLeading layout id 0 [.comment "a\r\nb".toList {}] {} =
      Splitter.pushLeading layout id 0 [.comment "a\rb".toList {}] {} := by
  intro layout
  obtain ⟨_, ofSource, ofTokens, respelling⟩ := trimmed_comments_add_lines .plain "c".toList id 0
  let code : Block := ⟨.verbatim, "``` c\nx/*c*/\n```\n".toList⟩
  have drained : (Splitter.drain layout id (.ofSource "/*\r\n  a\r   b\t*/x/*c*/\n/**/".toList 0) {}).map
      (Splitter.finish layout) = .ok [⟨.prose, "\na\n b\n".toList⟩, code, ⟨.prose, "\n".toList⟩] :=
    ok_of_toOption (by decide +kernel)
  have pushed : (Splitter.pushAll layout id 0 [⟨.word, "x".toList, {}, [.comment "\n a\r".toList {}], []⟩] {}).map
      (Splitter.finish layout) = .ok [⟨.prose, "\na\n\n".toList⟩, ⟨.verbatim, "``` c\nx\n```\n".toList⟩] :=
    ok_of_toOption (by decide +kernel)
  have ends : LineEnd ['\r'] ['b'] := .carriageReturn (by decide)
  have respelled : Respelled "a\r\nb".toList "a\rb".toList := .same rfl (.ending .both ends (.same rfl .done))
  exact ⟨⟨_, drained, ofSource _ _ drained⟩, ⟨_, pushed, ofTokens _ _ pushed⟩, respelling _ _ respelled {} {}⟩

end Literate
