import Literate.Proofs.SplitterRuns

/-! The two formats show the same source. They fail together, they cut the source into the
same blocks, and a block of code holds the same text in both, once as it is and once
escaped. Code is escaped piece by piece and loses its last white space afterwards; both
amount to escaping the whole text after it was trimmed. -/

namespace Literate

open Text

namespace Text

/-- The text that was escaped. -/
def unescape : Text → Text
  | '&' :: 'a' :: 'm' :: 'p' :: ';' :: rest => '&' :: unescape rest
  | '&' :: 'l' :: 't' :: ';' :: rest => '<' :: unescape rest
  | '&' :: 'g' :: 't' :: ';' :: rest => '>' :: unescape rest
  | c :: rest => c :: unescape rest
  | [] => []

theorem unescape_cons {c : Char} (plain : c ≠ '&') (rest : Text) : unescape (c :: rest) = c :: unescape rest := by
  rw [unescape.eq_def]
  split <;> simp_all

theorem escape_flatten (texts : List Text) : escape texts.flatten = texts.flatMap escape := by
  induction texts with
  | nil => rfl
  | cons text texts ih => rw [List.flatten_cons, escape_append, ih, List.flatMap_cons]

/-- All that escaping can make of a character. -/
theorem escapeChar_cases (c : Char) :
    c = '&' ∧ escapeChar c = "&amp;".toList ∨ c = '<' ∧ escapeChar c = "&lt;".toList ∨
    c = '>' ∧ escapeChar c = "&gt;".toList ∨ c ≠ '&' ∧ c ≠ '<' ∧ c ≠ '>' ∧ escapeChar c = [c] := by
  unfold escapeChar
  split
  next ampersand => exact .inl ⟨ampersand, rfl⟩
  next plain =>
    split
    next less => exact .inr (.inl ⟨less, rfl⟩)
    next notLess =>
      split
      next greater => exact .inr (.inr (.inl ⟨greater, rfl⟩))
      next notGreater => exact .inr (.inr (.inr ⟨plain, notLess, notGreater, rfl⟩))

theorem unescape_escape (text : Text) : unescape (escape text) = text := by
  induction text with
  | nil => rfl
  | cons c text ih =>
    change unescape (escapeChar c ++ escape text) = _
    obtain ⟨rfl, written⟩ | ⟨rfl, written⟩ | ⟨rfl, written⟩ | ⟨plain, _, _, written⟩ := escapeChar_cases c
    · simp [written, unescape, ih]
    · simp [written, unescape, ih]
    · simp [written, unescape, ih]
    · rw [written, List.singleton_append, unescape_cons plain, ih]

theorem not_mem_escape {bracket : Char} (angle : bracket = '<' ∨ bracket = '>') (text : Text) :
    bracket ∉ escape text := by
  intro member
  obtain ⟨c, _, inside⟩ := List.mem_flatMap.mp member
  obtain ⟨_, written⟩ | ⟨_, written⟩ | ⟨_, written⟩ | ⟨_, notLess, notGreater, written⟩ := escapeChar_cases c
  all_goals rw [written] at inside
  · rcases angle with rfl | rfl <;> simp at inside
  · rcases angle with rfl | rfl <;> simp at inside
  · rcases angle with rfl | rfl <;> simp at inside
  · obtain rfl := List.mem_singleton.mp inside
    exact angle.elim notLess notGreater

theorem escapeChar_of_isSpace {c : Char} (space : isSpace c = true) : escapeChar c = [c] := by
  obtain ⟨rfl, _⟩ | ⟨rfl, _⟩ | ⟨rfl, _⟩ | ⟨_, _, _, written⟩ := escapeChar_cases c
  · cases space
  · cases space
  · cases space
  · exact written

/-- A character that is not white space is not written as white space. -/
theorem trimEnd_escapeChar {c : Char} (visible : isSpace c = false) : trimEnd (escapeChar c) = escapeChar c := by
  obtain ⟨_, written⟩ | ⟨_, written⟩ | ⟨_, written⟩ | ⟨_, _, _, written⟩ := escapeChar_cases c
  all_goals rw [written]
  · rfl
  · rfl
  · rfl
  · simp [trimEnd, dropEndWhile, visible]

theorem escapeChar_ne_nil (c : Char) : escapeChar c ≠ [] := by
  obtain ⟨_, written⟩ | ⟨_, written⟩ | ⟨_, written⟩ | ⟨_, _, _, written⟩ := escapeChar_cases c
  all_goals simp [written]

theorem trimEnd_escape (text : Text) : trimEnd (escape text) = escape (trimEnd text) := by
  -- From the end: both sides go on at white space, and both stop at any other character.
  induction text using List.reverseRecOn with
  | nil => rfl
  | append_singleton text c ih =>
    have last : escape (text ++ [c]) = escape text ++ escapeChar c := by simp [escape]
    by_cases space : isSpace c = true
    · rw [last, escapeChar_of_isSpace space]
      calc trimEnd (escape text ++ [c])
        _ = trimEnd (escape text) := dropEndWhile_append _ (by simpa using space)
        _ = escape (trimEnd text) := ih
        _ = escape (trimEnd (text ++ [c])) := by
          rw [trimEnd, trimEnd, dropEndWhile_append text (by simpa using space)]
    · have visible : isSpace c = false := by simpa using space
      have kept : dropEndWhile isSpace [c] = [c] := by simp [dropEndWhile, visible]
      have whole : trimEnd (text ++ [c]) = text ++ [c] := by
        rw [trimEnd, dropEndWhile_append_of_ne_nil text (by simp [kept]), kept]
      have written : trimEnd (escapeChar c) ≠ [] := by
        rw [trimEnd_escapeChar visible]
        exact escapeChar_ne_nil c
      rw [whole, last, trimEnd, dropEndWhile_append_of_ne_nil _ written]
      exact congrArg (escape text ++ ·) (trimEnd_escapeChar visible)

end Text

/-- One block in the plain and in the styled format. -/
def Block.InBothFormats (language : Text) (plain styled : Block) : Prop :=
  plain.kind = styled.kind ∧
  match plain.kind with
  | .prose => plain.contents = styled.contents
  | .verbatim => ∃ raw,
      plain.contents = trimEnd ("``` ".toList ++ language ++ ['\n'] ++ raw) ++ "\n```\n".toList ∧
      styled.contents = "<pre class=\"".toList ++ language ++ "\"><code class=\"".toList ++ language ++ "\">".toList ++
        escape (trimEnd raw) ++ "\n</code></pre>\n".toList ∧
      '<' ∉ escape (trimEnd raw) ∧ '>' ∉ escape (trimEnd raw) ∧ unescape (escape (trimEnd raw)) = trimEnd raw

theorem Block.ofRun_inBothFormats (trim : Bool) (language : Text) (run : List Event) (uniform : Event.Uniform run) :
    Block.InBothFormats language (.ofRun ⟨.plain, trim, language⟩ Format.plain.encoder run)
      (.ofRun ⟨.styled, trim, language⟩ Format.styled.encoder run) := by
  cases uniform with
  | @prose interiors nonempty =>
    rw [ofRun_prose _ _ nonempty, ofRun_prose _ _ nonempty]
    exact ⟨rfl, rfl⟩
  | @code texts nonempty =>
    rw [ofRun_code _ _ nonempty, ofRun_code _ _ nonempty]
    refine ⟨rfl, texts.flatten, ?_, ?_, not_mem_escape (.inl rfl) _, not_mem_escape (.inr rfl) _,
      unescape_escape _⟩
    · simp [Format.frame, Frame.of?, Format.encoder]
    · have header : trimEnd (Format.styled.frame.header language) = Format.styled.frame.header language := by
        change dropEndWhile isSpace (_ ++ "\">".toList) = _
        rw [dropEndWhile_append_of_ne_nil _ (by decide)]
        rfl
      have code : texts.flatMap Format.styled.encoder = escape texts.flatten := (escape_flatten texts).symm
      simp only [code, trimEnd_append header, trimEnd_escape]
      simp [Format.frame, Frame.of?]

/-- Everything that is split is split alike for both formats. -/
theorem formats_agree (trim : Bool) (language : Text) :
    (∀ source file, Agree (List.Forall₂ (Block.InBothFormats language))
      (Chain.ofSource source file ⟨.plain, trim, language⟩) (Chain.ofSource source file ⟨.styled, trim, language⟩)) ∧
    ∀ tokens, Agree (List.Forall₂ (Block.InBothFormats language))
      (Chain.ofTokens tokens ⟨.plain, trim, language⟩) (Chain.ofTokens tokens ⟨.styled, trim, language⟩) := by
  have similar := Block.ofRun_inBothFormats trim language
  exact ⟨fun source file => Splitter.drain_agree similar _, Splitter.pushAll_agree similar 0⟩

end Literate
