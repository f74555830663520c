import Literate.Proofs.SplitterRuns

/-! Where the fences of a woven document stand. A fence opens a block of code only at the
start of a line. Code ends its last line itself, and so does prose whose margins are
trimmed; but prose that is kept as it was written ends wherever its comment was closed, and
the fence behind it may be in the middle of a line. -/

namespace Literate

open Text

/-- Empty, or with a line terminator at its end: what follows the text begins a line. -/
def Text.EndsLine (text : Text) : Prop := ∀ c ∈ text.getLast?, isNewline c = true

instance (text : Text) : Decidable text.EndsLine := Option.decidableForallMem text.getLast?

/-- Every block of code begins with a fence, and the fence begins a line of the document. -/
def Chain.FencesOpenLines (chain : Chain) : Prop :=
  ∀ front block back, chain = front ++ block :: back → block.kind = .verbatim →
    (Chain.document front).EndsLine ∧ ∃ behind, chain.document = Chain.document front ++ "```".toList ++ behind

namespace Text.EndsLine

theorem empty : EndsLine [] := by simp [EndsLine]

theorem append {front back : Text} (first : EndsLine front) (second : EndsLine back) : EndsLine (front ++ back) := by
  intro c last
  rw [List.getLast?_append] at last
  cases ending : back.getLast? with
  | none => exact first c (by simpa [ending] using last)
  | some d => exact second c (by simpa [ending] using last)

theorem of_append {front back : Text} (whole : EndsLine (front ++ back)) : EndsLine back := by
  intro c last
  apply whole c
  rw [Option.mem_def] at last ⊢
  rw [List.getLast?_append, last]
  rfl

theorem flatMap {α : Type} {write : α → Text} (items : List α) (each : ∀ item, EndsLine (write item)) :
    EndsLine (items.flatMap write) := by
  induction items with
  | nil => exact empty
  | cons item items ih => exact (each item).append ih

theorem terminated (text : Text) : EndsLine (text ++ ['\n']) := by simp [EndsLine, isNewline]

end Text.EndsLine

/-- What every chain in the plain format has. -/
structure Chain.Woven (chain : Chain) : Prop where
  alternates : chain.IsChain fun front back => front.kind ≠ back.kind
  framed : ∀ block ∈ chain, block.kind = .verbatim → ∃ body, block.contents = "```".toList ++ body ++ ['\n']

theorem Chain.document_concat (front : Chain) (last : Block) :
    Chain.document (front ++ [last]) = Chain.document front ++ last.contents := by
  simp [Chain.document]

theorem Chain.document_split (front : Chain) (block : Block) (back : Chain) :
    Chain.document (front ++ block :: back) = Chain.document front ++ block.contents ++ Chain.document back := by
  simp [Chain.document]

namespace Chain.Woven

variable {chain front back : Chain} {last block : Block}

theorem kind_ne (woven : chain.Woven) (split : chain = front ++ [last] ++ block :: back) : last.kind ≠ block.kind := by
  have cut := woven.alternates
  rw [split, List.append_assoc, List.singleton_append, List.isChain_append_cons_cons] at cut
  exact cut.2.1

/-- The block in front of prose is code, whose footer ends its line. -/
theorem endsLine_before_prose (woven : chain.Woven) (split : chain = front ++ block :: back)
    (prose : block.kind = .prose) : (Chain.document front).EndsLine := by
  rcases List.eq_nil_or_concat' front with rfl | ⟨earlier, last, rfl⟩
  · exact .empty
  · have code : last.kind = .verbatim := BlockKind.ne_prose.mp (prose ▸ woven.kind_ne split)
    obtain ⟨body, contents⟩ := woven.framed last (by simp [split]) code
    rw [Chain.document_concat, contents, ← List.append_assoc]
    exact .terminated _

theorem fencesOpenLines_iff (woven : chain.Woven) :
    chain.FencesOpenLines ↔ ∀ front prose code back, chain = front ++ [prose] ++ code :: back →
      prose.kind = .prose → code.kind = .verbatim → prose.contents.EndsLine := by
  constructor
  · intro fences front prose code back split _ verbatim
    have ends := (fences (front ++ [prose]) code back split verbatim).1
    rw [Chain.document_concat] at ends
    exact ends.of_append
  · intro ends front block back split verbatim
    constructor
    · rcases List.eq_nil_or_concat' front with rfl | ⟨earlier, last, rfl⟩
      · exact .empty
      · have prose : last.kind = .prose := BlockKind.ne_verbatim.mp (verbatim ▸ woven.kind_ne split)
        rw [Chain.document_concat]
        -- An empty block of prose leaves the fence behind the footer of the code before it.
        have before := woven.endsLine_before_prose (split.trans (List.append_assoc _ _ _)) prose
        exact before.append (ends earlier last block back split prose verbatim)
    · obtain ⟨body, contents⟩ := woven.framed block (by simp [split]) verbatim
      exact ⟨body ++ ['\n'] ++ Chain.document back, by rw [split, Chain.document_split, contents]; simp⟩

end Chain.Woven

section

variable {trim : Bool} {language : Text}

theorem Block.ofRun_framed {run : List Event} (uniform : Event.Uniform run)
    (verbatim : (Block.ofRun ⟨.plain, trim, language⟩ Format.plain.encoder run).kind = .verbatim) :
    ∃ body, (Block.ofRun ⟨.plain, trim, language⟩ Format.plain.encoder run).contents =
      "```".toList ++ body ++ ['\n'] := by
  cases uniform with
  | prose nonempty =>
    rw [ofRun_prose _ _ nonempty] at verbatim
    cases verbatim
  | @code texts nonempty =>
    have fence : trimEnd "```".toList = "```".toList := rfl
    have header : Format.plain.frame.header language = "```".toList ++ (' ' :: language ++ ['\n']) := rfl
    -- The rest of the header may be trimmed away with the code, the fence never is.
    rw [ofRun_code _ _ nonempty]
    simp only [header, List.append_assoc _ _ (texts.flatMap _), trimEnd_append fence]
    exact ⟨trimEnd (' ' :: language ++ ['\n'] ++ texts.flatMap Format.plain.encoder) ++ ['\n'] ++ "```".toList, by
      simp [Format.frame, Frame.of?]⟩

theorem Chain.woven_ofEvents (events : List Event) :
    (Chain.ofEvents ⟨.plain, trim, language⟩ Format.plain.encoder events).Woven where
  alternates := Chain.ofEvents_alternates events
  framed := by
    intro block member verbatim
    obtain ⟨run, cut, rfl⟩ := List.mem_map.mp member
    exact Block.ofRun_framed (Event.uniform_of_mem_splitBy cut) verbatim

theorem Layout.prose_endsLine (layout : Layout) (trimmed : layout.trim = true) (interior : Text) :
    (layout.prose interior).EndsLine := by
  rw [layout.prose_eq, if_pos trimmed]
  exact .flatMap _ .terminated

theorem Chain.prose_endsLine {layout : Layout} {encoder : Encoder} (trimmed : layout.trim = true) {events : List Event}
    {block : Block} (member : block ∈ Chain.ofEvents layout encoder events) (prose : block.kind = .prose) :
    block.contents.EndsLine := by
  obtain ⟨interiors, _, contents⟩ := Chain.prose_contents member prose
  rw [contents]
  exact .flatMap _ (layout.prose_endsLine trimmed)

theorem Chain.ofSource_events {source : Text} {file : Nat} {layout : Layout} {chain : Chain}
    (accepted : Chain.ofSource source file layout = .ok chain) :
    ∃ events, chain = Chain.ofEvents layout layout.format.encoder events :=
  Splitter.events_of_drain accepted

end

/-- Fences open lines if margins are trimmed, and otherwise exactly if all prose with code
behind it is empty or ends with a line terminator. -/
theorem fences_open_lines_iff {source language : Text} {file : Nat} {trim : Bool} {chain : Chain}
    (accepted : Chain.ofSource source file ⟨.plain, trim, language⟩ = .ok chain) :
    chain.FencesOpenLines ↔ trim = true ∨
      ∀ front prose code back, chain = front ++ [prose] ++ code :: back →
        prose.kind = .prose → code.kind = .verbatim → prose.contents.EndsLine := by
  obtain ⟨events, rfl⟩ := Chain.ofSource_events accepted
  rw [(Chain.woven_ofEvents events).fencesOpenLines_iff]
  constructor
  · exact .inr
  · rintro (trimmed | ends)
    · intro front prose code back split kind _
      exact Chain.prose_endsLine trimmed (by rw [split]; simp) kind
    · exact ends

theorem fences_open_lines_iff_closed_lines :
    ∃ chain, Chain.ofSource "/*a\n*/x /*b*/\n/**/y".toList 0 ⟨.plain, false, "c".toList⟩ = .ok chain ∧
      chain.FencesOpenLines := by
  let chain : Chain := [⟨.prose, "a\n".toList⟩, ⟨.verbatim, "``` c\nx /*b*/\n```\n".toList⟩, ⟨.prose, []⟩,
    ⟨.verbatim, "``` c\ny\n```\n".toList⟩]
  have accepted : Chain.ofSource "/*a\n*/x /*b*/\n/**/y".toList 0 ⟨.plain, false, "c".toList⟩ = .ok chain :=
    ok_of_toOption (by decide +kernel)
  have ends : ∀ block ∈ chain, block.kind = .prose → block.contents.EndsLine := by decide
  refine ⟨chain, accepted, (fences_open_lines_iff accepted).mpr (.inr ?_)⟩
  intro front prose code back split kind _
  exact ends prose (by rw [split]; simp) kind

/-- Prose that is not trimmed can leave a fence in the middle of a line. -/
theorem fence_behind_untrimmed_comment :
    ∃ chain, Chain.ofSource "/*a*/x".toList 0 ⟨.plain, false, "csharp".toList⟩ = .ok chain ∧
      chain.document = "a``` csharp\nx\n```\n".toList ∧ ¬ chain.FencesOpenLines := by
  let chain : Chain := [⟨.prose, "a".toList⟩, ⟨.verbatim, "``` csharp\nx\n```\n".toList⟩]
  refine ⟨chain, ok_of_toOption (by decide +kernel), by decide, ?_⟩
  intro fences
  have ends : Text.EndsLine "a".toList := (fences [⟨.prose, "a".toList⟩] _ [] rfl rfl).1
  exact absurd ends (by decide)

end Literate
