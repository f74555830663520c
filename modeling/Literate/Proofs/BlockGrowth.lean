import Literate.Proofs.SplitterRuns

/-! Blocks while tokens are still being pushed. At every moment the blocks alternate, and a
token changes nothing but the end of the last block: the blocks before it are final, and
new ones come behind it. A malformed comment makes no difference to this. -/

namespace Literate

open Text

/-- The second block is the first one with more text at its end, in front of the footer. -/
def Block.GrowsTo (format : Format) (block grown : Block) : Prop :=
  grown.kind = block.kind ∧
  match block.kind with
  | .prose => block.contents <+: grown.contents
  | .verbatim => ∃ body, block.contents = body ++ ['\n'] ++ format.frame.footer ++ ['\n'] ∧ body <+: grown.contents

/-- How blocks go on when more is pushed: all but the last one stay, and the last one stays
in its place and may grow. -/
structure Chain.Extends (format : Format) (before after : Chain) : Prop where
  kept : before.dropLast <+: after
  last : ∀ block ∈ before.getLast?, ∃ grown, after[before.length - 1]? = some grown ∧ block.GrowsTo format grown

/-- The blocks after the first `count` tokens. A fault does not end the pushing, and what
its token added before it stays. -/
def Splitter.blocksAfter (layout : Layout) (encoder : Encoder) (file : Nat) (tokens : List Token) (count : Nat) : Chain :=
  let pushed := (tokens.take count).foldl (fun splitter token => (push layout encoder file token splitter).2) {}
  pushed.finish layout

/-- The white space that closing takes off was not yet followed by anything. -/
theorem Layout.close_growsTo (layout : Layout) (kind : BlockKind) (buffer more : Text) :
    (layout.close kind buffer).GrowsTo layout.format (layout.close kind (buffer ++ more)) := by
  refine ⟨rfl, ?_⟩
  cases kind with
  | prose => exact List.prefix_append buffer more
  | verbatim =>
    have framed (text : Text) : (layout.close .verbatim text).contents =
        trimEnd text ++ ['\n'] ++ layout.format.frame.footer ++ ['\n'] := by
      cases format : layout.format <;> simp [Layout.close, Frame.of?, Format.frame, format]
    refine ⟨trimEnd buffer, framed buffer, ?_⟩
    rw [framed, List.append_assoc, List.append_assoc]
    exact (dropEndWhile_isPrefix isSpace buffer more).trans (List.prefix_append _ _)

namespace Splitter

variable {layout : Layout} {encoder : Encoder}

/-- All that an event can do to an open block. -/
theorem step_cases (closed : Chain) (block : OpenBlock) (event : Event) :
    step layout encoder ⟨closed, some block⟩ event = ⟨closed, some block⟩ ∨
    (∃ text, step layout encoder ⟨closed, some block⟩ event = ⟨closed, some (block.append text)⟩) ∨
    ∃ next, step layout encoder ⟨closed, some block⟩ event =
      ⟨closed ++ [layout.close block.kind block.buffer], some next⟩ := by
  by_cases empty : event = .code []
  · subst empty
    exact .inl (step_empty _)
  by_cases hidden : block.kind = .prose ∧ event.isBlank = true
  · obtain ⟨prose, blank⟩ := hidden
    cases event with
    | prose interior => cases blank
    | code text => exact .inl (step_blank prose blank)
  · have kept : block.kind = .prose → event.isBlank = false := by
      intro prose
      rw [← Bool.not_eq_true]
      exact fun blank => hidden ⟨prose, blank⟩
    rw [step_shown empty (by simpa using kept)]
    by_cases same : block.kind = event.kind
    · exact .inr (.inl ⟨_, append_same same _⟩)
    · exact .inr (.inr ⟨_, append_other same _⟩)

/-- Later events add to the open block or come behind it. -/
theorem finish_foldl_step_open (events : List Event) (closed : Chain) (block : OpenBlock) :
    ∃ more rest, (events.foldl (step layout encoder) ⟨closed, some block⟩).finish layout =
      closed ++ layout.close block.kind (block.buffer ++ more) :: rest := by
  induction events generalizing closed block with
  | nil => exact ⟨[], [], by simp [finish]⟩
  | cons event events ih =>
    rw [List.foldl_cons]
    rcases step_cases closed block event with unchanged | ⟨text, grown⟩ | ⟨next, switched⟩
    · rw [unchanged]
      exact ih closed block
    · obtain ⟨more, rest, finished⟩ := ih closed (block.append text)
      refine ⟨text ++ more, rest, ?_⟩
      rw [grown, finished]
      simp
    · -- From here on the block is one of the closed ones, and the induction is about the next.
      obtain ⟨more, rest, finished⟩ := ih (closed ++ [layout.close block.kind block.buffer]) next
      refine ⟨[], layout.close next.kind (next.buffer ++ more) :: rest, ?_⟩
      rw [switched, finished]
      simp

/-- A block is closed only when another one is opened. -/
def Started (splitter : Splitter) : Prop := splitter.current = none → splitter.closed = []

theorem started_append (kind : BlockKind) (text : Text) (splitter : Splitter) :
    (splitter.append layout kind text).Started := by
  intro none
  unfold append at none
  split at none
  next => cases none
  next => split at none <;> cases none

theorem Started.step {splitter : Splitter} (started : splitter.Started) (event : Event) :
    (splitter.step layout encoder event).Started := by
  cases event with
  | prose interior => exact started_append .prose _ splitter
  | code text =>
    rw [Splitter.step, appendCode]
    split
    next => exact started
    next =>
      split
      next => exact started
      next => exact started_append .verbatim _ splitter

theorem Started.run {splitter : Splitter} (started : splitter.Started) (events : List Event) :
    (events.foldl (Splitter.step layout encoder) splitter).Started := by
  induction events generalizing splitter with
  | nil => exact started
  | cons event events ih => exact ih (started.step event)

theorem Started.extends {splitter : Splitter} (started : splitter.Started) (events : List Event) :
    (splitter.finish layout).Extends layout.format
      ((events.foldl (Splitter.step layout encoder) splitter).finish layout) := by
  obtain ⟨closed, current⟩ := splitter
  cases current with
  | none =>
    obtain rfl : closed = [] := started rfl
    constructor
    · exact List.nil_prefix
    · simp [finish]
  | some block =>
    obtain ⟨more, rest, finished⟩ := @finish_foldl_step_open layout encoder events closed block
    rw [finished]
    constructor
    · simp [finish]
    · intro last ends
      obtain rfl : layout.close block.kind block.buffer = last := by simpa [finish] using ends
      exact ⟨layout.close block.kind (block.buffer ++ more), by simp [finish], layout.close_growsTo _ _ _⟩

theorem foldl_push_run (file : Nat) (tokens : List Token) :
    ∃ events : List Event, ∀ layout encoder splitter,
      tokens.foldl (fun splitter token => (push layout encoder file token splitter).2) splitter =
        events.foldl (step layout encoder) splitter := by
  induction tokens with
  | nil => exact ⟨[], fun _ _ _ => rfl⟩
  | cons token tokens ih =>
    obtain ⟨_, events, pushed⟩ := push_run file token
    obtain ⟨later, rest⟩ := ih
    refine ⟨events ++ later, fun layout encoder splitter => ?_⟩
    rw [List.foldl_cons, pushed, rest, List.foldl_append]

end Splitter

/-- Closed blocks are final, whatever tokens follow and whatever is wrong with them. -/
theorem blocks_alternate_and_grow (layout : Layout) (encoder : Encoder) (file : Nat) (tokens : List Token) (count : Nat) :
    (Splitter.blocksAfter layout encoder file tokens count).IsChain (fun front back => front.kind ≠ back.kind) ∧
    (Splitter.blocksAfter layout encoder file tokens count).Extends layout.format
      (Splitter.blocksAfter layout encoder file tokens (count + 1)) := by
  obtain ⟨events, pushed⟩ := Splitter.foldl_push_run file (tokens.take count)
  obtain ⟨more, next⟩ := Splitter.foldl_push_run file tokens[count]?.toList
  have here : Splitter.blocksAfter layout encoder file tokens count =
      (events.foldl (Splitter.step layout encoder) {}).finish layout := by
    rw [Splitter.blocksAfter, pushed]
  have later : Splitter.blocksAfter layout encoder file tokens (count + 1) =
      (more.foldl (Splitter.step layout encoder) (events.foldl (Splitter.step layout encoder) {})).finish layout := by
    rw [Splitter.blocksAfter, List.take_add_one, List.foldl_append, pushed, next]
  constructor
  · rw [here, Splitter.finish_foldl_step_empty]
    exact Chain.ofEvents_alternates events
  · have empty : ({} : Splitter).Started := fun _ => rfl
    rw [here, later]
    exact (empty.run events).extends more

end Literate
