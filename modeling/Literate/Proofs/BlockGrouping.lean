import Literate.Proofs.BlockEvents
import Literate.Proofs.ProseTrimming
import Mathlib.Data.List.SplitBy

/-! Blocks as the maximal runs of a list of events. The splitter looks only at its open
block; here the blank lines after prose are taken out of the whole list first, and the
rest is cut where the kind of event changes. -/

namespace Literate

open Text

/-- The frame of code blocks, which every format has. -/
def Format.frame (format : Format) : Frame := (Frame.of? .verbatim format).get (by cases format <;> rfl)

namespace Event

def kind : Event → BlockKind
  | prose _ => .prose
  | code _ => .verbatim

def isBlank : Event → Bool
  | prose _ => false
  | code text => isBlankLine text

/-- What an event adds to its block. The margin is found anew for each comment, and only
code is encoded. -/
def shown (layout : Layout) (encoder : Encoder) : Event → Text
  | prose interior =>
    if layout.trim then (trimMargin (dropEndWhile isPad interior)).flatMap (· ++ ['\n']) else interior
  | code text => encoder text

/-- The events without the blank lines that follow prose directly. -/
def withoutBlanks : List Event → List Event
  | [] => []
  | prose interior :: events => prose interior :: withoutBlanks (events.dropWhile isBlank)
  | code text :: events => code text :: withoutBlanks events
termination_by events => events.length
decreasing_by
  · exact Nat.lt_succ_of_le (List.dropWhile_sublist _).length_le
  · simp

def visible (events : List Event) : List Event := withoutBlanks (events.filter (· ≠ code []))

end Event

/-- The block of a run of events, which are all of the first one's kind. -/
def Block.ofRun (layout : Layout) (encoder : Encoder) (run : List Event) : Block :=
  let text := run.flatMap (Event.shown layout encoder)
  match run.head?.map Event.kind with
  | some .prose => ⟨.prose, text⟩
  | _ =>
    let frame := layout.format.frame
    ⟨.verbatim, trimEnd (frame.header layout.language ++ text) ++ ['\n'] ++ frame.footer ++ ['\n']⟩

/-- One block for each maximal run of events of one kind. -/
def Chain.ofEvents (layout : Layout) (encoder : Encoder) (events : List Event) : Chain :=
  ((Event.visible events).splitBy (·.kind = ·.kind)).map (Block.ofRun layout encoder)

namespace Event

/-- What is left of events after the open block has a kind: only prose hides the blank
lines in front of them. -/
def remaining (kind : BlockKind) (events : List Event) : List Event :=
  match kind with
  | .prose => withoutBlanks (events.dropWhile isBlank)
  | .verbatim => withoutBlanks events

theorem remaining_nil (kind : BlockKind) : remaining kind [] = [] := by
  cases kind <;> simp [remaining, withoutBlanks]

theorem remaining_blank {event : Event} {events : List Event} (blank : event.isBlank = true) :
    remaining .prose (event :: events) = remaining .prose events := by
  simp [remaining, blank]

theorem remaining_cons {kind : BlockKind} {event : Event} {events : List Event}
    (kept : kind = .prose → event.isBlank = false) :
    remaining kind (event :: events) = event :: remaining event.kind events := by
  have first : withoutBlanks (event :: events) = event :: remaining event.kind events := by
    cases event <;> rw [withoutBlanks] <;> rfl
  cases kind with
  | prose => rw [← first, remaining, List.dropWhile_cons_of_neg (by simp [kept rfl])]
  | verbatim => exact first

end Event

namespace Splitter

variable {layout : Layout} {encoder : Encoder}

/-- Events with no text at all are not seen. -/
theorem foldl_step_filter (events : List Event) (splitter : Splitter) :
    (events.filter (· ≠ .code [])).foldl (step layout encoder) splitter =
      events.foldl (step layout encoder) splitter := by
  induction events generalizing splitter with
  | nil => rfl
  | cons event events ih =>
    rw [List.filter_cons, List.foldl_cons]
    split
    next nonempty => exact ih (step layout encoder splitter event)
    next empty =>
      have same : event = .code [] := by simpa using empty
      rw [same, step_empty]
      exact ih splitter

theorem step_shown {splitter : Splitter} {event : Event} (nonempty : event ≠ .code [])
    (kept : splitter.current.any (·.kind = .prose) = true → event.isBlank = false) :
    step layout encoder splitter event = splitter.append layout event.kind (event.shown layout encoder) := by
  cases event with
  | prose interior =>
    rw [step, Layout.prose_eq]
    rfl
  | code text =>
    have written : text ≠ [] := fun empty => nonempty (by rw [empty])
    exact step_code written kept

end Splitter

/-- The open block was filled by exactly these events. -/
structure OpenBlock.Holds (layout : Layout) (encoder : Encoder) (run : List Event) (block : OpenBlock) : Prop where
  nonempty : run ≠ []
  kinds : ∀ event ∈ run, event.kind = block.kind
  buffer : block.buffer = layout.opening block.kind ++ run.flatMap (Event.shown layout encoder)

namespace OpenBlock.Holds

variable {layout : Layout} {encoder : Encoder} {run : List Event} {block : OpenBlock}

theorem first (event : Event) :
    Holds layout encoder [event] ⟨event.kind, [event.shown layout encoder, layout.opening event.kind]⟩ where
  nonempty := by simp
  kinds := by simp
  buffer := by simp [OpenBlock.buffer]

theorem next (holds : Holds layout encoder run block) {event : Event} (same : block.kind = event.kind) :
    Holds layout encoder (run ++ [event]) (block.append (event.shown layout encoder)) where
  nonempty := by simp
  kinds := by
    intro other member
    rcases List.mem_append.mp member with earlier | last
    · exact holds.kinds other earlier
    · rw [List.mem_singleton.mp last]
      exact same.symm
  buffer := by simp [holds.buffer]

theorem close (holds : Holds layout encoder run block) :
    layout.close block.kind block.buffer = Block.ofRun layout encoder run := by
  obtain ⟨event, rest, cons⟩ := List.exists_cons_of_ne_nil holds.nonempty
  have kind : event.kind = block.kind := holds.kinds event (by simp [cons])
  have head : run.head?.map Event.kind = some block.kind := by simp [cons, kind]
  rw [holds.buffer, Block.ofRun, head]
  cases block.kind with
  | prose => rfl
  | verbatim => cases format : layout.format <;> simp [Layout.close, Layout.opening, Frame.of?, Format.frame, format]

theorem alone (holds : Holds layout encoder run block) : run.splitBy (·.kind = ·.kind) = [run] := by
  apply List.splitBy_of_isChain holds.nonempty
  apply List.Pairwise.isChain
  apply List.pairwise_of_forall_mem_list
  intro one left other right
  simp [holds.kinds one left, holds.kinds other right]

end OpenBlock.Holds

namespace Splitter

variable {layout : Layout} {encoder : Encoder}

/-- The open block is the beginning of a run that the remaining events go on with. -/
theorem finish_foldl_step {events : List Event} {closed : Chain} {block : OpenBlock} {run : List Event}
    (nonempty : ∀ event ∈ events, event ≠ .code []) (holds : block.Holds layout encoder run) :
    (events.foldl (step layout encoder) ⟨closed, some block⟩).finish layout =
      closed ++ ((run ++ Event.remaining block.kind events).splitBy (·.kind = ·.kind)).map
        (Block.ofRun layout encoder) := by
  induction events generalizing closed block run with
  | nil => simp [finish, Event.remaining_nil, holds.alone, holds.close]
  | cons event events ih =>
    have rest : ∀ other ∈ events, other ≠ .code [] := fun other member => nonempty other (by simp [member])
    rw [List.foldl_cons]
    by_cases hidden : block.kind = .prose ∧ event.isBlank = true
    · obtain ⟨prose, blank⟩ := hidden
      have unchanged : step layout encoder ⟨closed, some block⟩ event = ⟨closed, some block⟩ := by
        cases event with
        | prose interior => cases blank
        | code text => exact step_blank prose blank
      rw [unchanged, ih rest holds, prose, Event.remaining_blank blank]
    · have kept : block.kind = .prose → event.isBlank = false := by
        intro prose
        rw [← Bool.not_eq_true]
        exact fun blank => hidden ⟨prose, blank⟩
      rw [step_shown (nonempty event (by simp)) (by simpa using kept), Event.remaining_cons kept]
      by_cases same : block.kind = event.kind
      · rw [append_same same, ih rest (holds.next same)]
        simp [same]
      · rw [append_other same, ih rest (.first event), holds.close]
        have cut : ∀ last ∈ run.getLast?, decide (last.kind = event.kind) = false := by
          intro last ends
          rw [holds.kinds last (List.mem_of_getLast? ends)]
          exact decide_eq_false same
        rw [List.splitBy_append_cons _ cut, holds.alone]
        simp

theorem finish_foldl_step_empty (events : List Event) :
    (events.foldl (step layout encoder) {}).finish layout = Chain.ofEvents layout encoder events := by
  rw [← foldl_step_filter, Chain.ofEvents, Event.visible]
  have nonempty : ∀ event ∈ events.filter (· ≠ .code []), event ≠ .code [] := by
    intro event member
    simpa using (List.mem_filter.mp member).2
  cases seen : events.filter (· ≠ .code []) with
  | nil => simp [finish, Event.withoutBlanks]
  | cons event events =>
    rw [seen] at nonempty
    have first : Event.remaining .verbatim (event :: events) = event :: Event.remaining event.kind events :=
      Event.remaining_cons (by simp)
    rw [List.foldl_cons, step_shown (nonempty event (by simp)) (by simp)]
    change _ = ((Event.remaining .verbatim (event :: events)).splitBy _).map _
    rw [first]
    exact finish_foldl_step (fun other member => nonempty other (by simp [member])) (.first event)

end Splitter

theorem split_eq_runs (layout : Layout) (encoder : Encoder) (file : Nat) (tokens : List Token)
    (delimited : ∀ token ∈ tokens, ∀ trivia ∈ token.leading, trivia.Delimited) :
    (Splitter.pushAll layout encoder file tokens {}).map (Splitter.finish layout) =
      .ok (Chain.ofEvents layout encoder (tokens.flatMap Token.events)) := by
  rw [Splitter.pushAll_eq delimited]
  exact congrArg Except.ok (Splitter.finish_foldl_step_empty _)

theorem split_eq_runs_blank_line :
    (Splitter.pushAll ⟨.plain, true, "c".toList⟩ id 0 [⟨.word, "x".toList, {}, [⟨.blockComment, "/*  a */".toList, {}⟩,
      ⟨.whitespace, "\n".toList, {}⟩, ⟨.blockComment, "/**/".toList, {}⟩], [⟨.whitespace, "\n".toList, {}⟩]⟩] {}).map
        (Splitter.finish ⟨.plain, true, "c".toList⟩) =
      .ok [⟨.prose, "a\n\n".toList⟩, ⟨.verbatim, "``` c\nx\n```\n".toList⟩] := by
  rw [split_eq_runs]
  · exact congrArg Except.ok (by decide +kernel)
  · intro token only trivia member comment
    rw [List.mem_singleton.mp only] at member
    simp only [List.mem_cons, List.not_mem_nil, or_false] at member
    obtain rfl | rfl | rfl := member
    · exact ⟨"  a ".toList, rfl⟩
    · cases comment
    · exact ⟨[], rfl⟩

end Literate
