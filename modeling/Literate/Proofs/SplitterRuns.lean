import Literate.Proofs.BlockGrouping
import Mathlib.Data.Set.List

/-! What a layout and an encoder cannot change. Which events the tokens are, and the fault
that ends them, depend on the tokens alone, also where a comment is malformed; so two ways
of splitting are compared block by block, on the same runs of events. -/

namespace Literate

open Text

namespace Splitter

theorem pushLeading_run (file : Nat) (leading : List Trivia) :
    ∃ (fault : Option Fault) (events : List Event), ∀ layout encoder splitter,
      pushLeading layout encoder file leading splitter = (fault, events.foldl (step layout encoder) splitter) := by
  -- The events come before layout, encoder and splitter: none of these has a say in them.
  induction leading with
  | nil => exact ⟨none, [], fun _ _ _ => rfl⟩
  | cons trivia leading ih =>
    obtain ⟨fault, events, rest⟩ := ih
    by_cases comment : trivia.kind = .blockComment
    · cases found : commentInterior? trivia.text with
      | none => exact ⟨some (Cause.malformedComment.fault trivia.span file), [], by simp [pushLeading, comment, found]⟩
      | some interior => exact ⟨fault, .prose interior :: events, by simp [pushLeading, comment, found, rest, step]⟩
    · exact ⟨fault, .code trivia.text :: events, by simp [pushLeading, comment, rest, step]⟩

/-- All that pushing a token can do: a step for each of its events, up to a malformed
comment. -/
theorem push_run (file : Nat) (token : Token) :
    ∃ (fault : Option Fault) (events : List Event), ∀ layout encoder splitter,
      push layout encoder file token splitter = (fault, events.foldl (step layout encoder) splitter) := by
  obtain ⟨fault, events, led⟩ := pushLeading_run file token.leading
  cases fault with
  | some fault => exact ⟨some fault, events, fun layout encoder splitter => by simp [push, led]⟩
  | none =>
    refine ⟨none, events ++ .code token.text :: token.trailing.map (.code ·.text), fun layout encoder splitter => ?_⟩
    simp [push, led, List.foldl_append, List.foldl_map, step]

theorem pushAll_run (file : Nat) (tokens : List Token) :
    ∃ outcome : Except Fault (List Event), ∀ layout encoder splitter,
      pushAll layout encoder file tokens splitter =
        outcome.map fun events => events.foldl (step layout encoder) splitter := by
  induction tokens with
  | nil => exact ⟨.ok [], fun _ _ _ => rfl⟩
  | cons token tokens ih =>
    obtain ⟨fault, events, pushed⟩ := push_run file token
    obtain ⟨outcome, rest⟩ := ih
    cases fault with
    | some fault => exact ⟨.error fault, fun layout encoder splitter => by rw [pushAll, pushed]; rfl⟩
    | none =>
      refine ⟨outcome.map (events ++ ·), fun layout encoder splitter => ?_⟩
      rw [pushAll, pushed]
      change pushAll layout encoder file tokens _ = _
      rw [rest]
      cases outcome with
      | error fault => rfl
      | ok later => simp [Except.map]

theorem drain_run (lexer : Lexer) :
    ∃ outcome : Except Fault (List Event), ∀ layout encoder splitter,
      drain layout encoder lexer splitter =
        outcome.map fun events => events.foldl (step layout encoder) splitter := by
  obtain ⟨outcome, pushed⟩ := pushAll_run lexer.file lexer.run.1
  refine ⟨outcome.bind fun events => lexer.run.2.1.elim (.ok events) .error, fun layout encoder splitter => ?_⟩
  rw [drain_eq, pushed]
  cases outcome with
  | error fault => rfl
  | ok events => cases lexer.run.2.1 <;> rfl

end Splitter

/-- Two results are failures for the same reason, or results that are related. -/
inductive Agree {α β : Type} (related : α → β → Prop) : Except Fault α → Except Fault β → Prop where
  | failed (fault : Fault) : Agree related (.error fault) (.error fault)
  | done {first second} (similar : related first second) : Agree related (.ok first) (.ok second)

theorem Agree.map {α β γ : Type} {related : β → γ → Prop} {first : α → β} {second : α → γ}
    (outcome : Except Fault α) (similar : ∀ value, related (first value) (second value)) :
    Agree related (outcome.map first) (outcome.map second) := by
  cases outcome with
  | error fault => exact .failed fault
  | ok value => exact .done (similar value)

theorem BlockKind.ne_prose {kind : BlockKind} : kind ≠ .prose ↔ kind = .verbatim := by cases kind <;> simp

theorem BlockKind.ne_verbatim {kind : BlockKind} : kind ≠ .verbatim ↔ kind = .prose := by cases kind <;> simp

namespace Event

/-- A run is a list of comments or a list of pieces of code, and it is never empty. -/
inductive Uniform : List Event → Prop where
  | prose {interiors : List Text} (nonempty : interiors ≠ []) : Uniform (interiors.map .prose)
  | code {texts : List Text} (nonempty : texts ≠ []) : Uniform (texts.map .code)

theorem uniform_of_kind {run : List Event} {kind : BlockKind} (nonempty : run ≠ [])
    (same : ∀ event ∈ run, event.kind = kind) : Uniform run := by
  cases kind with
  | prose =>
    obtain ⟨interiors, rfl⟩ : run ∈ Set.range (List.map Event.prose) := by
      rw [Set.range_list_map]
      intro event member
      cases event with
      | prose interior => exact ⟨interior, rfl⟩
      | code text => cases same (.code text) member
    exact .prose (by simpa using nonempty)
  | verbatim =>
    obtain ⟨texts, rfl⟩ : run ∈ Set.range (List.map Event.code) := by
      rw [Set.range_list_map]
      intro event member
      cases event with
      | prose interior => cases same (.prose interior) member
      | code text => exact ⟨text, rfl⟩
    exact .code (by simpa using nonempty)

theorem kind_of_isChain {first : Event} {rest : List Event}
    (alike : (first :: rest).IsChain fun one other => decide (one.kind = other.kind) = true) :
    ∀ event ∈ first :: rest, event.kind = first.kind := by
  induction rest generalizing first with
  | nil => simp
  | cons second rest ih =>
    obtain ⟨same, later⟩ := List.isChain_cons_cons.mp alike
    intro event member
    rcases List.mem_cons.mp member with rfl | behind
    · rfl
    · rw [ih later event behind]
      exact (of_decide_eq_true same).symm

theorem uniform_of_mem_splitBy {events run : List Event} (member : run ∈ events.splitBy (·.kind = ·.kind)) :
    Uniform run := by
  have nonempty := List.ne_nil_of_mem_splitBy member
  obtain ⟨first, rest, rfl⟩ := List.exists_cons_of_ne_nil nonempty
  exact uniform_of_kind nonempty (kind_of_isChain (List.isChain_of_mem_splitBy member))

end Event

namespace Block

variable (layout : Layout) (encoder : Encoder)

theorem ofRun_prose {interiors : List Text} (nonempty : interiors ≠ []) :
    Block.ofRun layout encoder (interiors.map .prose) = ⟨.prose, interiors.flatMap layout.prose⟩ := by
  have shown : (interiors.map Event.prose).flatMap (Event.shown layout encoder) = interiors.flatMap layout.prose := by
    rw [List.flatMap_map]
    exact List.flatMap_congr fun interior _ => (layout.prose_eq interior).symm
  rw [Block.ofRun, shown]
  cases interiors with
  | nil => exact absurd rfl nonempty
  | cons first rest => rfl

theorem ofRun_code {texts : List Text} (nonempty : texts ≠ []) :
    Block.ofRun layout encoder (texts.map .code) =
      ⟨.verbatim, trimEnd (layout.format.frame.header layout.language ++ texts.flatMap encoder) ++
        ['\n'] ++ layout.format.frame.footer ++ ['\n']⟩ := by
  rw [Block.ofRun, List.flatMap_map]
  cases texts with
  | nil => exact absurd rfl nonempty
  | cons first rest => rfl

/-- A block is of the kind of every event in its run. -/
theorem kind_ofRun {run : List Event} (uniform : Event.Uniform run) {event : Event} (member : event ∈ run) :
    (Block.ofRun layout encoder run).kind = event.kind := by
  cases uniform with
  | prose nonempty =>
    obtain ⟨interior, _, rfl⟩ := List.mem_map.mp member
    rw [ofRun_prose layout encoder nonempty]
    rfl
  | code nonempty =>
    obtain ⟨text, _, rfl⟩ := List.mem_map.mp member
    rw [ofRun_code layout encoder nonempty]
    rfl

end Block

namespace Chain

variable {layout : Layout} {encoder : Encoder}

/-- Blocks can be compared run by run, since two layouts cut the events at the same places. -/
theorem ofEvents_related {other : Layout} {otherEncoder : Encoder} {related : Block → Block → Prop}
    (similar : ∀ run, Event.Uniform run → related (.ofRun layout encoder run) (.ofRun other otherEncoder run))
    (events : List Event) :
    List.Forall₂ related (ofEvents layout encoder events) (ofEvents other otherEncoder events) := by
  rw [ofEvents, ofEvents, List.forall₂_map_left_iff, List.forall₂_map_right_iff, List.forall₂_same]
  intro run member
  exact similar run (Event.uniform_of_mem_splitBy member)

theorem prose_contents {events : List Event} {block : Block} (member : block ∈ ofEvents layout encoder events)
    (prose : block.kind = .prose) : ∃ interiors, interiors ≠ [] ∧ block.contents = interiors.flatMap layout.prose := by
  obtain ⟨run, cut, rfl⟩ := List.mem_map.mp member
  cases Event.uniform_of_mem_splitBy cut with
  | prose nonempty =>
    rw [Block.ofRun_prose _ _ nonempty]
    exact ⟨_, by simpa using nonempty, rfl⟩
  | code nonempty =>
    rw [Block.ofRun_code _ _ nonempty] at prose
    cases prose

/-- Neighbours are of different kinds. -/
theorem ofEvents_alternates (events : List Event) :
    (ofEvents layout encoder events).IsChain fun front back => front.kind ≠ back.kind := by
  rw [ofEvents, List.isChain_map]
  -- A run ends where the next event is of another kind, and all events of a run are of its kind.
  apply (List.isChain_getLast_head_splitBy _ (Event.visible events)).imp_of_mem_imp
  rintro front back left right ⟨leftNonempty, rightNonempty, apart⟩
  rw [Block.kind_ofRun layout encoder (Event.uniform_of_mem_splitBy left) (List.getLast_mem leftNonempty),
    Block.kind_ofRun layout encoder (Event.uniform_of_mem_splitBy right) (List.head_mem rightNonempty)]
  exact of_decide_eq_false apart

end Chain

namespace Splitter

theorem map_finish (layout : Layout) (encoder : Encoder) (outcome : Except Fault (List Event)) :
    (outcome.map fun events => events.foldl (step layout encoder) {}).map (finish layout) =
      outcome.map (Chain.ofEvents layout encoder) := by
  cases outcome with
  | error fault => rfl
  | ok events => exact congrArg Except.ok (finish_foldl_step_empty events)

theorem events_of_outcome {layout : Layout} {encoder : Encoder} {outcome : Except Fault (List Event)} {chain : Chain}
    (accepted : (outcome.map fun events => events.foldl (step layout encoder) {}).map (finish layout) = .ok chain) :
    ∃ events, outcome = .ok events ∧ chain = Chain.ofEvents layout encoder events := by
  rw [map_finish] at accepted
  cases outcome with
  | error fault => cases accepted
  | ok events =>
    cases accepted
    exact ⟨events, rfl, rfl⟩

theorem events_of_drain {layout : Layout} {encoder : Encoder} {lexer : Lexer} {chain : Chain}
    (accepted : (drain layout encoder lexer {}).map (finish layout) = .ok chain) :
    ∃ events, chain = Chain.ofEvents layout encoder events := by
  obtain ⟨outcome, runs⟩ := drain_run lexer
  rw [runs] at accepted
  obtain ⟨events, _, shown⟩ := events_of_outcome accepted
  exact ⟨events, shown⟩

theorem events_of_pushAll {layout : Layout} {encoder : Encoder} {file : Nat} {tokens : List Token} {chain : Chain}
    (accepted : (pushAll layout encoder file tokens {}).map (finish layout) = .ok chain) :
    ∃ events, chain = Chain.ofEvents layout encoder events := by
  obtain ⟨outcome, runs⟩ := pushAll_run file tokens
  rw [runs] at accepted
  obtain ⟨events, _, shown⟩ := events_of_outcome accepted
  exact ⟨events, shown⟩

variable {layout other : Layout} {encoder otherEncoder : Encoder} {related : Block → Block → Prop}
  (similar : ∀ run, Event.Uniform run → related (.ofRun layout encoder run) (.ofRun other otherEncoder run))

include similar

theorem pushAll_agree (file : Nat) (tokens : List Token) :
    Agree (List.Forall₂ related) ((pushAll layout encoder file tokens {}).map (finish layout))
      ((pushAll other otherEncoder file tokens {}).map (finish other)) := by
  obtain ⟨outcome, runs⟩ := pushAll_run file tokens
  rw [runs, runs, map_finish, map_finish]
  exact .map outcome (Chain.ofEvents_related similar)

theorem drain_agree (lexer : Lexer) :
    Agree (List.Forall₂ related) ((drain layout encoder lexer {}).map (finish layout))
      ((drain other otherEncoder lexer {}).map (finish other)) := by
  obtain ⟨outcome, runs⟩ := drain_run lexer
  rw [runs, runs, map_finish, map_finish]
  exact .map outcome (Chain.ofEvents_related similar)

end Splitter

end Literate
