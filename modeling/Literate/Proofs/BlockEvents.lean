import Literate.Block.Splitter
import Literate.Proofs.LexerReading
import Mathlib.Data.List.DropRight

/-! The splitter as a machine that takes events. A token is a list of events, the
interior of each comment in front of it and the pieces of code; pushing tokens is one
step for each event, and only a comment without its delimiters can stop it. The lexer finds
no such comment, so that it makes no difference whether tokens are pushed while the source
is lexed or after all of it is. -/

namespace Literate

open Text

/-- The interior of a comment that leads a token, or a piece of code. -/
inductive Event where
  | prose (interior : Text)
  | code (text : Text)
deriving DecidableEq

/-- Both delimiters are there, and they do not overlap. -/
def Trivia.Delimited (trivia : Trivia) : Prop :=
  trivia.kind = .blockComment → ∃ interior, trivia.text = ['/', '*'] ++ interior ++ ['*', '/']

/-- Of a comment in front of a token, all but two characters at each end is prose. -/
def Trivia.event (trivia : Trivia) : Event :=
  if trivia.kind = .blockComment then .prose ((trivia.text.drop 2).rdrop 2) else .code trivia.text

def Token.events (token : Token) : List Event :=
  token.leading.map Trivia.event ++ .code token.text :: token.trailing.map fun trivia => .code trivia.text

theorem commentInterior?_eq_some {text interior : Text} :
    commentInterior? text = some interior ↔ text = ['/', '*'] ++ interior ++ ['*', '/'] := by
  constructor
  · intro found
    unfold commentInterior? at found
    split at found
    next rest =>
      unfold before? at found
      split at found
      next closed =>
        obtain ⟨front, rfl⟩ := List.isSuffixOf_iff_suffix.mp closed
        have same : front = interior := by simpa using found
        rw [same]
        rfl
      next => cases found
    next => cases found
  · intro equal
    subst equal
    simp [commentInterior?, before?]

namespace Splitter

def step (layout : Layout) (encoder : Encoder) (splitter : Splitter) : Event → Splitter
  | .prose interior => splitter.append layout .prose (layout.prose interior)
  | .code text => splitter.appendCode layout encoder text

section

variable {layout : Layout} {encoder : Encoder}

theorem append_same {closed : Chain} {block : OpenBlock} {kind : BlockKind} (same : block.kind = kind) (text : Text) :
    append layout kind text ⟨closed, some block⟩ = ⟨closed, some (block.append text)⟩ := by
  simp [append, same]

theorem append_other {closed : Chain} {block : OpenBlock} {kind : BlockKind} (other : block.kind ≠ kind) (text : Text) :
    append layout kind text ⟨closed, some block⟩ =
      ⟨closed ++ [layout.close block.kind block.buffer], some ⟨kind, [text, layout.opening kind]⟩⟩ := by
  simp [append, other]

theorem step_empty (splitter : Splitter) : step layout encoder splitter (.code []) = splitter := rfl

theorem step_blank {closed : Chain} {block : OpenBlock} {text : Text} (prose : block.kind = .prose)
    (blank : isBlankLine text = true) :
    step layout encoder ⟨closed, some block⟩ (.code text) = ⟨closed, some block⟩ := by
  simp [step, appendCode, prose, blank]

theorem step_code {splitter : Splitter} {text : Text} (written : text ≠ [])
    (kept : splitter.current.any (·.kind = .prose) = true → isBlankLine text = false) :
    step layout encoder splitter (.code text) = splitter.append layout .verbatim (encoder text) := by
  have seen : ¬(splitter.current.any (·.kind = .prose) && isBlankLine text) = true := by
    intro hidden
    obtain ⟨prose, blank⟩ := Bool.and_eq_true_iff.mp hidden
    rw [kept prose] at blank
    cases blank
  rw [step, appendCode, if_neg written, if_neg seen]

end

theorem pushLeading_append {layout : Layout} {encoder : Encoder} {file : Nat} {before : List Trivia} {splitter : Splitter}
    (delimited : ∀ trivia ∈ before, trivia.Delimited) (rest : List Trivia) :
    pushLeading layout encoder file (before ++ rest) splitter =
      pushLeading layout encoder file rest ((before.map Trivia.event).foldl (step layout encoder) splitter) := by
  induction before generalizing splitter with
  | nil => rfl
  | cons trivia before ih =>
    have others : ∀ other ∈ before, other.Delimited := fun other member => delimited other (by simp [member])
    rw [List.cons_append, pushLeading, List.map_cons, List.foldl_cons]
    split
    next comment =>
      obtain ⟨interior, text⟩ := delimited trivia (by simp) comment
      have event : trivia.event = .prose interior := by simp [Trivia.event, comment, text, List.rdrop]
      rw [commentInterior?_eq_some.mpr text, event]
      exact ih others
    next other =>
      have event : trivia.event = .code trivia.text := by simp [Trivia.event, other]
      rw [event]
      exact ih others

theorem pushLeading_eq {layout : Layout} {encoder : Encoder} {file : Nat} {leading : List Trivia} {splitter : Splitter}
    (delimited : ∀ trivia ∈ leading, trivia.Delimited) :
    pushLeading layout encoder file leading splitter =
      (none, (leading.map Trivia.event).foldl (step layout encoder) splitter) := by
  have whole := @pushLeading_append layout encoder file leading splitter delimited []
  rwa [List.append_nil] at whole

theorem push_eq {layout : Layout} {encoder : Encoder} {file : Nat} {token : Token} {splitter : Splitter}
    (delimited : ∀ trivia ∈ token.leading, trivia.Delimited) :
    push layout encoder file token splitter = (none, token.events.foldl (step layout encoder) splitter) := by
  rw [push, pushLeading_eq delimited]
  simp [Token.events, List.foldl_append, List.foldl_map, step]

theorem pushAll_eq {layout : Layout} {encoder : Encoder} {file : Nat} {tokens : List Token} {splitter : Splitter}
    (delimited : ∀ token ∈ tokens, ∀ trivia ∈ token.leading, trivia.Delimited) :
    pushAll layout encoder file tokens splitter =
      .ok ((tokens.flatMap Token.events).foldl (step layout encoder) splitter) := by
  induction tokens generalizing splitter with
  | nil => rfl
  | cons token tokens ih =>
    rw [pushAll, push_eq (delimited token (by simp)), List.flatMap_cons, List.foldl_append]
    exact ih (fun other member => delimited other (by simp [member]))

/-- Tokens may be appended as they are found or after the whole source is lexed. -/
theorem drain_eq {layout : Layout} {encoder : Encoder} {lexer : Lexer} {splitter : Splitter} :
    drain layout encoder lexer splitter =
      (pushAll layout encoder lexer.file lexer.run.1 splitter).bind fun pushed =>
        match lexer.run.2.1 with
        | none => .ok pushed
        | some fault => .error fault := by
  fun_induction drain layout encoder lexer splitter with
  | case1 lexer splitter last pulled =>
    rw [Lexer.run_none pulled]
    rfl
  | case2 lexer splitter fault last pulled =>
    rw [Lexer.run_fault pulled]
    rfl
  | case3 lexer splitter token after pulled fault stopped pushed =>
    rw [Lexer.run_token pulled, pushAll, pushed]
    rfl
  | case4 lexer splitter token after pulled result pushed ih =>
    obtain ⟨_, _, moved⟩ := Lexer.pull_token pulled
    have file : after.file = lexer.file := by rw [moved]
    rw [Lexer.run_token pulled, pushAll, pushed, ih, file]

end Splitter

theorem Reads.delimited {first last : Place} {pieces : List Piece} {piece : Piece} (reads : Reads first pieces last)
    (member : piece ∈ pieces) (comment : piece.kind = .trivia .blockComment) :
    ∃ interior, piece.text = ['/', '*'] ++ interior ++ ['*', '/'] := by
  obtain ⟨front, back, split⟩ := List.append_of_mem member
  have lawful := (reads.lawful split).1
  rw [comment] at lawful
  obtain ⟨interior, text, _⟩ := lawful
  exact ⟨interior, text⟩

namespace Lexer

/-- The comments the lexer finds are delimited, also in front of a fault. -/
theorem delimited {source : Text} {file : Nat} {piece : Piece} (member : piece ∈ (ofSource source file).run.1.flatMap Token.pieces)
    (comment : piece.kind = .trivia .blockComment) : ∃ interior, piece.text = ['/', '*'] ++ interior ++ ['*', '/'] := by
  have start : Rule.Apart [] source := by simp [Rule.Apart]
  rcases ran : (ofSource source file).run with ⟨tokens, fault, last⟩
  rw [ran] at member
  cases fault with
  | some fault =>
    obtain ⟨middle, reads, _⟩ := @run_stuck _ _ ⟨[], source⟩ _ _ start rfl rfl ran
    exact reads.delimited member comment
  | none =>
    obtain ⟨_, pieces, stop, reads, _, whole⟩ := @run_reads _ _ ⟨[], source⟩ _ start rfl rfl ran
    rw [whole] at member
    rcases List.mem_append.mp member with member | ending
    · exact reads.delimited member comment
    · rw [List.mem_singleton.mp ending] at comment
      cases comment

theorem run_delimited (source : Text) (file : Nat) :
    ∀ token ∈ (ofSource source file).run.1, ∀ trivia ∈ token.leading ++ token.trailing, trivia.Delimited := by
  intro token member trivia inside comment
  have piece : trivia.piece ∈ token.pieces := by
    rcases List.mem_append.mp inside with front | behind
    · exact List.mem_append_left _ (List.mem_map_of_mem front)
    · exact List.mem_append_right _ (List.mem_cons_of_mem _ (List.mem_map_of_mem behind))
  exact delimited (List.mem_flatMap.mpr ⟨token, member, piece⟩) (congrArg _ comment)

theorem run_of_tokens {source : Text} {file : Nat} {tokens : List Token} (accepted : Lexer.tokens source file = .ok tokens) :
    (ofSource source file).run.1 = tokens := by
  unfold Lexer.tokens at accepted
  split at accepted
  next found last ran =>
    cases accepted
    rw [ran]
  next => cases accepted

end Lexer

/-- Only lexing can fail, and no event is lost between lexing and splitting. -/
theorem Chain.ofSource_eq (source : Text) (file : Nat) (layout : Layout) :
    Chain.ofSource source file layout = (Lexer.tokens source file).map fun tokens =>
      ((tokens.flatMap Token.events).foldl (Splitter.step layout layout.format.encoder) {}).finish layout := by
  have delimited : ∀ token ∈ (Lexer.ofSource source file).run.1, ∀ trivia ∈ token.leading, trivia.Delimited :=
    fun token member trivia inside => Lexer.run_delimited source file token member trivia (List.mem_append_left _ inside)
  rw [Chain.ofSource, Splitter.drain_eq, Splitter.pushAll_eq delimited, Lexer.tokens]
  rcases (Lexer.ofSource source file).run with ⟨tokens, none | fault, last⟩ <;> rfl

theorem Chain.ofTokens_eq {tokens : List Token} (delimited : ∀ token ∈ tokens, ∀ trivia ∈ token.leading, trivia.Delimited)
    (layout : Layout) :
    Chain.ofTokens tokens layout =
      .ok (((tokens.flatMap Token.events).foldl (Splitter.step layout layout.format.encoder) {}).finish layout) := by
  rw [Chain.ofTokens, Splitter.pushAll_eq delimited]
  rfl

/-- Blocks made while the source is lexed are those made of all its tokens, or lexing fails with
the same fault. The second stage never fails: every comment that the lexer finds has an interior,
also where the source turns out to be faulty later on. -/
theorem split_in_stages (source : Text) (file : Nat) (layout : Layout) :
    Chain.ofSource source file layout = (Lexer.tokens source file).bind (Chain.ofTokens · layout) ∧
    (∀ tokens ∈ (Lexer.tokens source file).toOption, (Chain.ofTokens tokens layout).isOk) ∧
    ∀ token ∈ (Lexer.ofSource source file).run.1, ∀ trivia ∈ token.leading ++ token.trailing,
      trivia.kind = .blockComment → (commentInterior? trivia.text).isSome := by
  have comments := Lexer.run_delimited source file
  have split (tokens : List Token) (accepted : Lexer.tokens source file = .ok tokens) :
      Chain.ofTokens tokens layout =
        .ok (((tokens.flatMap Token.events).foldl (Splitter.step layout layout.format.encoder) {}).finish layout) := by
    refine Chain.ofTokens_eq (fun token member trivia inside => ?_) layout
    rw [Lexer.run_of_tokens accepted] at comments
    exact comments token member trivia (List.mem_append_left _ inside)
  refine ⟨?_, ?_, ?_⟩
  · rw [Chain.ofSource_eq]
    cases accepted : Lexer.tokens source file with
    | error fault => rfl
    | ok tokens => exact (split tokens accepted).symm
  · intro tokens accepted
    cases found : Lexer.tokens source file with
    | error fault => simp [found, Except.toOption] at accepted
    | ok others =>
      obtain rfl : others = tokens := by simpa [found, Except.toOption] using accepted
      rw [split others found]
      rfl
  · intro token member trivia inside comment
    obtain ⟨interior, text⟩ := comments token member trivia inside comment
    rw [commentInterior?_eq_some.mpr text]
    rfl

end Literate
