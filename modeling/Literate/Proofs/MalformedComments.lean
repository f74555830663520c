import Literate.Proofs.BlockEvents

/-! Comments that lack a delimiter. The lexer finds none, but tokens may come from elsewhere. Pushing a
token stops at the first such comment in front of it: what precedes the comment stays in the blocks,
as if the token ended there, and nothing behind it gets in. A comment that trails a token is code,
whatever its text. -/

namespace Literate

theorem Trivia.not_delimited {trivia : Trivia} :
    ¬ trivia.Delimited ↔ trivia.kind = .blockComment ∧ commentInterior? trivia.text = none := by
  rw [Option.eq_none_iff_forall_ne_some]
  simp [Delimited, commentInterior?_eq_some]

instance (trivia : Trivia) : Decidable trivia.Delimited :=
  decidable_of_iff _ (not_iff_comm.mp Trivia.not_delimited)

/-- The first comment in front of the token that lacks a delimiter. -/
def Token.malformed? (token : Token) : Option Trivia := token.leading.find? (¬ ·.Delimited)

/-- The token as it would be if it ended in front of that comment. -/
def Token.intact (token : Token) : Token :=
  { token with text := [], leading := token.leading.takeWhile (·.Delimited), trailing := [] }

theorem Token.malformed?_eq_none {token : Token} :
    token.malformed? = none ↔ ∀ trivia ∈ token.leading, trivia.Delimited := by
  simp [malformed?]

theorem Token.isSome_malformed? {token : Token} :
    token.malformed?.isSome ↔ ∃ trivia ∈ token.leading, ¬ trivia.Delimited := by
  simp [malformed?]

namespace Splitter

variable {layout : Layout} {encoder : Encoder} {file : Nat}

theorem pushLeading_malformed {leading : List Trivia} {comment : Trivia} {splitter : Splitter}
    (found : leading.find? (¬ ·.Delimited) = some comment) :
    pushLeading layout encoder file leading splitter = (some (Cause.malformedComment.fault comment.span file),
      ((leading.takeWhile (·.Delimited)).map Trivia.event).foldl (step layout encoder) splitter) := by
  obtain ⟨malformed, before, after, rfl, earlier⟩ := List.find?_eq_some_iff_append.mp found
  have delimited : ∀ trivia ∈ before, trivia.Delimited := by simpa using earlier
  obtain ⟨kind, interior⟩ := Trivia.not_delimited.mp (of_decide_eq_true malformed)
  have front : (before ++ comment :: after).takeWhile (·.Delimited) = before := by
    rw [List.takeWhile_append_of_pos (by simpa using delimited), List.takeWhile_cons_of_neg (by simpa using malformed),
      List.append_nil]
  rw [front, pushLeading_append delimited]
  simp [pushLeading, kind, interior]

theorem push_intact (token : Token) (splitter : Splitter) :
    push layout encoder file token.intact splitter =
      (none, ((token.leading.takeWhile (·.Delimited)).map Trivia.event).foldl (step layout encoder) splitter) := by
  have delimited : ∀ trivia ∈ token.intact.leading, trivia.Delimited := by
    intro trivia member
    change trivia ∈ token.leading.takeWhile _ at member
    simpa using List.mem_takeWhile_imp member
  rw [push_eq delimited]
  simp [Token.events, Token.intact, step_empty]

theorem push_malformed {token : Token} {comment : Trivia} (found : token.malformed? = some comment) (splitter : Splitter) :
    push layout encoder file token splitter = (some (Cause.malformedComment.fault comment.span file),
      (push layout encoder file token.intact splitter).2) := by
  rw [push_intact, push, pushLeading_malformed found]

theorem push_fault (token : Token) (splitter : Splitter) :
    (push layout encoder file token splitter).1 =
      token.malformed?.map fun comment => Cause.malformedComment.fault comment.span file := by
  cases found : token.malformed? with
  | none => rw [push_eq (Token.malformed?_eq_none.mp found)]; rfl
  | some comment => rw [push_malformed found]; rfl

/-- The first token with a malformed comment ends the work. -/
theorem pushAll_eq_error {tokens : List Token} {splitter : Splitter} {fault : Fault} :
    pushAll layout encoder file tokens splitter = .error fault ↔
      ∃ comment ∈ tokens.findSome? Token.malformed?, fault = Cause.malformedComment.fault comment.span file := by
  induction tokens generalizing splitter with
  | nil => simp [pushAll]
  | cons token tokens ih =>
    rw [pushAll, List.findSome?_cons]
    cases found : token.malformed? with
    | none =>
      rw [push_eq (Token.malformed?_eq_none.mp found)]
      exact ih
    | some comment =>
      rw [push_malformed found]
      simp [eq_comm]

end Splitter

theorem Chain.ofTokens_eq_error {tokens : List Token} {layout : Layout} {fault : Fault} :
    Chain.ofTokens tokens layout = .error fault ↔
      ∃ comment ∈ tokens.findSome? Token.malformed?, fault = Cause.malformedComment.fault comment.span 0 := by
  have failed := @Splitter.pushAll_eq_error layout layout.format.encoder 0 tokens {} fault
  rw [← failed, Chain.ofTokens]
  cases Splitter.pushAll layout layout.format.encoder 0 tokens {} <;> simp [Except.map]

/-- A malformed comment in front of a token, and nothing else, makes pushing fail, in every state. -/
theorem malformed_comments_fail (layout : Layout) (encoder : Encoder) (file : Nat) :
    (∀ token splitter,
      ((Splitter.push layout encoder file token splitter).1.isSome ↔ ∃ trivia ∈ token.leading, ¬ trivia.Delimited) ∧
      (∀ comment ∈ token.malformed?,
        (Splitter.push layout encoder file token splitter).1 = some (Cause.malformedComment.fault comment.span file) ∧
        Splitter.push layout encoder file token.intact splitter =
          (none, (Splitter.push layout encoder file token splitter).2)) ∧
      ∀ trailing, (Splitter.push layout encoder file { token with trailing } splitter).1 =
        (Splitter.push layout encoder file token splitter).1) ∧
    ∀ tokens,
      ((∃ fault, Chain.ofTokens tokens layout = .error fault) ↔
        ∃ token ∈ tokens, ∃ trivia ∈ token.leading, ¬ trivia.Delimited) ∧
      ∀ fault, Chain.ofTokens tokens layout = .error fault ↔
        ∃ comment ∈ tokens.findSome? Token.malformed?, fault = Cause.malformedComment.fault comment.span 0 := by
  refine ⟨fun token splitter => ⟨?_, ?_, ?_⟩, fun tokens => ⟨?_, fun fault => Chain.ofTokens_eq_error⟩⟩
  · rw [Splitter.push_fault, Option.isSome_map]
    exact Token.isSome_malformed?
  · intro comment found
    rw [Splitter.push_malformed found]
    exact ⟨rfl, by rw [Splitter.push_intact]⟩
  · intro trailing
    rw [Splitter.push_fault, Splitter.push_fault]
    rfl
  · have reported : (∃ fault, Chain.ofTokens tokens layout = .error fault) ↔
        (tokens.findSome? Token.malformed?).isSome := by
      simp [Chain.ofTokens_eq_error, Option.isSome_iff_exists]
    rw [reported, List.findSome?_isSome_iff]
    simp [Token.isSome_malformed?]

/-- The comment in front of the malformed one is kept, and nothing behind it. -/
theorem malformed_comments_fail_behind_comment :
    let token : Token := ⟨.word, "x".toList, {}, [⟨.blockComment, "/*a*/".toList, ⟨0, 5⟩⟩,
      ⟨.blockComment, "/*b".toList, ⟨5, 8⟩⟩, ⟨.whitespace, " ".toList, ⟨8, 9⟩⟩], [⟨.blockComment, "/*".toList, ⟨10, 12⟩⟩]⟩
    (Splitter.push {} id 3 token {}).1 = some (Cause.malformedComment.fault ⟨5, 8⟩ 3) ∧
    (Splitter.push {} id 3 token {}).2 = ⟨[], some ⟨.prose, ["a".toList, []]⟩⟩ := by
  intro token
  have stops := ((malformed_comments_fail {} id 3).1 token {}).2.1 ⟨.blockComment, "/*b".toList, ⟨5, 8⟩⟩ (by decide)
  have state := congrArg Prod.snd stops.2
  exact ⟨stops.1, state.symm.trans (by decide)⟩

end Literate
