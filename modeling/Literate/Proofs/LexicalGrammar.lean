import Literate.Proofs.LexerReading

/-! The lexer accepts exactly its lexical grammar. A source is accepted if and only if
it can be cut into lawful pieces, there is then only one way to do it, and the tokens
with their trivia are these pieces. -/

namespace Literate

open Text

/-- A decomposition of the source into consecutive pieces, each of which obeys the rule
of its kind between the text before it and the text after it. -/
structure Admissible (source : Text) (pieces : List Piece) : Prop where
  whole : pieces.flatMap Piece.text = source
  lawful : ∀ front piece back, pieces = front ++ piece :: back →
    piece.kind.Lawful (front.flatMap Piece.text) piece.text (back.flatMap Piece.text)
  placed : ∀ front piece back, pieces = front ++ piece :: back →
    piece.span = .covering (byteSize (front.flatMap Piece.text)) piece.text

private theorem Reads.ofLawful {before : Text} {pieces : List Piece}
    (lawful : ∀ front piece back, pieces = front ++ piece :: back →
      piece.kind.Lawful (before ++ front.flatMap Piece.text) piece.text (back.flatMap Piece.text) ∧
      piece.span = .covering (before ++ front.flatMap Piece.text).byteSize piece.text) :
    Reads ⟨before, pieces.flatMap Piece.text⟩ pieces ⟨before ++ pieces.flatMap Piece.text, []⟩ := by
  induction pieces generalizing before with
  | nil => simpa using Reads.done
  | cons piece pieces ih =>
    obtain ⟨kind, text, span⟩ := piece
    obtain ⟨first, placed⟩ := lawful [] _ pieces rfl
    have more : Reads ⟨before ++ text, pieces.flatMap Piece.text⟩ pieces ⟨before ++ text ++ pieces.flatMap Piece.text, []⟩ := by
      apply ih
      intro front piece back split
      have behind := lawful (⟨kind, text, span⟩ :: front) piece back (congrArg _ split)
      simpa only [List.flatMap_cons, List.append_assoc] using behind
    simp only [List.flatMap_nil, List.append_nil] at first placed
    subst placed
    rw [List.flatMap_cons, ← List.append_assoc]
    exact .piece first more

theorem reads_iff_admissible {source : Text} {pieces : List Piece} :
    Reads ⟨[], source⟩ pieces ⟨source, []⟩ ↔ Admissible source pieces := by
  constructor
  · intro reads
    refine ⟨by simpa using reads.texts.2.symm, ?_, ?_⟩
    · intro front piece back split
      simpa using (reads.lawful split).1
    · intro front piece back split
      simpa using (reads.lawful split).2
  · intro admissible
    obtain ⟨rfl, lawful, placed⟩ := admissible
    apply @Reads.ofLawful []
    intro front piece back split
    exact ⟨lawful front piece back split, placed front piece back split⟩

/-- The pieces of all tokens but the empty one at the end. -/
def Token.decomposition (tokens : List Token) : List Piece :=
  (tokens.flatMap Token.pieces).filter (·.kind ≠ .token .endOfFile)

theorem Token.decomposition_eq {tokens : List Token} {pieces : List Piece} {offset : Nat}
    (whole : tokens.flatMap Token.pieces = pieces ++ [.ending offset])
    (inside : ∀ piece ∈ pieces, piece.kind ≠ .token .endOfFile) : Token.decomposition tokens = pieces := by
  have kept : pieces.filter (·.kind ≠ .token .endOfFile) = pieces := by
    apply List.filter_eq_self.mpr
    intro piece member
    simpa using inside piece member
  rw [decomposition, whole, List.filter_append, kept]
  simp [Piece.ending]

/-- The lexer returns tokens for a source if and only if the source has an admissible
decomposition, which is then unique and is what the tokens consist of. -/
theorem tokens_iff_admissible (source : Text) (file : Nat) (pieces : List Piece) :
    (Lexer.tokens source file).toOption.map Token.decomposition = some pieces ↔ Admissible source pieces := by
  have start : Rule.Apart [] source := by simp [Rule.Apart]
  rw [← reads_iff_admissible]
  cases result : Lexer.tokens source file with
  | error fault =>
    refine iff_of_false (by simp [Except.toOption]) ?_
    intro reads
    exact reads.not_stuck start rfl (Lexer.tokens_stuck result)
  | ok tokens =>
    obtain ⟨_, found, reads, whole⟩ := Lexer.tokens_reads result
    have same := Token.decomposition_eq whole (fun piece member => (reads.inside piece member).2)
    simp only [Except.toOption, Option.map_some, Option.some.injEq, same]
    constructor
    · intro equal
      rwa [← equal]
    · intro other
      exact reads.eq_of_ended other start rfl rfl

end Literate
