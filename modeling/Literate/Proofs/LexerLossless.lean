import Literate.Proofs.BytePlaces
import Literate.Proofs.LexerReading

/-! Lexing loses nothing. The pieces of an accepted source lie side by side, each
is the text between the byte offsets of its span, and put together they are the
source again. -/

namespace Literate

open Text

/-- The spans lead from one offset to another, each starting where the last one stops. -/
def Span.Consecutive : (start : Nat) → List Span → (stop : Nat) → Prop
  | start, [], stop => start = stop
  | start, span :: spans, stop => span.start = start ∧ Consecutive span.stop spans stop

theorem Span.Consecutive.append {start middle stop : Nat} {front back : List Span}
    (first : Consecutive start front middle) (second : Consecutive middle back stop) :
    Consecutive start (front ++ back) stop := by
  induction front generalizing start with
  | nil =>
    have same : start = middle := first
    rw [same]
    exact second
  | cons span front ih => exact ⟨first.1, ih first.2⟩

/-- Both ends of the span fall between characters of the source, and the text is what
stands between them. -/
structure Piece.SliceOf (piece : Piece) (source : Text) : Prop where
  start : String.Pos.Raw.IsValid (String.ofList source) ⟨piece.span.start⟩
  stop : String.Pos.Raw.IsValid (String.ofList source) ⟨piece.span.stop⟩
  slice : String.Pos.Raw.extract (String.ofList source) ⟨piece.span.start⟩ ⟨piece.span.stop⟩ =
    String.ofList piece.text

theorem Piece.sliceOf_covering (kind : PieceKind) (front text back : Text) :
    (Piece.mk kind text (.covering front.byteSize text)).SliceOf (front ++ text ++ back) := by
  refine ⟨?_, ?_, ?_⟩
  · rw [List.append_assoc]
    exact isValid_byteSize front (text ++ back)
  · simpa [Span.covering] using isValid_byteSize (front ++ text) back
  · exact extract_byteSize front text back

theorem Reads.consecutive {first last : Place} {pieces : List Piece} (reads : Reads first pieces last) :
    Span.Consecutive first.before.byteSize (pieces.map Piece.span) last.before.byteSize := by
  induction reads with
  | done => rfl
  | piece lawful _ ih =>
    refine ⟨rfl, ?_⟩
    simpa [Span.covering] using ih

theorem Reads.slices {first last : Place} {pieces : List Piece} (reads : Reads first pieces last) :
    ∀ piece ∈ pieces, piece.SliceOf (first.before ++ first.after) := by
  induction reads with
  | done => simp
  | @piece before text after kind pieces last lawful _ ih =>
    intro piece member
    rw [← List.append_assoc]
    rcases List.mem_cons.mp member with same | member
    · subst same
      exact Piece.sliceOf_covering kind before text after
    · exact ih piece member

theorem Token.written_eq (token : Token) : token.written = token.pieces.flatMap Piece.text := by
  simp [Token.written, Token.pieces, List.flatMap_map, Trivia.piece, Token.piece]

/-- The tokens hold all of the source. With the leading trivia of each token, the token
and its trailing trivia listed in order, the spans tile the source and each text is
the slice at its span. Only the last token is empty. -/
structure Lossless (source : Text) (tokens : List Token) : Prop where
  tiled : Span.Consecutive 0 ((tokens.flatMap Token.pieces).map Piece.span) (String.ofList source).utf8ByteSize
  sliced : ∀ piece ∈ tokens.flatMap Token.pieces, piece.SliceOf source
  trivia : ∀ token ∈ tokens, ∀ trivia ∈ token.leading ++ token.trailing, trivia.text ≠ []
  nonempty : ∀ token ∈ tokens, token.kind ≠ .endOfFile → token.text ≠ []
  ended : Lexer.Ended tokens
  joined : tokens.flatMap Token.written = source

theorem tokens_lossless {source : Text} {file : Nat} {tokens : List Token}
    (accepted : Lexer.tokens source file = .ok tokens) : Lossless source tokens := by
  obtain ⟨ended, pieces, reads, whole⟩ := Lexer.tokens_reads accepted
  have nonempty : ∀ token ∈ tokens, ∀ piece ∈ token.pieces, piece.kind ≠ .token .endOfFile → piece.text ≠ [] := by
    intro token member piece inside other
    have listed : piece ∈ pieces ++ [.ending source.byteSize] := whole ▸ List.mem_flatMap.mpr ⟨token, member, inside⟩
    rcases List.mem_append.mp listed with listed | last
    · exact (reads.inside piece listed).1
    · rw [List.mem_singleton.mp last] at other
      exact absurd rfl other
  refine ⟨?_, ?_, ?_, ?_, ended, ?_⟩
  · rw [whole, List.map_append, ← byteSize_eq]
    exact reads.consecutive.append ⟨rfl, rfl⟩
  · intro piece member
    rw [whole] at member
    rcases List.mem_append.mp member with member | last
    · exact reads.slices piece member
    · rw [List.mem_singleton.mp last]
      simpa [Piece.ending] using Piece.sliceOf_covering (.token .endOfFile) source [] []
  · intro token member trivia inside
    refine nonempty token member trivia.piece ?_ (by simp [Trivia.piece])
    rcases List.mem_append.mp inside with inside | inside
    all_goals simp [Token.pieces, List.mem_map_of_mem inside]
  · intro token member kind
    refine nonempty token member token.piece (by simp [Token.pieces]) ?_
    simpa [Token.piece] using kind
  · have joined : tokens.flatMap Token.written = (tokens.flatMap Token.pieces).flatMap Piece.text := by
      rw [List.flatMap_assoc]
      apply List.flatMap_congr
      intro token _
      exact token.written_eq
    have texts := reads.texts.2
    rw [joined, whole]
    simpa [Piece.ending] using texts.symm

theorem tokens_lossless_mixed :
    ∃ tokens, Lexer.tokens "#if é\n/* * */ @\"a\"\"\" // b\r\n 'x' + '".toList 0 = .ok tokens ∧
      Lossless "#if é\n/* * */ @\"a\"\"\" // b\r\n 'x' + '".toList tokens := by
  have accepted : (Lexer.tokens "#if é\n/* * */ @\"a\"\"\" // b\r\n 'x' + '".toList 0).isOk = true := by
    decide +kernel
  cases found : Lexer.tokens "#if é\n/* * */ @\"a\"\"\" // b\r\n 'x' + '".toList 0 with
  | error fault =>
    rw [found] at accepted
    cases accepted
  | ok tokens => exact ⟨tokens, rfl, tokens_lossless found⟩

end Literate
