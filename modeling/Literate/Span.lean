import Literate.Text.Basic

/-! A range of byte offsets into a source. -/

namespace Literate

structure Span where
  start : Nat := 0
  stop : Nat := 0
deriving DecidableEq

namespace Span

/-- The span of a piece of text that starts at an offset. -/
def covering (offset : Nat) (piece : Text) : Span := ⟨offset, offset + piece.byteSize⟩

/-- The same range in a source with `amount` more bytes in front. -/
def shift (amount : Nat) (span : Span) : Span := ⟨span.start + amount, span.stop + amount⟩

end Span

end Literate
