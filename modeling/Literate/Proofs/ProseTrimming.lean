import Literate.Block.Splitter
import Literate.Proofs.Margins
import Literate.Proofs.TrimmedEnds

/-! What a comment adds to trimmed prose, as a function of the whole interior: the
padding in front of the closing delimiter is dropped first, then the margin is taken
off every line. -/

namespace Literate

open Text

namespace Text

theorem lines_dropEndWhile (text : Text) :
    lines (dropEndWhile isPad text) =
      (lines text).dropLast ++ (lines text).getLast?.toList.map (dropEndWhile isPad) := by
  have split : text.rdropWhile isPad ++ text.rtakeWhile isPad = text := List.rdropWhile_append_rtakeWhile
  have pads : ∀ c ∈ text.rtakeWhile isPad, isPad c = true := fun c member => List.mem_rtakeWhile_imp member
  obtain ⟨init, last, front, suffix, _, extended⟩ := lines_append (dropEndWhile isPad text)
  have whole := extended (text.rtakeWhile isPad)
    (fun c member => not_isNewline_of_isHorizontal (isHorizontal_of_isPad (pads c member)))
  rw [dropEndWhile_eq, split] at whole
  rw [front, whole]
  simp [dropEndWhile_append last pads, dropEndWhile_of_suffix suffix]

end Text

theorem Layout.prose_eq (layout : Layout) (interior : Text) :
    layout.prose interior =
      if layout.trim then (trimMargin (dropEndWhile isPad interior)).flatMap (· ++ ['\n']) else interior := by
  simp only [Layout.prose, trimMargin, lines_dropEndWhile]

end Literate
