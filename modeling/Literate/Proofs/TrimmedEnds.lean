import Literate.Text.Basic
import Mathlib.Data.List.DropRight

/-! Texts without some of the characters at their ends. What is dropped depends on the end of a text
only, and nothing is dropped in front of a character that stays. -/

namespace Literate.Text

theorem dropEndWhile_eq (test : Char → Bool) (text : Text) : dropEndWhile test text = text.rdropWhile test := rfl

/-- If nothing of the end is left, dropping goes on in front of it. -/
theorem dropEndWhile_append_eq (test : Char → Bool) (front text : Text) :
    dropEndWhile test (front ++ text) =
      if dropEndWhile test text = [] then dropEndWhile test front else front ++ dropEndWhile test text := by
  simp only [dropEndWhile, List.reverse_append, List.dropWhile_append, List.isEmpty_iff, List.reverse_eq_nil_iff]
  split
  next => rfl
  next => rw [List.reverse_append, List.reverse_reverse]

theorem dropEndWhile_append {test : Char → Bool} (text : Text) {tail : Text} (all : ∀ c ∈ tail, test c = true) :
    dropEndWhile test (text ++ tail) = dropEndWhile test text := by
  have dropped : dropEndWhile test tail = [] := List.rdropWhile_eq_nil_iff.mpr all
  rw [dropEndWhile_append_eq, if_pos dropped]

theorem dropEndWhile_append_of_ne_nil {test : Char → Bool} (text : Text) {tail : Text}
    (kept : dropEndWhile test tail ≠ []) : dropEndWhile test (text ++ tail) = text ++ dropEndWhile test tail := by
  rw [dropEndWhile_append_eq, if_neg kept]

/-- Nothing is dropped in front of a place where dropping would stop. -/
theorem trimEnd_append {front : Text} (kept : trimEnd front = front) (text : Text) :
    trimEnd (front ++ text) = front ++ trimEnd text := by
  rw [trimEnd, dropEndWhile_append_eq]
  split
  next dropped =>
    rw [trimEnd, dropped, List.append_nil]
    exact kept
  next => rfl

/-- A text that ends like one without padding at its end has none either. -/
theorem dropEndWhile_of_suffix {test : Char → Bool} {text ending : Text} (suffix : ending <:+ dropEndWhile test text) :
    dropEndWhile test ending = ending := by
  apply List.rdropWhile_eq_self_iff.mpr
  intro nonempty
  rw [suffix.getLast nonempty]
  exact List.rdropWhile_last_not test text _

theorem dropEndWhile_isPrefix (test : Char → Bool) (text more : Text) :
    dropEndWhile test text <+: dropEndWhile test (text ++ more) := by
  rw [dropEndWhile_append_eq]
  split
  next => exact List.prefix_refl _
  next =>
    have shorter : dropEndWhile test text <+: text := List.rdropWhile_prefix test text
    exact shorter.trans (List.prefix_append text _)

theorem isSpace_getLast_trimEnd {text : Text} (kept : trimEnd text ≠ []) :
    isSpace ((trimEnd text).getLast kept) = false :=
  Bool.eq_false_iff.mpr (List.rdropWhile_last_not isSpace text kept)

theorem getLast?_trimEnd_ne {c : Char} (space : isSpace c = true) (text : Text) : (trimEnd text).getLast? ≠ some c := by
  intro last
  have nonempty : trimEnd text ≠ [] := by
    intro empty
    rw [empty] at last
    cases last
  have visible := isSpace_getLast_trimEnd nonempty
  rw [List.getLast?_eq_some_getLast nonempty] at last
  rw [Option.some.inj last, space] at visible
  cases visible

theorem drop_trimEnd_append (front text : Text) : (trimEnd (front ++ text)).drop front.length = trimEnd text := by
  rw [trimEnd, dropEndWhile_append_eq]
  split
  next dropped =>
    have shorter : dropEndWhile isSpace front <+: front := List.rdropWhile_prefix isSpace front
    rw [trimEnd, dropped]
    exact List.drop_eq_nil_of_le shorter.length_le
  next => exact List.drop_left

theorem trimEnd_append_trimEnd (front text : Text) : trimEnd (front ++ trimEnd text) = trimEnd (front ++ text) := by
  have again : dropEndWhile isSpace (trimEnd text) = trimEnd text := dropEndWhile_of_suffix (List.suffix_refl _)
  rw [trimEnd, dropEndWhile_append_eq, again]
  exact (dropEndWhile_append_eq isSpace front text).symm

/-- What is trimmed from the end does not depend on what is in front. -/
theorem trimEnd_append_inj {front first second : Text} :
    trimEnd (front ++ first) = trimEnd (front ++ second) ↔ trimEnd first = trimEnd second := by
  constructor
  · intro same
    rw [← drop_trimEnd_append front first, same, drop_trimEnd_append]
  · intro same
    rw [← trimEnd_append_trimEnd, same, trimEnd_append_trimEnd]

end Literate.Text
