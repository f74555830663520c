import Literate.Text.Basic
import Mathlib.Data.String.Basic

/-! Places in text, counted in bytes. A text can be cut behind any number of whole characters, and
the bytes of these are the place to cut at. -/

namespace Literate.Text

theorem byteSize_eq (text : Text) : text.byteSize = (String.ofList text).utf8ByteSize := by
  rw [String.utf8ByteSize_ofList]
  induction text with
  | nil => rfl
  | cons c text ih => rw [byteSize_cons, String.utf8Len_cons, ih, Nat.add_comm]

theorem isValid_byteSize (front back : Text) :
    String.Pos.Raw.IsValid (String.ofList (front ++ back)) ⟨front.byteSize⟩ := by
  apply String.Pos.Raw.isValid_ofList.mpr
  exact ⟨front.length, by simp [byteSize_eq]⟩

theorem extract_byteSize (front text back : Text) :
    String.Pos.Raw.extract (String.ofList (front ++ text ++ back)) ⟨front.byteSize⟩
      ⟨front.byteSize + text.byteSize⟩ = String.ofList text := by
  have cut := String.extract_of_valid front text back
  simpa only [byteSize_eq, String.utf8ByteSize_ofList] using cut

theorem isValid_take (count : Nat) (text : Text) :
    String.Pos.Raw.IsValid (String.ofList text) ⟨byteSize (text.take count)⟩ := by
  simpa only [List.take_append_drop] using isValid_byteSize (text.take count) (text.drop count)

theorem extract_drop (count : Nat) (text : Text) :
    String.Pos.Raw.extract (String.ofList text) ⟨byteSize (text.take count)⟩ ⟨text.byteSize⟩ =
      String.ofList (text.drop count) := by
  simpa only [← byteSize_append, List.append_nil, List.take_append_drop] using
    extract_byteSize (text.take count) (text.drop count) []

/-- The characters of a text, each with the place it starts at. -/
def places : (start : Nat) → Text → List (Nat × Char)
  | _, [] => []
  | start, c :: text => (start, c) :: places (start + c.utf8Size) text

theorem places_take (start count : Nat) (text : Text) : (places start text).take count = places start (text.take count) := by
  induction text generalizing start count with
  | nil => simp [places]
  | cons c text ih =>
    cases count with
    | zero => rfl
    | succ count => rw [places, List.take_succ_cons, ih, List.take_succ_cons, places]

theorem places_takeWhile (test : Char → Bool) (start : Nat) (text : Text) :
    (places start text).takeWhile (fun place => test place.2) = places start (text.takeWhile test) := by
  induction text generalizing start with
  | nil => rfl
  | cons c text ih =>
    rw [places, List.takeWhile_cons, List.takeWhile_cons, ih]
    cases test c with
    | true => rfl
    | false => rfl

/-- The last character ends where the text does. -/
theorem places_end (start : Nat) (text : Text) :
    ((places start text).getLast?.elim start fun place => place.1 + place.2.utf8Size) = start + text.byteSize := by
  induction text generalizing start with
  | nil => rfl
  | cons c text ih =>
    rw [byteSize_cons, ← Nat.add_assoc, ← ih (start + c.utf8Size), places, List.getLast?_cons]
    cases (places (start + c.utf8Size) text).getLast? with
    | none => rfl
    | some place => rfl

end Literate.Text
