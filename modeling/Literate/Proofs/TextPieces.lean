import Literate.Text.Basic

/-! Text in pieces. Pieces between marks are read back from the text that joins them, and words are
read back from the text that has single spaces between them. -/

namespace Literate.Text

theorem splitWhere_ne_nil (test : Char → Bool) (text : Text) : text.splitWhere test ≠ [] := by
  cases text with
  | nil => simp [splitWhere]
  | cons c text =>
    rw [splitWhere]
    split
    · simp
    · simpa using splitWhere_ne_nil test text

theorem splitWhere_append_cons {test : Char → Bool} {mark : Char} (marks : test mark = true) (front back : Text) :
    splitWhere test (front ++ mark :: back) = splitWhere test front ++ splitWhere test back := by
  induction front with
  | nil => simp [splitWhere, marks]
  | cons c front ih =>
    rw [List.cons_append, splitWhere, splitWhere, ih]
    split
    · rfl
    · obtain ⟨piece, pieces, cut⟩ := List.exists_cons_of_ne_nil (splitWhere_ne_nil test front)
      rw [cut]
      rfl

theorem splitWhere_of_none {test : Char → Bool} {text : Text} (none : ∀ c ∈ text, test c = false) :
    splitWhere test text = [text] := by
  induction text with
  | nil => rfl
  | cons c text ih =>
    rw [List.forall_mem_cons] at none
    rw [splitWhere, if_neg (by simp [none.1]), ih none.2]
    rfl

theorem of_mem_splitWhere {test : Char → Bool} {text piece : Text} (member : piece ∈ text.splitWhere test) :
    ∀ c ∈ piece, test c = false := by
  induction text generalizing piece with
  | nil =>
    rw [List.mem_singleton.mp member]
    exact List.forall_mem_nil _
  | cons c text ih =>
    rw [splitWhere] at member
    obtain ⟨first, rest, cut⟩ := List.exists_cons_of_ne_nil (splitWhere_ne_nil test text)
    rw [cut] at ih member
    split at member
    next =>
      rcases List.mem_cons.mp member with rfl | member
      · exact List.forall_mem_nil _
      · exact ih member
    next inside =>
      rw [List.modifyHead_cons] at member
      rcases List.mem_cons.mp member with rfl | member
      · exact List.forall_mem_cons.mpr ⟨by simpa using inside, ih List.mem_cons_self⟩
      · exact ih (List.mem_cons_of_mem first member)

theorem splitWhere_join {test : Char → Bool} {mark : Char} (marks : test mark = true) {pieces : List Text}
    (nonempty : pieces ≠ []) (whole : ∀ piece ∈ pieces, ∀ c ∈ piece, test c = false) :
    splitWhere test (join [mark] pieces) = pieces := by
  induction pieces with
  | nil => exact absurd rfl nonempty
  | cons piece pieces ih =>
    rw [List.forall_mem_cons] at whole
    cases pieces with
    | nil => exact splitWhere_of_none whole.1
    | cons next pieces =>
      rw [join, List.append_assoc, List.singleton_append, splitWhere_append_cons marks,
        splitWhere_of_none whole.1, ih (List.cons_ne_nil _ _) whole.2]
      · rfl
      · exact List.cons_ne_nil _ _

/-! Words. -/

theorem words_cons_space {c : Char} (space : isSpace c = true) (text : Text) : words (c :: text) = words text := by
  simp [words, splitWhere, space]

/-- The text does not begin with white space, so that a word in front of it goes on. -/
def opensWord (text : Text) : Bool := text.head?.any (!isSpace ·)

theorem words_cons_visible {c : Char} (visible : isSpace c = false) (text : Text) :
    words (c :: text) = if opensWord text then (words text).modifyHead (c :: ·) else [c] :: words text := by
  cases text with
  | nil => simp [words, splitWhere, visible, opensWord]
  | cons d text =>
    cases next : isSpace d with
    | true => simp [words, splitWhere, visible, opensWord, next]
    | false =>
      obtain ⟨piece, pieces, cut⟩ := List.exists_cons_of_ne_nil (splitWhere_ne_nil isSpace text)
      simp [words, splitWhere, visible, opensWord, next, cut]

theorem words_ne_nil {c : Char} {text : Text} (member : c ∈ text) (visible : isSpace c = false) : words text ≠ [] := by
  induction text generalizing c with
  | nil => cases member
  | cons d text ih =>
    cases first : isSpace d with
    | true =>
      rw [words_cons_space first]
      rcases List.mem_cons.mp member with rfl | later
      · rw [first] at visible
        cases visible
      · exact ih later visible
    | false =>
      rw [words_cons_visible first]
      split
      next opens =>
        obtain ⟨e, next, goesOn⟩ := (Option.any_eq_true _ _).mp opens
        obtain ⟨word, words, split⟩ := List.exists_cons_of_ne_nil (ih (List.mem_of_head? next) (by simpa using goesOn))
        rw [split]
        exact List.cons_ne_nil _ _
      next => exact List.cons_ne_nil _ _

theorem mem_words {text word : Text} (member : word ∈ words text) : word ≠ [] ∧ ∀ c ∈ word, isSpace c = false := by
  obtain ⟨piece, nonempty⟩ := List.mem_filter.mp member
  exact ⟨by simpa using nonempty, of_mem_splitWhere piece⟩

theorem words_join {list : List Text} (proper : ∀ word ∈ list, word ≠ [] ∧ ∀ c ∈ word, isSpace c = false) :
    words (join [' '] list) = list := by
  by_cases nonempty : list = []
  · rw [nonempty]
    rfl
  · rw [words, splitWhere_join rfl nonempty fun word member => (proper word member).2, List.filter_eq_self]
    intro word member
    simpa using (proper word member).1

theorem join_words_inj {text other : Text} : join [' '] (words text) = join [' '] (words other) ↔ words text = words other := by
  constructor
  · intro same
    rw [← @words_join (words text) fun _ => mem_words, same, words_join fun _ => mem_words]
  · intro same
    rw [same]

theorem join_words_eq_nil {text : Text} : join [' '] (words text) = [] ↔ words text = [] :=
  @join_words_inj text []

end Literate.Text
