import Literate.Markdown
import Literate.Proofs.TextPieces

/-! Titles of headings on several lines. A title has no place for a line break, so words are kept
apart only if there is white space beside each break that stands between two of them. -/

namespace Literate

open Text

/-- Text with line breaks in it, each of them in place of a character. -/
abbrev BrokenText := List (Option Char)

namespace BrokenText

/-- The text without its breaks. -/
def joined (text : BrokenText) : Text := text.filterMap id

/-- The text with each break as white space. -/
def spaced (text : BrokenText) : Text := text.map (·.getD ' ')

/-- Two words have nothing but breaks between them. -/
inductive Fuses : BrokenText → Prop where
  | here {c d count rest} (visible : isSpace c = false) (next : isSpace d = false) :
      Fuses (some c :: none :: (List.replicate count none ++ some d :: rest))
  | later {mark text} (more : Fuses text) : Fuses (mark :: text)

variable {text : BrokenText}

@[simp] theorem joined_break : joined (none :: text) = joined text := rfl

@[simp] theorem joined_char (c : Char) : joined (some c :: text) = c :: joined text := rfl

@[simp] theorem spaced_break : spaced (none :: text) = ' ' :: spaced text := rfl

@[simp] theorem spaced_char (c : Char) : spaced (some c :: text) = c :: spaced text := rfl

theorem split_of_joined {c : Char} (first : c ∈ (joined text).head?) :
    ∃ count rest, text = List.replicate count none ++ some c :: rest := by
  induction text with
  | nil => cases first
  | cons mark text ih =>
    cases mark with
    | none =>
      obtain ⟨count, rest, split⟩ := ih first
      exact ⟨count + 1, rest, congrArg (none :: ·) split⟩
    | some d =>
      obtain rfl : d = c := by simpa using first
      exact ⟨0, text, rfl⟩

theorem words_spaced_breaks (count : Nat) (text : BrokenText) :
    words (spaced (List.replicate count none ++ text)) = words (spaced text) := by
  induction count with
  | zero => rfl
  | succ count ih => rw [List.replicate_succ, List.cons_append, spaced_break, words_cons_space rfl, ih]

theorem joined_breaks (count : Nat) (text : BrokenText) : joined (List.replicate count none ++ text) = joined text := by
  induction count with
  | zero => rfl
  | succ count ih => exact ih

theorem opensWord_joined (opens : opensWord (spaced text) = true) : opensWord (joined text) = true := by
  match text with
  | [] => exact opens
  | none :: _ => cases opens
  | some _ :: _ => exact opens

theorem opensWord_spaced {c : Char} (visible : isSpace c = false) (apart : ¬ Fuses (some c :: text))
    (opens : opensWord (joined text) = true) : opensWord (spaced text) = true := by
  match text with
  | [] => exact opens
  | some _ :: _ => exact opens
  | none :: text =>
    -- Behind the breaks a character waits that would go on with the word of `c`.
    obtain ⟨d, first, next⟩ := (Option.any_eq_true _ _).mp opens
    obtain ⟨count, rest, rfl⟩ := @split_of_joined text d first
    exact absurd (.here visible (by simpa using next)) apart

theorem words_eq_of_apart (apart : ¬ Fuses text) : words (joined text) = words (spaced text) := by
  induction text with
  | nil => rfl
  | cons mark text ih =>
    have same := ih fun fuses => apart (.later fuses)
    cases mark with
    | none => rw [joined_break, spaced_break, words_cons_space rfl, same]
    | some c =>
      rw [joined_char, spaced_char]
      cases visible : isSpace c with
      | true => rw [words_cons_space visible, words_cons_space visible, same]
      | false =>
        have opens : opensWord (joined text) = opensWord (spaced text) :=
          Bool.eq_iff_iff.mpr ⟨opensWord_spaced visible apart, opensWord_joined⟩
        rw [words_cons_visible visible, words_cons_visible visible, same, opens]

/-- With white space for the breaks each character opens at least as many words. -/
theorem length_words_step (mark : Option Char) (text : BrokenText) :
    (words (joined (mark :: text))).length + (words (spaced text)).length ≤
      (words (spaced (mark :: text))).length + (words (joined text)).length := by
  cases mark with
  | none =>
    rw [joined_break, spaced_break, words_cons_space rfl]
    omega
  | some c =>
    rw [joined_char, spaced_char]
    cases visible : isSpace c with
    | true =>
      rw [words_cons_space visible, words_cons_space visible]
      omega
    | false =>
      rw [words_cons_visible visible, words_cons_visible visible]
      by_cases opens : opensWord (spaced text) = true
      · rw [if_pos opens, if_pos (opensWord_joined opens), List.length_modifyHead, List.length_modifyHead]
        omega
      · rw [if_neg opens, List.length_cons]
        split
        · rw [List.length_modifyHead]
          omega
        · rw [List.length_cons]
          omega

theorem length_words_le (text : BrokenText) : (words (joined text)).length ≤ (words (spaced text)).length := by
  induction text with
  | nil => exact Nat.le_refl _
  | cons mark text ih =>
    have step := length_words_step mark text
    omega

theorem length_words_lt (fuses : Fuses text) : (words (joined text)).length < (words (spaced text)).length := by
  induction fuses with
  | @here c d count rest visible next =>
    -- Without the breaks the two characters are in one word; with them a word ends between the two.
    have fewer := length_words_le (some d :: rest)
    have goesOn : opensWord (d :: joined rest) = true := by simp [opensWord, next]
    have together : (words (joined (some c :: none :: (List.replicate count none ++ some d :: rest)))).length =
        (words (joined (some d :: rest))).length := by
      rw [joined_char, joined_break, joined_breaks, joined_char, words_cons_visible visible, if_pos goesOn,
        List.length_modifyHead]
    have ends (text : Text) : opensWord (' ' :: text) = false := rfl
    have parted : words (spaced (some c :: none :: (List.replicate count none ++ some d :: rest))) =
        [c] :: words (spaced (some d :: rest)) := by
      rw [spaced_char, spaced_break, words_cons_visible visible, ends, if_neg Bool.false_ne_true,
        words_cons_space rfl, words_spaced_breaks]
    rw [together, parted, List.length_cons]
    omega
  | @later mark text _ ih =>
    have step := length_words_step mark text
    omega

theorem words_eq_iff : words (joined text) = words (spaced text) ↔ ¬ Fuses text := by
  constructor
  · intro same fuses
    have fewer := length_words_lt fuses
    rw [same] at fewer
    omega
  · exact words_eq_of_apart

theorem visible_of_fuses (fuses : Fuses text) : ∃ c ∈ joined text, isSpace c = false := by
  induction fuses with
  | @here c _ _ _ visible => exact ⟨c, List.mem_cons_self, visible⟩
  | @later mark text _ ih =>
    obtain ⟨c, member, visible⟩ := ih
    cases mark with
    | none => exact ⟨c, member, visible⟩
    | some d => exact ⟨c, List.mem_cons_of_mem d member, visible⟩

instance (text : BrokenText) : Decidable (Fuses text) := decidable_of_iff (words (joined text) ≠ words (spaced text))
  ((not_congr words_eq_iff).trans Classical.not_not)

end BrokenText

namespace Markdown

mutual

/-- The text and code of running text, with its line breaks. -/
def Inline.broken : Inline → BrokenText
  | .text content | .code content => content.map some
  | .html _ => []
  | .softBreak | .hardBreak => [none]
  | .emphasis inner | .strong inner | .deleted inner | .link _ _ inner | .image _ _ inner => brokenText inner

def brokenText : List Inline → BrokenText
  | [] => []
  | inline :: rest => inline.broken ++ brokenText rest

end

mutual

theorem Inline.words_eq (inline : Inline) : inline.words = BrokenText.joined inline.broken :=
  match inline with
  | .text content | .code content => by simp [Inline.words, Inline.broken, BrokenText.joined]
  | .html _ => rfl
  | .softBreak | .hardBreak => rfl
  | .emphasis inner | .strong inner | .deleted inner | .link _ _ inner | .image _ _ inner => inlineWords_eq inner

theorem inlineWords_eq (heading : List Inline) : inlineWords heading = BrokenText.joined (brokenText heading) :=
  match heading with
  | [] => rfl
  | inline :: rest => by
    rw [inlineWords, brokenText, Inline.words_eq, inlineWords_eq rest, BrokenText.joined, BrokenText.joined,
      BrokenText.joined, List.filterMap_append]

end

theorem titleOf_eq_some {heading : List Inline} {title : Text} :
    titleOf heading = some title ↔ title ≠ [] ∧ title = join [' '] (words (BrokenText.joined (brokenText heading))) := by
  rw [titleOf, inlineWords_eq]
  by_cases empty : join [' '] (words (BrokenText.joined (brokenText heading))) = []
  · simp [empty]
  · have found : (join [' '] (words (BrokenText.joined (brokenText heading)))).isEmpty = false := by simpa using empty
    simp only [found, Bool.false_eq_true, if_false, Option.some.injEq]
    constructor
    · rintro rfl
      exact ⟨empty, rfl⟩
    · rintro ⟨_, rfl⟩
      rfl

/-- The words of a heading with single spaces between them, line breaks being white space. -/
def apartTitle (heading : List Inline) : Text := join [' '] (words (BrokenText.spaced (brokenText heading)))

theorem titleOf_apart_iff (heading : List Inline) :
    (∀ title, titleOf heading = some title → title = apartTitle heading) ↔ ¬ BrokenText.Fuses (brokenText heading) := by
  constructor
  · intro kept fuses
    obtain ⟨c, member, visible⟩ := BrokenText.visible_of_fuses fuses
    have nonempty := mt join_words_eq_nil.mp (words_ne_nil member visible)
    have same := kept _ (titleOf_eq_some.mpr ⟨nonempty, rfl⟩)
    exact BrokenText.words_eq_iff.mp (join_words_inj.mp same) fuses
  · intro apart title found
    rw [(titleOf_eq_some.mp found).2, BrokenText.words_eq_of_apart apart, apartTitle]

/-- Titles keep words apart as long as there is white space beside each break between two of them. -/
theorem titles_keep_words_iff (document : Text) (heading : List Inline) :
    ((∀ title, title? document = some title →
        ∃ first, firstHeading? (parse document) = some first ∧ title = apartTitle first) ↔
      ∀ first, firstHeading? (parse document) = some first → ¬ BrokenText.Fuses (brokenText first)) ∧
    ((∀ title, titleOf heading = some title → title = apartTitle heading) ↔
      ¬ BrokenText.Fuses (brokenText heading)) := by
  refine ⟨?_, titleOf_apart_iff heading⟩
  cases found : firstHeading? (parse document) with
  | none => simp [title?, found]
  | some first => simpa [title?, found] using titleOf_apart_iff first

/-- White space in front of a break is enough, also if there are tags between the two. -/
theorem titles_keep_words_space_beside_break :
    title? "Foo <b> </b>\nbar\n===".toList = some "Foo bar".toList ∧
    (∀ title, title? "Foo <b> </b>\nbar\n===".toList = some title →
      ∃ first, firstHeading? (parse "Foo <b> </b>\nbar\n===".toList) = some first ∧ title = apartTitle first) ∧
    ∀ title, titleOf [.text "a ".toList, .hardBreak, .code "b".toList] = some title →
      title = apartTitle [.text "a ".toList, .hardBreak, .code "b".toList] := by
  obtain ⟨document, heading⟩ := titles_keep_words_iff "Foo <b> </b>\nbar\n===".toList
    [.text "a ".toList, .hardBreak, .code "b".toList]
  refine ⟨by decide +kernel, document.mpr ?_, heading.mpr (by decide)⟩
  intro first found
  have read : (firstHeading? (parse "Foo <b> </b>\nbar\n===".toList)).map brokenText =
      some ("Foo  ".toList.map some ++ none :: "bar".toList.map some) := by decide +kernel
  rw [found] at read
  rw [Option.some.inj read]
  decide

/-- The last word of a line and the first word of the next one become one. -/
theorem line_break_fuses_words :
    title? "Foo\nbar\n===".toList = some "Foobar".toList ∧
    ∃ heading, firstHeading? (parse "Foo\nbar\n===".toList) = some heading ∧ apartTitle heading = "Foo bar".toList := by
  have titled : (firstHeading? (parse "Foo\nbar\n===".toList)).map apartTitle = some "Foo bar".toList := by decide +kernel
  exact ⟨by decide +kernel, Option.map_eq_some_iff.mp titled⟩

end Markdown

end Literate
