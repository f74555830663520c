import Literate.Proofs.BlockPartition
import Literate.Proofs.SplitterRuns

/-! Code that closes its own fence. Every fence is three backticks, and code of the plain format is
copied as it is; so the fence holds for as long as no line of the code is a closing fence. -/

namespace Literate

open Text

/-- At most three spaces, then three or more backticks, then only spaces and tabs. Such a line
closes a block that three backticks opened. -/
def Text.ClosesFence (line : Text) : Prop :=
  (line.takeWhile (· = ' ')).length ≤ 3 ∧
  3 ≤ ((line.dropWhile (· = ' ')).takeWhile (· = '`')).length ∧
  ∀ c ∈ (line.dropWhile (· = ' ')).dropWhile (· = '`'), isPad c = true

instance (line : Text) : Decidable line.ClosesFence :=
  haveI := List.decidableBAll (fun c => isPad c = true) ((line.dropWhile (· = ' ')).dropWhile (· = '`'))
  inferInstanceAs (Decidable (_ ∧ _ ∧ _))

/-- The lines between the line of the header and the footer. -/
def Block.enclosed (block : Block) : List Text := block.contents.lines.tail.dropLast.dropLast

/-- No block of code has a line that closes its fence. -/
def Chain.KeepsFences (chain : Chain) : Prop :=
  ∀ block ∈ chain, block.kind = .verbatim → ∀ line ∈ block.enclosed, ¬ line.ClosesFence

namespace Text

/-- The footer is on a line of its own behind the last line of text. -/
theorem lines_trimEnd_footer (text : Text) :
    lines (trimEnd text ++ "\n```\n".toList) = lines (trimEnd text) ++ ["```".toList, []] :=
  lines_append_lineFeed (getLast?_trimEnd_ne rfl text) "```\n".toList

theorem tail_lines_trimEnd_append {front : Text} (sameLine : ∀ c ∈ front, isNewline c = false) (text : Text) :
    (lines (trimEnd (front ++ text))).tail = (lines (trimEnd text)).tail := by
  rw [trimEnd, dropEndWhile_append_eq]
  split
  next dropped =>
    have shorter : dropEndWhile isSpace front <+: front := List.rdropWhile_prefix isSpace front
    rw [trimEnd, dropped, lines_of_sameLine fun c member => sameLine c (shorter.subset member)]
    rfl
  next => exact tail_lines_append sameLine _

theorem tail_lines_trimEnd_terminated {front : Text} (sameLine : ∀ c ∈ front, isNewline c = false) {text : Text}
    (visible : trimEnd text ≠ []) : (lines (trimEnd (front ++ ['\n'] ++ text))).tail = lines (trimEnd text) := by
  have kept : trimEnd (front ++ ['\n'] ++ text) = front ++ '\n' :: trimEnd text := by
    rw [trimEnd, dropEndWhile_append_of_ne_nil _ visible, List.append_assoc]
    rfl
  -- Behind a carriage return the line feed would end no line of its own.
  have whole : front.getLast? ≠ some '\r' := by
    intro last
    exact absurd (sameLine '\r' (List.mem_of_getLast? last)) (by decide)
  rw [kept, lines_append_lineFeed whole, lines_of_sameLine sameLine]
  rfl

theorem tail_lines_trimEnd_blank {front : Text} (sameLine : ∀ c ∈ front, isNewline c = false) {text : Text}
    (blank : trimEnd text = []) : (lines (trimEnd (front ++ ['\n'] ++ text))).tail = [] := by
  have all : trimEnd (['\n'] ++ text) = [] := by
    apply List.rdropWhile_eq_nil_iff.mpr
    intro c member
    rcases List.mem_cons.mp member with rfl | inside
    · rfl
    · exact List.rdropWhile_eq_nil_iff.mp blank c inside
  rw [List.append_assoc, tail_lines_trimEnd_append sameLine, all]
  rfl

theorem not_closesFence_nil : ¬ ClosesFence [] := by decide

end Text

variable {trim : Bool} {language : Text}

/-- The header leaves only further lines of the language behind, and closing leaves no more than
the code without the white space at its end. -/
theorem Block.enclosed_eq {segment : Text} {block : Block} (code : block.kind = .verbatim)
    (shows : block.Shows trim language segment) :
    block.enclosed = (lines (trimEnd (language ++ ['\n'] ++ segment))).tail := by
  have mark : ∀ c ∈ "``` ".toList, isNewline c = false := by simp [isNewline]
  simp only [Shows, code] at shows
  -- The footer adds two lines to these, its own and the empty one behind it.
  obtain ⟨header, others, split⟩ := List.exists_cons_of_ne_nil
    (lines_ne_nil (trimEnd ("``` ".toList ++ language ++ ['\n'] ++ segment)))
  have lines : block.contents.lines = header :: others ++ ["```".toList, []] := by
    rw [shows, lines_trimEnd_footer, split]
  rw [enclosed, lines, ← tail_lines_trimEnd_append mark, ← List.append_assoc, ← List.append_assoc, split]
  simp

/-- Fences hold exactly if no line of code, and no further line of the language, closes them. -/
theorem fences_kept_iff {source : Text} {file : Nat} {chain : Chain}
    (accepted : Chain.ofSource source file (.plain trim language) = .ok chain) :
    (∃ cut, Partition trim language source chain cut) ∧
    ∀ cut, Partition trim language source chain cut →
      (chain.KeepsFences ↔ ∀ part ∈ cut, part.2.kind = .verbatim →
        ∀ line ∈ (lines (trimEnd (language ++ ['\n'] ++ part.1))).tail, ¬ line.ClosesFence) ∧
      ((∀ c ∈ language, isNewline c = false) →
        (chain.KeepsFences ↔ ∀ part ∈ cut, part.2.kind = .verbatim →
          ∀ line ∈ lines (trimEnd part.1), ¬ line.ClosesFence)) := by
  refine ⟨Chain.partition_ofSource accepted, fun cut partition => ?_⟩
  have kept : chain.KeepsFences ↔ ∀ part ∈ cut, part.2.kind = .verbatim →
      ∀ line ∈ (lines (trimEnd (language ++ ['\n'] ++ part.1))).tail, ¬ line.ClosesFence := by
    rw [Chain.KeepsFences, ← partition.blocks, List.forall_mem_map]
    refine forall₃_congr fun part member code => ?_
    rw [Block.enclosed_eq code (partition.shown part member)]
  refine ⟨kept, fun oneLine => kept.trans (forall₃_congr fun part _ _ => ?_)⟩
  by_cases blank : trimEnd part.1 = []
  · rw [tail_lines_trimEnd_blank oneLine blank, blank]
    simp [lines, not_closesFence_nil]
  · rw [tail_lines_trimEnd_terminated oneLine blank]

/-- Backticks in front of code, and four spaces, are not enough to close a fence. -/
theorem fences_kept_iff_inner_backticks :
    ∃ chain, Chain.ofSource "x ```\n    ```\n``".toList 0 (.plain false "c".toList) = .ok chain ∧ chain.KeepsFences := by
  let block : Block := ⟨.verbatim, "``` c\nx ```\n    ```\n``\n```\n".toList⟩
  have accepted : Chain.ofSource "x ```\n    ```\n``".toList 0 (.plain false "c".toList) = .ok [block] :=
    ok_of_toOption (by decide +kernel)
  have shown : block.Shows false "c".toList "x ```\n    ```\n``".toList := by
    change block.contents = trimEnd _ ++ _
    decide
  have partition : Partition false "c".toList "x ```\n    ```\n``".toList [block]
      [("x ```\n    ```\n``".toList, block)] :=
    ⟨rfl, rfl, by simp, List.forall_mem_singleton.mpr shown, .singleton _⟩
  refine ⟨[block], accepted, (((fences_kept_iff accepted).2 _ partition).2 (by simp [isNewline])).mpr ?_⟩
  decide

/-- Three backticks on a line of code close its fence. -/
theorem backticks_close_fence :
    ∃ chain, Chain.ofSource "```\nx".toList 0 (.plain false "csharp".toList) = .ok chain ∧
      chain.document = "``` csharp\n```\nx\n```\n".toList ∧ ¬ chain.KeepsFences := by
  let block : Block := ⟨.verbatim, "``` csharp\n```\nx\n```\n".toList⟩
  refine ⟨[block], ok_of_toOption (by decide +kernel), by decide, ?_⟩
  intro kept
  exact kept block (by simp) rfl "```".toList (by decide) (by decide)

end Literate
