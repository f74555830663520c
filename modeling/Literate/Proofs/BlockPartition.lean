import Literate.Proofs.BlockEvents
import Mathlib.Data.List.Chain
import Mathlib.Data.List.Forall2

/-! Every character of a source is in exactly one block. The source is cut where the
splitter changes from one kind of block to the other, and a blank line that the splitter
leaves out belongs to the prose in front of it. -/

namespace Literate

open Text

namespace Text

abbrev commented (interior : Text) : Text := ['/', '*'] ++ interior ++ ['*', '/']

/-- Spaces and tabs, then a line terminator. -/
def BlankLine (line : Text) : Prop :=
  ∃ pads, (∀ c ∈ pads, isPad c = true) ∧ (line = pads ++ ['\r', '\n'] ∨ line = pads ++ ['\r'] ∨ line = pads ++ ['\n'])

/-- A text begins with spaces and tabs and a line terminator after them. -/
def OpensBlank (text : Text) : Prop :=
  ∃ pads c rest, text = pads ++ c :: rest ∧ (∀ d ∈ pads, isPad d = true) ∧ isNewline c = true

theorem OpensBlank.append {text : Text} (opens : OpensBlank text) (more : Text) : OpensBlank (text ++ more) := by
  obtain ⟨pads, c, rest, rfl, all, newline⟩ := opens
  exact ⟨pads, c, rest ++ more, by simp, all, newline⟩

theorem isBlankLine_iff {line : Text} : isBlankLine line = true ↔ BlankLine line := by
  constructor
  · intro blank
    have whole : line.takeWhile isPad ++ line.dropWhile isPad = line := List.takeWhile_append_dropWhile
    refine ⟨line.takeWhile isPad, fun c member => List.mem_takeWhile_imp member, ?_⟩
    unfold isBlankLine at blank
    split at blank
    next ending =>
      rw [ending] at whole
      exact .inl whole.symm
    next ending =>
      rw [ending] at whole
      exact .inr (.inl whole.symm)
    next ending =>
      rw [ending] at whole
      exact .inr (.inr whole.symm)
    next => cases blank
  · intro blank
    obtain ⟨pads, all, rfl | rfl | rfl⟩ := blank
    all_goals
      rw [isBlankLine, dropWhile_run all (by simp [Stops, isPad])]
      rfl

end Text

namespace Rule

private theorem space_head_cons {c : Char} (visible : isSpace c = false) (rest : Text) :
    ∀ d ∈ (c :: rest).head?, isSpace d = false := by
  simpa using visible

/-- Only white space begins with white space. -/
theorem first_of_lawful {kind : PieceKind} {before text after : Text} (lawful : kind.Lawful before text after)
    (other : kind ≠ .trivia .whitespace) : ∀ c ∈ text.head?, isSpace c = false := by
  match kind with
  | .trivia .whitespace => exact absurd rfl other
  | .trivia .lineComment | .trivia .blockComment =>
    obtain ⟨body, rfl, _⟩ := lawful
    exact space_head_cons (by decide) _
  | .trivia .directive =>
    obtain ⟨_, c, body, rfl, _⟩ := lawful
    exact space_head_cons (by decide) _
  | .token .word =>
    intro c first
    exact not_isSpace_of_isWordChar (lawful.2.1 c (List.mem_of_head? first))
  | .token .stringLiteral =>
    rcases lawful with ⟨interior, _, rfl⟩ | ⟨interior, _, rfl, _⟩
    all_goals exact space_head_cons (by decide) _
  | .token .charLiteral =>
    rcases lawful with ⟨c, rfl, _⟩ | ⟨c, rfl⟩
    all_goals exact space_head_cons (by decide) _
  | .token .punctuation =>
    obtain ⟨c, rfl, notSpace, _⟩ := lawful
    simpa using notSpace
  | .token .endOfFile => exact lawful.elim

/-- White space is cut behind the terminator, so a line that is blank is a piece of its own. -/
theorem Whitespace.blankLine {before text after : Text} (lawful : Whitespace before text after)
    (opens : OpensBlank (text ++ after)) : BlankLine text := by
  obtain ⟨_, run, ending, rfl, inside, _, stops, between⟩ := lawful
  obtain ⟨pads, c, rest, split, all, newline⟩ := opens
  have horizontal : ∀ d ∈ pads, isHorizontal d = true := fun d member => isHorizontal_of_isPad (all d member)
  have edge : Stops isHorizontal (c :: rest) := by
    intro d first
    obtain rfl : c = d := by simpa using first
    simp [isHorizontal, newline]
  rw [List.append_assoc] at split
  have same : run = pads := by
    rw [← takeWhile_run inside stops, split, takeWhile_run horizontal edge]
  subst same
  have follows : ending ++ after = c :: rest := List.append_cancel_left split
  refine ⟨run, all, ?_⟩
  cases between with
  | none stops =>
    have clear := stops c (by simpa using congrArg List.head? follows)
    rw [newline] at clear
    cases clear
  | both => exact .inl rfl
  | carriageReturn => exact .inr (.inl rfl)
  | lineFeed => exact .inr (.inr rfl)

theorem blankLine_of_lawful {kind : PieceKind} {before text after : Text} (lawful : kind.Lawful before text after)
    (opens : OpensBlank (text ++ after)) : BlankLine text := by
  by_cases white : kind = .trivia .whitespace
  · subst white
    exact Whitespace.blankLine lawful opens
  · obtain ⟨c, rest, rfl⟩ := List.exists_cons_of_ne_nil (ne_nil_of_lawful lawful)
    have visible := first_of_lawful lawful white c rfl
    obtain ⟨pads, d, more, split, all, newline⟩ := opens
    have space : isSpace c = true := by
      cases pads with
      | nil =>
        obtain ⟨rfl, _⟩ := List.cons.inj split
        exact isSpace_of_isNewline newline
      | cons pad pads =>
        obtain ⟨rfl, _⟩ := List.cons.inj split
        exact isSpace_of_isHorizontal (isHorizontal_of_isPad (all c (by simp)))
    rw [space] at visible
    cases visible

end Rule

abbrev Layout.plain (trim : Bool) (language : Text) : Layout := ⟨.plain, trim, language⟩

/-- Events in the order of the text they were written as. A blank line is never joined
with other code. -/
inductive Spells : List Event → Text → Prop where
  | done : Spells [] []
  | prose {interior events after} (closed : ¬ ['*', '/'] <:+: interior) (more : Spells events after) :
      Spells (.prose interior :: events) (commented interior ++ after)
  | code {text events after} (whole : OpensBlank (text ++ after) → text = [] ∨ BlankLine text)
      (more : Spells events after) : Spells (.code text :: events) (text ++ after)

/-- Comments with blank lines behind them, and the interiors of the comments. -/
inductive Commentary : List Text → Text → Prop where
  | comment {interior} (closed : ¬ ['*', '/'] <:+: interior) :
      Commentary [interior] (commented interior)
  | next {interiors text interior} (before : Commentary interiors text) (closed : ¬ ['*', '/'] <:+: interior) :
      Commentary (interiors ++ [interior]) (text ++ commented interior)
  | blank {interiors text line} (before : Commentary interiors text) (blank : BlankLine line) :
      Commentary interiors (text ++ line)

/-- What a block of the plain format shows of its segment of the source. -/
def Block.Shows (trim : Bool) (language segment : Text) (block : Block) : Prop :=
  match block.kind with
  | .verbatim =>
    block.contents = trimEnd ("``` ".toList ++ language ++ ['\n'] ++ segment) ++ "\n```\n".toList
  | .prose => ∃ interiors, Commentary interiors segment ∧
      block.contents = interiors.flatMap (Layout.prose (.plain trim language)) ∧
      (trim = false → block.contents = interiors.flatten)

/-- A source cut into one segment for each block. -/
structure Partition (trim : Bool) (language source : Text) (chain : Chain) (cut : List (Text × Block)) : Prop where
  blocks : cut.map Prod.snd = chain
  whole : cut.flatMap Prod.fst = source
  nonempty : ∀ part ∈ cut, part.1 ≠ []
  shown : ∀ part ∈ cut, part.2.Shows trim language part.1
  parted : cut.IsChain fun front back =>
    front.2.kind = .prose → back.2.kind = .verbatim → ¬ OpensBlank back.1

/-- The open block holds what it will show of its segment. -/
def OpenBlock.Fills (layout : Layout) (segment : Text) (block : OpenBlock) : Prop :=
  match block.kind with
  | .verbatim => segment ≠ [] ∧ block.buffer = layout.opening .verbatim ++ segment
  | .prose => ∃ interiors, Commentary interiors segment ∧ block.buffer = interiors.flatMap layout.prose

/-- All that was read is in segments of closed blocks and of the open one. What is still
unread cannot turn the open segment into one that begins with a blank line. -/
inductive Splitter.Reached (trim : Bool) (language unread : Text) : Text → Splitter → Prop where
  | start : Reached trim language unread [] {}
  | within {front segment closed cut block} (partition : Partition trim language front closed cut)
      (fills : block.Fills (.plain trim language) segment)
      (parted : ∀ part ∈ cut.getLast?, part.2.kind = .prose → block.kind = .verbatim →
        ¬ OpensBlank (segment ++ unread)) :
      Reached trim language unread (front ++ segment) ⟨closed, some block⟩

theorem Commentary.ne_nil {interiors : List Text} {text : Text} (written : Commentary interiors text) : text ≠ [] := by
  cases written with
  | comment => simp
  | next => simp
  | blank before blank =>
    obtain ⟨pads, _, rfl | rfl | rfl⟩ := blank <;> simp

section

variable {trim : Bool} {language : Text}

theorem OpenBlock.Fills.nonempty {layout : Layout} {segment : Text} {block : OpenBlock}
    (fills : block.Fills layout segment) : segment ≠ [] := by
  unfold Fills at fills
  split at fills
  next => exact fills.1
  next =>
    obtain ⟨interiors, written, _⟩ := fills
    exact written.ne_nil

theorem OpenBlock.Fills.shows {segment : Text} {block : OpenBlock} (fills : block.Fills (.plain trim language) segment) :
    (Layout.close (.plain trim language) block.kind block.buffer).Shows trim language segment := by
  cases kind : block.kind with
  | verbatim =>
    simp only [Fills, kind] at fills
    simp [Block.Shows, Layout.close, Frame.of?, fills.2, Layout.opening]
  | prose =>
    simp only [Fills, kind] at fills
    obtain ⟨interiors, written, filled⟩ := fills
    refine ⟨interiors, written, filled, ?_⟩
    intro untrimmed
    subst untrimmed
    rw [← List.flatMap_id]
    exact filled

theorem Partition.snoc {front segment : Text} {closed : Chain} {cut : List (Text × Block)} {block : Block}
    (partition : Partition trim language front closed cut) (nonempty : segment ≠ [])
    (shows : block.Shows trim language segment)
    (parted : ∀ part ∈ cut.getLast?, part.2.kind = .prose → block.kind = .verbatim → ¬ OpensBlank segment) :
    Partition trim language (front ++ segment) (closed ++ [block]) (cut ++ [(segment, block)]) where
  blocks := by simp [partition.blocks]
  whole := by simp [partition.whole]
  nonempty := by
    intro part member
    rcases List.mem_append.mp member with earlier | last
    · exact partition.nonempty part earlier
    · rw [List.mem_singleton.mp last]
      exact nonempty
  shown := by
    intro part member
    rcases List.mem_append.mp member with earlier | last
    · exact partition.shown part earlier
    · rw [List.mem_singleton.mp last]
      exact shows
  parted := by
    apply partition.parted.append (List.isChain_singleton _)
    intro part ends last first
    obtain rfl : (segment, block) = last := by simpa using first
    exact parted part ends

theorem Partition.empty : Partition trim language [] [] [] := ⟨rfl, rfl, by simp, by simp, .nil⟩

/-- Closing the open block, whatever is still unread. -/
theorem Partition.close {front segment unread : Text} {closed : Chain} {cut : List (Text × Block)} {block : OpenBlock}
    (partition : Partition trim language front closed cut) (fills : block.Fills (.plain trim language) segment)
    (parted : ∀ part ∈ cut.getLast?, part.2.kind = .prose → block.kind = .verbatim → ¬ OpensBlank (segment ++ unread)) :
    Partition trim language (front ++ segment) (closed ++ [Layout.close (.plain trim language) block.kind block.buffer])
      (cut ++ [(segment, Layout.close (.plain trim language) block.kind block.buffer)]) := by
  apply partition.snoc fills.nonempty fills.shows
  intro part ends prose verbatim opens
  exact parted part ends prose verbatim (opens.append unread)

namespace Splitter

theorem Reached.finish {read unread : Text} {splitter : Splitter} (reached : Reached trim language unread read splitter) :
    ∃ cut, Partition trim language read (splitter.finish (.plain trim language)) cut := by
  cases reached with
  | start => exact ⟨[], .empty⟩
  | within partition fills parted => exact ⟨_, partition.close fills parted⟩

theorem Reached.prose {read after interior : Text} {splitter : Splitter} (closed : ¬ ['*', '/'] <:+: interior)
    (reached : Reached trim language (commented interior ++ after) read splitter) :
    Reached trim language after (read ++ commented interior)
      (splitter.step (.plain trim language) Format.plain.encoder (.prose interior)) := by
  have opened : OpenBlock.Fills (.plain trim language) (commented interior)
      ⟨.prose, [Layout.prose (.plain trim language) interior, Layout.opening (.plain trim language) .prose]⟩ :=
    ⟨[interior], .comment closed, by simp [OpenBlock.buffer, Layout.opening, Frame.of?]⟩
  cases reached with
  | start => exact .within .empty opened (by simp)
  | @within front segment _ cut block partition fills parted =>
    by_cases kind : block.kind = .prose
    · have filled : (block.append (Layout.prose (.plain trim language) interior)).Fills (.plain trim language)
          (segment ++ commented interior) := by
        simp only [OpenBlock.Fills, OpenBlock.kind_append, kind] at fills ⊢
        obtain ⟨interiors, written, buffer⟩ := fills
        exact ⟨interiors ++ [interior], .next written closed, by simp [buffer]⟩
      rw [step, append_same kind, List.append_assoc]
      exact .within partition filled (by simp [kind])
    · rw [step, append_other kind]
      exact .within (partition.close fills parted) opened (by simp)

theorem Reached.code {read text after : Text} {splitter : Splitter}
    (whole : OpensBlank (text ++ after) → text = [] ∨ BlankLine text)
    (reached : Reached trim language (text ++ after) read splitter) :
    Reached trim language after (read ++ text)
      (splitter.step (.plain trim language) Format.plain.encoder (.code text)) := by
  by_cases empty : text = []
  · subst empty
    rw [step_empty, List.append_nil]
    exact reached
  have opened : OpenBlock.Fills (.plain trim language) text
      ⟨.verbatim, [text, Layout.opening (.plain trim language) .verbatim]⟩ := by
    simp [OpenBlock.Fills, OpenBlock.buffer, empty]
  cases reached with
  | start =>
    rw [step_code empty (by simp)]
    exact .within .empty opened (by simp)
  | @within front segment _ cut block partition fills parted =>
    cases kind : block.kind with
    | prose =>
      by_cases blank : isBlankLine text = true
      · rw [step_blank kind blank, List.append_assoc]
        refine .within partition ?_ (by simp [kind])
        simp only [OpenBlock.Fills, kind] at fills ⊢
        obtain ⟨interiors, written, buffer⟩ := fills
        exact ⟨interiors, .blank written (isBlankLine_iff.mp blank), buffer⟩
      · rw [step_code empty (by simpa using fun _ => blank), append_other (by simp [kind])]
        refine .within (partition.close fills parted) opened ?_
        -- The lexer cuts behind the terminator, so the first piece would be the whole blank line.
        intro part ends prose verbatim opens
        rcases whole opens with none | line
        · exact empty none
        · exact blank (isBlankLine_iff.mpr line)
    | verbatim =>
      rw [step_code empty (by simp [kind]), append_same kind, List.append_assoc]
      refine .within partition ?_ ?_
      · simp only [OpenBlock.Fills, OpenBlock.kind_append, kind] at fills ⊢
        simp [fills.2, empty, Format.encoder]
      · simpa [kind] using parted

/-- A run over all events reads all of their text. -/
theorem Reached.run {events : List Event} {text read : Text} {splitter : Splitter} (spells : Spells events text)
    (reached : Reached trim language text read splitter) :
    Reached trim language [] (read ++ text)
      (events.foldl (step (.plain trim language) Format.plain.encoder) splitter) := by
  induction spells generalizing read splitter with
  | done => simpa using reached
  | prose closed _ ih => simpa using ih (reached.prose closed)
  | code whole _ ih => simpa using ih (reached.code whole)

end Splitter

end

/-- A piece is code as it is written, or it is a comment and its interior is prose. -/
def Event.Renders (event : Event) (piece : Piece) : Prop :=
  event = .code piece.text ∨
  piece.kind = .trivia .blockComment ∧ event = .prose ((piece.text.drop 2).rdrop 2)

theorem Token.events_render (token : Token) : List.Forall₂ Event.Renders token.events token.pieces := by
  apply List.rel_append
  · rw [List.forall₂_map_left_iff, List.forall₂_map_right_iff, List.forall₂_same]
    intro trivia _
    by_cases comment : trivia.kind = .blockComment
    · exact .inr ⟨congrArg PieceKind.trivia comment, by simp [Trivia.event, Trivia.piece, comment]⟩
    · exact .inl (by simp [Trivia.event, Trivia.piece, comment])
  · refine .cons (.inl rfl) ?_
    rw [List.forall₂_map_left_iff, List.forall₂_map_right_iff, List.forall₂_same]
    intro trivia _
    exact .inl rfl

theorem Token.flatMap_events_render (tokens : List Token) :
    List.Forall₂ Event.Renders (tokens.flatMap Token.events) (tokens.flatMap Token.pieces) := by
  induction tokens with
  | nil => exact .nil
  | cons token tokens ih => exact List.rel_append token.events_render ih

theorem Reads.spells {place last : Place} {pieces : List Piece} {events : List Event} {offset : Nat}
    (reads : Reads place pieces last) (ended : last.after = [])
    (rendered : List.Forall₂ Event.Renders events (pieces ++ [.ending offset])) : Spells events place.after := by
  induction reads generalizing events with
  | @done place =>
    rcases rendered with _ | ⟨code | ⟨comment, _⟩, _ | _⟩
    · rw [ended, code]
      exact .code (fun _ => .inl rfl) .done
    · cases comment
  | @piece before text after kind pieces last lawful _ ih =>
    rcases rendered with _ | ⟨code | ⟨comment, prose⟩, more⟩
    · rw [code]
      exact .code (fun opens => .inr (Rule.blankLine_of_lawful lawful opens)) (ih ended more)
    · change kind = _ at comment
      subst comment
      obtain ⟨interior, delimited, closed⟩ := lawful
      subst delimited
      rw [prose]
      simpa [List.rdrop] using Spells.prose closed (ih ended more)

theorem Chain.partition_ofSource {source language : Text} {file : Nat} {trim : Bool} {chain : Chain}
    (accepted : Chain.ofSource source file (.plain trim language) = .ok chain) :
    ∃ cut, Partition trim language source chain cut := by
  rw [Chain.ofSource_eq] at accepted
  cases lexed : Lexer.tokens source file with
  | error fault =>
    rw [lexed] at accepted
    cases accepted
  | ok tokens =>
    rw [lexed] at accepted
    cases accepted
    obtain ⟨_, pieces, reads, whole⟩ := Lexer.tokens_reads lexed
    have rendered := Token.flatMap_events_render tokens
    rw [whole] at rendered
    exact ((Splitter.Reached.start).run (reads.spells rfl rendered)).finish

theorem Lexer.tokens_empty (file : Nat) : ∃ tokens, Lexer.tokens [] file = .ok tokens := by
  cases lexed : Lexer.tokens [] file with
  | ok tokens => exact ⟨tokens, rfl⟩
  | error fault =>
    have still : Reads ⟨[], []⟩ [] ⟨[], []⟩ := .done
    exact absurd (Lexer.tokens_stuck lexed) (still.not_stuck (by simp [Rule.Apart]) rfl)

/-- The segments of the blocks of a source in the plain format, which encodes nothing. -/
theorem source_partition (file : Nat) (trim : Bool) (language : Text) :
    (∀ source chain, Chain.ofSource source file (.plain trim language) = .ok chain →
      ∃ cut, Partition trim language source chain cut) ∧
    Chain.ofSource [] file (.plain trim language) = .ok [] := by
  refine ⟨fun source chain => Chain.partition_ofSource, ?_⟩
  obtain ⟨tokens, lexed⟩ := Lexer.tokens_empty file
  have accepted := Chain.ofSource_eq [] file (.plain trim language)
  rw [lexed] at accepted
  obtain ⟨cut, partition⟩ := Chain.partition_ofSource accepted
  have uncut : cut = [] := by
    rw [List.eq_nil_iff_forall_not_mem]
    intro part member
    exact partition.nonempty part member (List.flatMap_eq_nil_iff.mp partition.whole part member)
  have empty := partition.blocks
  rw [uncut] at empty
  rw [accepted]
  exact congrArg Except.ok empty.symm

theorem source_partition_two_comments :
    ∃ cut, Partition false "c".toList "/* a */ \n\n/**/x /* b */\n".toList
      [⟨.prose, " a ".toList⟩, ⟨.verbatim, "``` c\nx /* b */\n```\n".toList⟩] cut := by
  have shown : (Chain.ofSource "/* a */ \n\n/**/x /* b */\n".toList 0 ⟨.plain, false, "c".toList⟩).toOption =
      some [⟨.prose, " a ".toList⟩, ⟨.verbatim, "``` c\nx /* b */\n```\n".toList⟩] := by
    decide +kernel
  cases found : Chain.ofSource "/* a */ \n\n/**/x /* b */\n".toList 0 ⟨.plain, false, "c".toList⟩ with
  | error fault =>
    rw [found] at shown
    cases shown
  | ok chain =>
    rw [found] at shown
    cases shown
    exact (source_partition 0 false "c".toList).1 _ _ found

end Literate
