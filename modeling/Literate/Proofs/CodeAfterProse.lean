import Literate.Proofs.BlockPartition
import Literate.Proofs.FormatAgreement

/-! Code behind prose, in either format. Blank lines behind a comment open no block of code, but white
space that no line terminator ends is not a blank line: in front of another comment, or at the end of the
source, it makes a block with nothing to see in it. -/

namespace Literate

open Text

namespace Text

/-- White space other than spaces and tabs stands in front of the first line terminator. -/
def OpensWideBlank (text : Text) : Prop :=
  ∃ run c rest, text = run ++ c :: rest ∧ (∀ d ∈ run, isHorizontal d = true) ∧ (∃ d ∈ run, isPad d = false) ∧
    isNewline c = true

/-- White space that does not begin with a blank line has no line terminator, or another kind
of space in front of it. -/
theorem horizontal_or_opensWideBlank {text : Text} (blank : trimEnd text = []) (unopened : ¬ OpensBlank text) :
    (∀ c ∈ text, isHorizontal c = true) ∨ OpensWideBlank text := by
  have whole : text.takeWhile isHorizontal ++ text.dropWhile isHorizontal = text := List.takeWhile_append_dropWhile
  have inside : ∀ c ∈ text.takeWhile isHorizontal, isHorizontal c = true := fun c member => List.mem_takeWhile_imp member
  cases behind : text.dropWhile isHorizontal with
  | nil =>
    rw [behind, List.append_nil] at whole
    rw [whole] at inside
    exact .inl inside
  | cons c rest =>
    rw [behind] at whole
    have space : isSpace c = true := by
      apply List.rdropWhile_eq_nil_iff.mp blank c
      rw [← whole]
      simp
    have stops : isHorizontal c = false := by
      have first := List.head?_dropWhile_not isHorizontal text
      rw [behind] at first
      simpa using first
    have newline : isNewline c = true := by simpa [isHorizontal, space] using stops
    right
    refine ⟨_, c, rest, whole.symm, inside, ?_, newline⟩
    by_contra padded
    apply unopened
    refine ⟨_, c, rest, whole.symm, fun d member => ?_, newline⟩
    by_contra wide
    exact padded ⟨d, member, by simpa using wide⟩

end Text

namespace Format

theorem encoder_flatten (format : Format) (texts : List Text) :
    texts.flatMap format.encoder = format.encoder texts.flatten := by
  cases format with
  | plain => exact List.flatMap_id
  | styled => exact (escape_flatten texts).symm

theorem trimEnd_encoder (format : Format) (text : Text) :
    trimEnd (format.encoder text) = format.encoder (trimEnd text) := by
  cases format with
  | plain => rfl
  | styled => exact trimEnd_escape text

theorem encoder_ne_nil (format : Format) {text : Text} (written : text ≠ []) : format.encoder text ≠ [] := by
  cases format with
  | plain => exact written
  | styled =>
    obtain ⟨c, rest, rfl⟩ := List.exists_cons_of_ne_nil written
    exact List.append_ne_nil_of_left_ne_nil (escapeChar_ne_nil c) _

end Format

theorem Commentary.opens {interiors : List Text} {text : Text} (written : Commentary interiors text) :
    ['/', '*'] <+: text := by
  induction written with
  | comment => exact ⟨_, (List.append_assoc _ _ _).symm⟩
  | next _ _ ih => exact ih.trans (List.prefix_append _ _)
  | blank _ _ ih => exact ih.trans (List.prefix_append _ _)

/-- A source cut into one segment for each block, in either format. -/
structure Segmentation (layout : Layout) (source : Text) (chain : Chain) (cut : List (Text × Block)) : Prop where
  blocks : cut.map Prod.snd = chain
  whole : cut.flatMap Prod.fst = source
  nonempty : ∀ part ∈ cut, part.1 ≠ []
  alternates : cut.IsChain fun front back => front.2.kind ≠ back.2.kind
  parted : cut.IsChain fun front back => front.2.kind = .prose → back.2.kind = .verbatim → ¬ OpensBlank back.1
  prose : ∀ part ∈ cut, part.2.kind = .prose →
    ∃ interiors, Commentary interiors part.1 ∧ part.2.contents = interiors.flatMap layout.prose
  code : ∀ part ∈ cut, part.2.kind = .verbatim →
    part.2.contents = trimEnd (layout.format.frame.header layout.language ++ layout.format.encoder part.1) ++
      ['\n'] ++ layout.format.frame.footer ++ ['\n']

/-- The block of the same segment in another format. -/
def Block.reframed (layout : Layout) (segment : Text) (block : Block) : Block :=
  match block.kind with
  | .prose => block
  | .verbatim =>
    let frame := layout.format.frame
    ⟨.verbatim, trimEnd (frame.header layout.language ++ layout.format.encoder segment) ++ ['\n'] ++ frame.footer ++ ['\n']⟩

theorem Block.kind_reframed (layout : Layout) (segment : Text) (block : Block) :
    (block.reframed layout segment).kind = block.kind := by
  unfold reframed
  split
  next prose => rfl
  next code => exact code.symm

theorem Block.ofRun_reframed {layout : Layout} {segment : Text} {run : List Event} (uniform : Event.Uniform run)
    (shows : (Block.ofRun (.plain layout.trim layout.language) Format.plain.encoder run).Shows
      layout.trim layout.language segment) :
    (Block.ofRun (.plain layout.trim layout.language) Format.plain.encoder run).reframed layout segment =
      Block.ofRun layout layout.format.encoder run := by
  cases uniform with
  | prose nonempty =>
    rw [ofRun_prose _ _ nonempty, ofRun_prose _ _ nonempty]
    rfl
  | @code texts nonempty =>
    rw [ofRun_code _ _ nonempty] at shows ⊢
    rw [ofRun_code _ _ nonempty]
    have written : trimEnd ("``` ".toList ++ layout.language ++ ['\n'] ++ texts.flatten) ++ "\n```\n".toList =
        trimEnd ("``` ".toList ++ layout.language ++ ['\n'] ++ segment) ++ "\n```\n".toList := by
      simpa [Shows, Format.frame, Frame.of?, Format.encoder] using shows
    have same := trimEnd_append_inj.mp (List.append_cancel_right written)
    have encoded : trimEnd (layout.format.encoder texts.flatten) = trimEnd (layout.format.encoder segment) := by
      rw [layout.format.trimEnd_encoder, layout.format.trimEnd_encoder, same]
    rw [layout.format.encoder_flatten, trimEnd_append_inj.mpr encoded]
    rfl

private theorem map_eq_map {α β γ δ : Type} {first : α → γ} {second : β → γ} {shown : α → δ} {other : β → δ} {xs : List α}
    {ys : List β} (same : xs.map first = ys.map second)
    (related : ∀ x ∈ xs, ∀ y ∈ ys, first x = second y → shown x = other y) : xs.map shown = ys.map other := by
  induction xs generalizing ys with
  | nil =>
    cases ys with
    | nil => rfl
    | cons => cases same
  | cons x xs ih =>
    cases ys with
    | nil => cases same
    | cons y ys =>
      obtain ⟨head, tail⟩ := List.cons.inj same
      rw [List.map_cons, List.map_cons, related x (by simp) y (by simp) head]
      exact congrArg _ (ih tail fun x left y right => related x (by simp [left]) y (by simp [right]))

/-- The formats show the same segments. -/
theorem Partition.segmentation {layout : Layout} {source : Text} {chain shown : Chain} {cut : List (Text × Block)}
    (partition : Partition layout.trim layout.language source chain cut)
    (blocks : cut.map (fun part => part.2.reframed layout part.1) = shown)
    (alternates : shown.IsChain fun front back => front.kind ≠ back.kind) :
    Segmentation layout source shown (cut.map fun part => (part.1, part.2.reframed layout part.1)) where
  blocks := by
    rw [List.map_map]
    exact blocks
  whole := by
    rw [List.flatMap_map]
    exact partition.whole
  nonempty := List.forall_mem_map.mpr partition.nonempty
  alternates := by
    rw [← blocks, List.isChain_map] at alternates
    rw [List.isChain_map]
    exact alternates
  parted := by
    rw [List.isChain_map]
    simpa only [Block.kind_reframed] using partition.parted
  prose := by
    rw [List.forall_mem_map]
    intro part member prose
    rw [Block.kind_reframed] at prose
    have shows := partition.shown part member
    simp only [Block.Shows, prose] at shows
    obtain ⟨interiors, written, contents, _⟩ := shows
    refine ⟨interiors, written, ?_⟩
    simp only [Block.reframed, prose]
    exact contents
  code := by
    rw [List.forall_mem_map]
    intro part member code
    rw [Block.kind_reframed] at code
    simp only [Block.reframed, code]

theorem Chain.segmentation_ofSource {source : Text} {file : Nat} {layout : Layout} {chain : Chain}
    (accepted : Chain.ofSource source file layout = .ok chain) :
    ∃ cut, Segmentation layout source chain cut := by
  obtain ⟨outcome, runs⟩ := Splitter.drain_run (.ofSource source file)
  rw [Chain.ofSource, runs] at accepted
  obtain ⟨events, rfl, rfl⟩ := Splitter.events_of_outcome accepted
  have plain : Chain.ofSource source file (.plain layout.trim layout.language) =
      .ok (Chain.ofEvents (.plain layout.trim layout.language) Format.plain.encoder events) := by
    rw [Chain.ofSource, runs, Splitter.map_finish]
    rfl
  obtain ⟨cut, partition⟩ := Chain.partition_ofSource plain
  refine ⟨_, partition.segmentation ?_ (Chain.ofEvents_alternates events)⟩
  -- Both chains are made of the same runs of events, so each block comes from the block of its run.
  apply map_eq_map partition.blocks
  intro part member run cut equal
  have shown := partition.shown part member
  rw [equal] at shown ⊢
  exact Block.ofRun_reframed (Event.uniform_of_mem_splitBy cut) shown

/-- The text stands between the header and the footer of the block, and it is not all white space. -/
structure Block.Displays (layout : Layout) (shown : Text) (block : Block) : Prop where
  framed : block.contents = layout.format.frame.header layout.language ++ layout.format.encoder shown ++
    ['\n'] ++ layout.format.frame.footer ++ ['\n']
  visible : ∃ c ∈ shown, isSpace c = false

/-- Every block of code behind prose displays something of the source. -/
def Chain.DisplaysCode (layout : Layout) (source : Text) (chain : Chain) : Prop :=
  ∀ front prose code back, chain = front ++ prose :: code :: back → prose.kind = .prose → code.kind = .verbatim →
    ∃ shown, shown <:+: source ∧ code.Displays layout shown

namespace Segmentation

variable {layout : Layout} {source : Text} {chain : Chain} {cut front back : List (Text × Block)} {prose code : Text × Block}

theorem displays (segmentation : Segmentation layout source chain cut) (member : code ∈ cut)
    (verbatim : code.2.kind = .verbatim) (visible : trimEnd code.1 ≠ []) : code.2.Displays layout (trimEnd code.1) where
  framed := by
    have kept : trimEnd (layout.format.encoder code.1) ≠ [] := by
      rw [Format.trimEnd_encoder]
      exact layout.format.encoder_ne_nil visible
    rw [segmentation.code code member verbatim, trimEnd, dropEndWhile_append_of_ne_nil _ kept]
    exact congrArg (fun shown => _ ++ shown ++ _ ++ _ ++ _) (layout.format.trimEnd_encoder code.1)
  visible := ⟨_, List.getLast_mem visible, isSpace_getLast_trimEnd visible⟩

/-- What follows code is a comment. -/
theorem comment_behind (segmentation : Segmentation layout source chain cut) (split : cut = front ++ code :: back)
    (verbatim : code.2.kind = .verbatim) : ∀ next ∈ back.head?, ['/', '*'] <+: next.1 := by
  intro next first
  obtain ⟨rest, rfl⟩ : ∃ rest, back = next :: rest := List.head?_eq_some_iff.mp first
  have apart : code.2.kind ≠ next.2.kind := by
    have alternating := segmentation.alternates
    rw [split, List.isChain_append_cons_cons] at alternating
    exact alternating.2.1
  have kind : next.2.kind = .prose := BlockKind.ne_verbatim.mp (verbatim ▸ apart.symm)
  obtain ⟨interiors, written, _⟩ := segmentation.prose next (by simp [split]) kind
  exact written.opens

end Segmentation

/-- Code behind prose displays something, unless it is only white space in front of another comment or
of the end. White space that begins with a wide blank line may make a block as well. -/
theorem code_behind_prose_visible {source : Text} {file : Nat} {layout : Layout} {chain : Chain}
    (accepted : Chain.ofSource source file layout = .ok chain) :
    ∃ cut, Segmentation layout source chain cut ∧
      ∀ front prose code back, cut = front ++ prose :: code :: back → prose.2.kind = .prose → code.2.kind = .verbatim →
        code.2.Displays layout (trimEnd code.1) ∨
        trimEnd code.1 = [] ∧ ((∀ c ∈ code.1, isHorizontal c = true) ∧ (∀ next ∈ back.head?, ['/', '*'] <+: next.1) ∨
          OpensWideBlank code.1) := by
  obtain ⟨cut, segmentation⟩ := Chain.segmentation_ofSource accepted
  refine ⟨cut, segmentation, ?_⟩
  intro front prose code back split kind verbatim
  have member : code ∈ cut := by simp [split]
  by_cases blank : trimEnd code.1 = []
  · -- Blank lines behind prose open no code, so the code does not begin with one.
    have unopened : ¬ OpensBlank code.1 := by
      have parted := segmentation.parted
      rw [split, List.isChain_append_cons_cons] at parted
      exact parted.2.1 kind verbatim
    refine .inr ⟨blank, ?_⟩
    rcases horizontal_or_opensWideBlank blank unopened with horizontal | wide
    · have behind : cut = front ++ [prose] ++ code :: back := by simp [split]
      exact .inl ⟨horizontal, segmentation.comment_behind behind verbatim⟩
    · exact .inr wide
  · exact .inl (segmentation.displays member verbatim blank)

/-- The indentation of code behind a blank line belongs to the code. -/
theorem code_behind_prose_visible_indented :
    ∃ cut, Segmentation {} "/*a*/\n  x".toList
      [⟨.prose, "a".toList⟩, ⟨.verbatim, "``` csharp\n  x\n```\n".toList⟩] cut ∧
      ∀ code ∈ cut.getLast?, code.2.Displays {} (trimEnd code.1) := by
  have accepted : Chain.ofSource "/*a*/\n  x".toList 0 {} =
      .ok [⟨.prose, "a".toList⟩, ⟨.verbatim, "``` csharp\n  x\n```\n".toList⟩] := ok_of_toOption (by decide +kernel)
  obtain ⟨cut, segmentation, shown⟩ := code_behind_prose_visible accepted
  refine ⟨cut, segmentation, ?_⟩
  have blocks := segmentation.blocks
  obtain ⟨prose, code, rfl⟩ := List.length_eq_two.mp (by simpa using congrArg List.length blocks)
  obtain ⟨first, rest⟩ := List.cons.inj blocks
  obtain ⟨second, _⟩ := List.cons.inj rest
  have displays : code.2.Displays {} (trimEnd code.1) := by
    rcases shown [] prose code [] rfl (by rw [first]) (by rw [second]) with displays | ⟨blank, _⟩
    · exact displays
    · have contents := segmentation.code code (by simp) (by rw [second])
      have spaces : ∀ c ∈ code.1, isSpace c = true := List.rdropWhile_eq_nil_iff.mp blank
      change _ = trimEnd (_ ++ code.1) ++ _ ++ _ ++ _ at contents
      rw [second, trimEnd, dropEndWhile_append _ spaces] at contents
      exact absurd contents (by decide)
  simpa using displays

/-- A space between two comments makes a block of code with nothing in it. -/
theorem space_between_comments_opens_code :
    ∃ chain, Chain.ofSource "/*a*/ /*b*/".toList 0 {} = .ok chain ∧ ¬ chain.DisplaysCode {} "/*a*/ /*b*/".toList := by
  let code : Block := ⟨.verbatim, "``` csharp\n```\n".toList⟩
  refine ⟨[⟨.prose, "a".toList⟩, code, ⟨.prose, "b".toList⟩], ok_of_toOption (by decide +kernel), ?_⟩
  intro displays
  obtain ⟨shown, _, framed, _⟩ := displays [] ⟨.prose, "a".toList⟩ code [⟨.prose, "b".toList⟩] rfl rfl rfl
  have shorter : code.contents.length = 15 := rfl
  rw [framed] at shorter
  simp [Format.frame, Frame.of?, Format.encoder] at shorter

/-- So does a line terminator behind a no-break space: a blank line holds spaces and tabs only. -/
example : (Chain.ofSource "/*a*/\u00a0\n/*b*/".toList 0 {}).toOption =
    some [⟨.prose, "a".toList⟩, ⟨.verbatim, "``` csharp\n```\n".toList⟩, ⟨.prose, "b".toList⟩] := by decide +kernel

end Literate
