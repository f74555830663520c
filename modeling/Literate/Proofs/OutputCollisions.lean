import Literate.Proofs.RunReports
import Mathlib.Data.Set.Pairwise.List

/-! Input files with one output. A woven or rendered file takes the extension of the format
instead of its own, so that two files which differ in their extensions only can have the same
output path. This is the only way for outputs to coincide; and where none do, what was
written for a file is still there when the run ends. -/

namespace Literate

/-- The files differ in their extensions at most, and what is made of either has the
extension of the format: the first one is woven or rendered, and the second one is too or
is copied and has that extension already. -/
structure Settings.Collide (settings : Settings) (first second : Input) : Prop where
  same : first.relative.withExtension [] = second.relative.withExtension []
  documented : settings.documents first = true
  other : settings.documents second = true ∨
    settings.format = .plain ∧ second.extension? = some settings.format.extension

theorem Path.join_names_inj {directory : Path} {names others : Location} (nonempty : names ≠ []) (named : ∀ name ∈ names, name.IsName)
    (nonemptyOthers : others ≠ []) (namedOthers : ∀ name ∈ others, name.IsName)
    (same : directory.join (Text.join ['/'] names) = directory.join (Text.join ['/'] others)) : names = others := by
  have below : Text.join ['/'] names = Text.join ['/'] others := by
    rw [join, join, isAbsolute_join_names named, isAbsolute_join_names namedOthers] at same
    split at same
    · exact same
    · split at same
      · exact List.append_cancel_left same
      · exact List.append_cancel_left same
  rw [← segments_join_names nonempty named, below, segments_join_names nonemptyOthers namedOthers]

namespace Discovery.Found

variable {tree : FileTree} {root : Path} {exclude : Option Path} {here names others : Location} {settings : Settings} {path : Path}

theorem fileAt_inj (found : Found tree root exclude here names) (other : Found tree root exclude here others)
    (same : fileAt root names = fileAt root others) : names = others := by
  have relative : Text.join ['/'] names = Text.join ['/'] others := congrArg Input.relative same
  rw [← Path.segments_join_names found.nonempty found.named, relative,
    Path.segments_join_names other.nonempty other.named]

theorem extension_of_names {front : Location} {stem : Text} (found : Found tree root exclude here names) (named : stem.IsName)
    (spelled : names = front ++ [stem ++ '.' :: settings.format.extension]) :
    (fileAt root names).extension? = some settings.format.extension := by
  subst spelled
  have dotless : '.' ∉ settings.format.extension := by cases settings.format <;> decide
  rw [Input.extension?, fileAt, Path.extension?_join_names front (settings.format.extension_isName named),
    Path.splitName_eq_some.mpr ⟨rfl, named.ne_nil, dotless⟩]

theorem concat_document {front other : Location} {stem ending extension : Text}
    (same : front ++ [stem ++ '.' :: extension] = other ++ [ending ++ '.' :: extension]) : front = other ∧ stem = ending := by
  obtain ⟨rfl, last⟩ := List.append_inj' same rfl
  exact ⟨rfl, List.append_cancel_right (List.cons.inj last).1⟩

/-- Two files with one output collide, unless both are copied. -/
theorem collide (found : Found tree root exclude here names) (other : Found tree root exclude here others)
    (documented : settings.documents (fileAt root names) = true)
    (first : (Entry.of settings (fileAt root names)).output? = some path)
    (second : (Entry.of settings (fileAt root others)).output? = some path) :
    settings.Collide (fileAt root names) (fileAt root others) := by
  obtain ⟨extension, ends⟩ := Settings.extension_of_documents documented
  obtain ⟨front, stem, _, stemNamed, named, bare, destination⟩ := found.document settings ends
  rw [Entry.output?_of, if_pos documented, destination] at first
  rw [Entry.output?_of] at second
  split at second
  next both =>
    obtain ⟨extensionOther, endsOther⟩ := Settings.extension_of_documents both
    obtain ⟨frontOther, ending, _, _, namedOther, bareOther, destinationOther⟩ := other.document settings endsOther
    rw [destinationOther] at second
    have same := Path.join_names_inj (by simp) named (by simp) namedOther (Option.some.inj (first.trans second.symm))
    obtain ⟨rfl, rfl⟩ := concat_document same
    exact ⟨bare.trans bareOther.symm, documented, .inl both⟩
  next =>
    split at second
    next plain =>
      have same := Path.join_names_inj (by simp) named other.nonempty other.named (Option.some.inj (first.trans second.symm))
      have endsOther := other.extension_of_names stemNamed same.symm
      obtain ⟨frontOther, ending, spelled, _, _, bareOther, _⟩ := other.document settings endsOther
      obtain ⟨rfl, rfl⟩ := concat_document (same.trans spelled)
      exact ⟨bare.trans bareOther.symm, documented, .inr ⟨plain, endsOther⟩⟩
    next => cases second

theorem copy_inj (found : Found tree root exclude here names) (other : Found tree root exclude here others)
    (copied : ¬ settings.documents (fileAt root names) = true) (copiedOther : ¬ settings.documents (fileAt root others) = true)
    (first : (Entry.of settings (fileAt root names)).output? = some path)
    (second : (Entry.of settings (fileAt root others)).output? = some path) : names = others := by
  rw [Entry.output?_of, if_neg copied] at first
  rw [Entry.output?_of, if_neg copiedOther] at second
  split at first
  next plain =>
    rw [if_pos plain] at second
    exact Path.join_names_inj found.nonempty found.named other.nonempty other.named (Option.some.inj (first.trans second.symm))
  next => cases first

/-- Distinct outputs go to distinct places. -/
theorem place_inj {otherPath : Path} (found : Found tree root exclude here names) (other : Found tree root exclude here others)
    (first : (Entry.of settings (fileAt root names)).output? = some path)
    (second : (Entry.of settings (fileAt root others)).output? = some otherPath)
    (same : tree.place path = tree.place otherPath) : path = otherPath := by
  obtain ⟨below, nonempty, named, rfl⟩ := found.output first
  obtain ⟨belowOther, nonemptyOther, namedOther, rfl⟩ := other.output second
  rw [FileTree.place_join_names nonempty named, FileTree.place_join_names nonemptyOther namedOther] at same
  rw [List.append_cancel_left same]

/-- Files that collide have one output. -/
theorem output_of_collide (found : Found tree root exclude here names) (other : Found tree root exclude here others)
    (collide : settings.Collide (fileAt root names) (fileAt root others)) :
    ∃ path, (Entry.of settings (fileAt root names)).output? = some path ∧
      (Entry.of settings (fileAt root others)).output? = some path := by
  obtain ⟨extension, ends⟩ := Settings.extension_of_documents collide.documented
  obtain ⟨extensionOther, endsOther⟩ : ∃ extension, (fileAt root others).extension? = some extension := by
    rcases collide.other with both | ⟨_, endsOther⟩
    · exact Settings.extension_of_documents both
    · exact ⟨_, endsOther⟩
  obtain ⟨front, stem, _, stemNamed, named, bare, destination⟩ := found.document settings ends
  obtain ⟨frontOther, ending, spelled, endingNamed, namedOther, bareOther, destinationOther⟩ :=
    other.document settings endsOther
  have same : front ++ [stem] = frontOther ++ [ending] := by
    have stems {front : Location} {stem : Text} (stemNamed : stem.IsName)
        (named : ∀ name ∈ front ++ [stem ++ '.' :: settings.format.extension], name.IsName) :
        ∀ name ∈ front ++ [stem], name.IsName := by
      intro name member
      rcases List.mem_append.mp member with inside | last
      · exact named name (List.mem_append_left _ inside)
      · rwa [List.mem_singleton.mp last]
    have joined := bare.symm.trans (collide.same.trans bareOther)
    rw [← Path.segments_join_names (by simp) (stems stemNamed named), joined,
      Path.segments_join_names (by simp) (stems endingNamed namedOther)]
  obtain ⟨rfl, last⟩ := List.append_inj' same rfl
  obtain rfl := (List.cons.inj last).1
  refine ⟨_, by rw [Entry.output?_of, if_pos collide.documented], ?_⟩
  rw [Entry.output?_of, destination]
  split
  next => rw [destinationOther]
  next copied =>
    rcases collide.other with both | ⟨plain, formatted⟩
    · exact absurd both copied
    · rw [if_pos plain, Option.some.inj (formatted.symm.trans endsOther), ← spelled]
      rfl

end Discovery.Found

/-- The outputs in a report are those of its entries, in another order. -/
theorem Report.outputs_perm (entries : List Entry) :
    ((Report.ofEntries entries).generated ++ (Report.ofEntries entries).copied).Perm (entries.filterMap Entry.output?) := by
  induction entries with
  | nil => exact .refl _
  | cons entry entries ih =>
    cases entry with
    | generated path => exact ih.cons path
    | copied path => exact List.perm_middle.trans (ih.cons path)
    | skipped path => exact ih

namespace Generation

open Discovery

variable {settings : Settings} {tree : FileTree} {here : Location} {locations : List Location}

theorem nodup_outputs (once : locations.Nodup)
    (found : ∀ names ∈ locations, Found tree settings.input (some settings.output) here names) :
    ((locations.map (fileAt settings.input)).filterMap fun file => (Entry.of settings file).output?).Nodup ↔
      ∀ first ∈ locations.map (fileAt settings.input), ∀ second ∈ locations.map (fileAt settings.input),
        settings.Collide first second → first = second := by
  let outputs := fun file => (Entry.of settings file).output?
  have symmetric : Std.Symm fun first second => ∀ path ∈ outputs first, ∀ other ∈ outputs second, path ≠ other :=
    ⟨fun first second apart path one other two same => apart other two path one same.symm⟩
  have distinct : (locations.map (fileAt settings.input)).Nodup :=
    once.map_on fun names member others present => (found names member).fileAt_inj (found others present)
  rw [List.Nodup, List.pairwise_filterMap, ← distinct.pairwise_coe]
  constructor
  · intro apart first member second present collide
    by_contra differ
    obtain ⟨names, place, rfl⟩ := List.mem_map.mp member
    obtain ⟨others, spot, rfl⟩ := List.mem_map.mp present
    obtain ⟨path, one, two⟩ := (found names place).output_of_collide (found others spot) collide
    exact apart member present differ path one path two rfl
  · intro none first member second present differ path one other two same
    subst same
    obtain ⟨names, place, rfl⟩ := List.mem_map.mp member
    obtain ⟨others, spot, rfl⟩ := List.mem_map.mp present
    by_cases documented : settings.documents (fileAt settings.input names) = true
    · exact differ (none _ member _ present ((found names place).collide (found others spot) documented one two))
    by_cases documentedOther : settings.documents (fileAt settings.input others) = true
    · exact differ (none _ present _ member ((found others spot).collide (found names place) documentedOther two one)).symm
    · -- Two copies keep their names.
      refine differ (congrArg _ ((found names place).copy_inj (found others spot) documented documentedOther one two))

/-- What later files write does not touch what has been written, if outputs are distinct. -/
theorem read_kept (world : World) {after final : World} {front back : List Input} {entries rest : List Entry}
    (found : ∀ names ∈ locations, Found world.tree settings.input (some settings.output) here names)
    (listed : locations.map (fileAt settings.input) = front ++ back)
    (distinct : ((front ++ back).filterMap fun file => (Entry.of settings file).output?).Nodup)
    (early : processAll settings front world = (.ok entries, after)) (late : processAll settings back after = (.ok rest, final))
    {path : Path} (written : path ∈ (Report.ofEntries entries).generated ++ (Report.ofEntries entries).copied) :
    final.tree.read path = after.tree.read path := by
  obtain ⟨rfl, outputs⟩ := processAll_ok early
  have current : after.tree.current = world.tree.current := by
    have grows := (processAll_changesOnly settings front world).grows
    rw [early] at grows
    exact grows.current
  have changes := processAll_changesOnly settings back after
  rw [late] at changes
  obtain ⟨entry, member, output⟩ := Report.mem_outputs.mp written
  obtain ⟨file, input, rfl⟩ := List.mem_map.mp member
  obtain ⟨resolved, present⟩ := outputs file input path output
  obtain ⟨bytes, present⟩ := Option.isSome_iff_exists.mp present
  have kept : final.tree.bytes? (world.tree.place path) = after.tree.bytes? (world.tree.place path) := by
    refine changes.kept _ ?_
    rintro ⟨other, later, otherPath, otherOutput, same⟩
    -- Two files that write to one place have one output path, which distinct outputs exclude.
    have located (file : Input) (member : file ∈ front ++ back) : ∃ names ∈ locations, fileAt settings.input names = file :=
      List.mem_map.mp (listed ▸ member)
    obtain ⟨names, place, rfl⟩ := located file (List.mem_append_left _ input)
    obtain ⟨others, spot, rfl⟩ := located other (List.mem_append_right _ later)
    rw [FileTree.place_of_current current] at same
    obtain rfl := (found others spot).place_inj (found names place) otherOutput output same
    rw [List.filterMap_append, List.nodup_append] at distinct
    exact distinct.2.2 otherPath (List.mem_filterMap.mpr ⟨_, input, output⟩) otherPath
      (List.mem_filterMap.mpr ⟨_, later, otherOutput⟩) rfl
  rw [FileTree.read_eq_ok.mpr ⟨_, resolved, present⟩,
    FileTree.read_eq_ok.mpr ⟨_, changes.grows.resolve resolved, kept.trans present⟩]

/-- The outputs of a successful run are distinct exactly if no two input files collide. Then
nothing that was written for the first files is replaced before the end. -/
theorem outputs_distinct_iff {world after : World} {report : Report} (sound : world.tree.WellFormed)
    (done : run settings world = (.ok report, after)) :
    ∃ files, inputs settings world.tree = .ok files ∧
      ((report.generated ++ report.copied).Nodup ↔
        ∀ first ∈ files, ∀ second ∈ files, settings.Collide first second → first = second) ∧
      ((report.generated ++ report.copied).Nodup → ∀ front back entries reached, files = front ++ back →
        (processAll settings front).onTree world.tree = (.ok entries, reached) →
        ∀ path ∈ (Report.ofEntries entries).generated ++ (Report.ofEntries entries).copied,
          after.tree.read path = reached.read path) := by
  obtain ⟨files, entries, listed, processed, rfl⟩ := run_ok done
  obtain ⟨final, ran, tree⟩ := Job.onTree_eq processed
  obtain ⟨rfl, _⟩ := processAll_ok ran
  obtain ⟨here, locations, rfl, once, found⟩ := inputs_spec sound listed
  rw [(Report.outputs_perm _).nodup_iff, List.filterMap_map]
  refine ⟨_, listed, nodup_outputs once found, ?_⟩
  intro distinct front back entries reached split first path written
  obtain ⟨middle, early, rfl⟩ := Job.onTree_eq first
  rw [split] at ran distinct
  obtain ⟨_, rest, _, same, late, _⟩ := processAll_append ran
  cases same.symm.trans early
  rw [← tree]
  exact read_kept { tree := world.tree } found split distinct early late written

theorem outputs_distinct_of_source_and_page :
    let settings : Settings := { input := "src".toList, output := "out".toList }
    let tree : FileTree := { root := .directory [("src".toList, .directory [
      ("b.md".toList, .file "y".toUTF8), ("a.cs".toList, .file "/*x*/".toUTF8)])] }
    ∃ report after files, tree.WellFormed ∧ run settings { tree } = (.ok report, after) ∧
      inputs settings tree = .ok files ∧ (report.generated ++ report.copied).Nodup ∧
      (∀ first ∈ files, ∀ second ∈ files, settings.Collide first second → first = second) ∧
      ∀ front back entries reached, files = front ++ back → (processAll settings front).onTree tree = (.ok entries, reached) →
        ∀ path ∈ (Report.ofEntries entries).generated ++ (Report.ofEntries entries).copied,
          after.tree.read path = reached.read path := by
  intro settings tree
  let files : List Input := [⟨"src".toList, "a.cs".toList⟩, ⟨"src".toList, "b.md".toList⟩]
  let entries : List Entry := [.generated "out/a.md".toList, .copied "out/b.md".toList]
  have sound : tree.WellFormed := by decide +kernel
  have listed : inputs settings tree = .ok files := by
    apply ok_of_toOption
    simp only [inputs, find, Location.mergeSort_eq_insertionSort]
    decide +kernel
  have processed : ((processAll settings files).onTree tree).1.toOption = some entries := by decide +kernel
  have distinct : ((Report.ofEntries entries).generated ++ (Report.ofEntries entries).copied).Nodup := by decide
  obtain ⟨after, done, _⟩ := run_of_entries { tree } listed processed
  obtain ⟨others, found, iff, kept⟩ := outputs_distinct_iff sound done
  exact ⟨_, after, others, sound, done, found, distinct, iff.mp distinct, kept distinct⟩

/-- A source and a markdown file next to it have one output, and the copy is what stays. -/
theorem copy_replaces_document :
    let settings : Settings := { input := "src".toList, output := "out".toList }
    let tree : FileTree := { root := .directory [("src".toList, .directory [
      ("a.cs".toList, .file "x".toUTF8), ("a.md".toList, .file "y".toUTF8)])] }
    ∃ report after, tree.WellFormed ∧ run settings { tree } = (.ok report, after) ∧
      report = { generated := ["out/a.md".toList], copied := ["out/a.md".toList] } ∧
      ¬ (report.generated ++ report.copied).Nodup ∧ after.tree.bytes? ["out".toList, "a.md".toList] = some "y".toUTF8 := by
  intro settings tree
  let files : List Input := [⟨"src".toList, "a.cs".toList⟩, ⟨"src".toList, "a.md".toList⟩]
  let entries : List Entry := [.generated "out/a.md".toList, .copied "out/a.md".toList]
  have sound : tree.WellFormed := by decide +kernel
  have listed : inputs settings tree = .ok files := by
    apply ok_of_toOption
    simp only [inputs, find, Location.mergeSort_eq_insertionSort]
    decide +kernel
  have processed : ((processAll settings files).onTree tree).1.toOption = some entries := by decide +kernel
  obtain ⟨after, done, final⟩ := run_of_entries { tree } listed processed
  exact ⟨_, after, sound, done, rfl, by decide, by rw [final]; decide +kernel⟩

end Generation

end Literate
