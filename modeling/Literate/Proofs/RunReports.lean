import Literate.Proofs.DiscoveryWalk
import Literate.Proofs.GenerationSteps
import Literate.Proofs.LocationOrder

/-! The report of a run. It has one entry for each input file, in the order in which the files
are processed, and its output paths are the only files that the run has changed. They lie
below the output directory, and after the run each of them is a file. -/

namespace Literate

theorem Report.mem_outputs {entries : List Entry} {path : Path} :
    path ∈ (Report.ofEntries entries).generated ++ (Report.ofEntries entries).copied ↔
      ∃ entry ∈ entries, entry.output? = some path := by
  rw [List.mem_append, ofEntries, List.mem_filterMap, List.mem_filterMap]
  constructor
  · rintro (⟨entry, member, output⟩ | ⟨entry, member, output⟩)
    all_goals
      refine ⟨entry, member, ?_⟩
      cases entry <;> simp_all [Entry.output?]
  · rintro ⟨entry, member, output⟩
    cases entry with
    | generated other => exact .inl ⟨_, member, output⟩
    | copied other => exact .inr ⟨_, member, output⟩
    | skipped other => cases output

/-- The file is woven or rendered, so that what is made of it has the extension of the format. -/
def Settings.documents (settings : Settings) (file : Input) : Bool :=
  settings.isSource file.extension? || settings.format = .styled && settings.isMarkdown file.extension?

theorem Settings.extension_of_documents {settings : Settings} {file : Input} (documented : settings.documents file = true) :
    ∃ extension, file.extension? = some extension := by
  cases found : file.extension? with
  | some extension => exact ⟨extension, rfl⟩
  | none => simp [documents, found, isSource, isMarkdown, matchesExtension] at documented

/-- The output of a file has the extension of the format, or it is a copy with the same name. -/
theorem Entry.output?_of (settings : Settings) (file : Input) :
    (Entry.of settings file).output? =
      if settings.documents file then some (file.destination settings.output (some settings.format.extension))
      else if settings.format = .plain then some (file.destination settings.output none) else none := by
  rw [Entry.of, Settings.documents]
  by_cases source : settings.isSource file.extension? = true
  · simp [source, output?]
  · cases settings.format with
    | plain => simp [source, output?]
    | styled =>
      by_cases markdown : settings.isMarkdown file.extension? = true
      · simp [source, markdown, output?]
      · simp [source, markdown, output?]

theorem Format.extension_isName (format : Format) {stem : Text} (named : stem.IsName) :
    (stem ++ '.' :: format.extension).IsName := by
  have plain : '/' ∉ format.extension := by cases format <;> decide
  have long : 2 < (stem ++ '.' :: format.extension).length := by
    have dots : 2 ≤ format.extension.length := by cases format <;> decide
    simp only [List.length_append, List.length_cons]
    omega
  refine ⟨by simp, ?_, ?_, by simp [named.whole, plain]⟩
  · intro dot
    simp [dot] at long
  · intro up
    simp [up] at long

namespace Discovery.Found

variable {tree : FileTree} {exclude : Option Path} {here names : Location} {root : Path} {settings : Settings}

/-- With the extension of the format a file has the same name up to its extension. -/
theorem document (found : Found tree root exclude here names) (settings : Settings) {extension : Text}
    (ends : (fileAt root names).extension? = some extension) :
    ∃ (front : Location) (stem : Text), names = front ++ [stem ++ '.' :: extension] ∧ stem.IsName ∧
      (∀ name ∈ front ++ [stem ++ '.' :: settings.format.extension], name.IsName) ∧
      (fileAt root names).relative.withExtension [] = Text.join ['/'] (front ++ [stem]) ∧
      (fileAt root names).destination settings.output (some settings.format.extension) =
        settings.output.join (Text.join ['/'] (front ++ [stem ++ '.' :: settings.format.extension])) := by
  obtain ⟨front, stem, rfl, named, renamed⟩ := found.extension ends
  have nonempty : settings.format.extension.isEmpty = false := by cases settings.format <;> rfl
  refine ⟨front, stem, rfl, named, ?_, ?_, ?_⟩
  · intro name member
    rcases List.mem_append.mp member with inside | last
    · exact found.named name (List.mem_append_left _ inside)
    · rw [List.mem_singleton.mp last]
      exact settings.format.extension_isName named
  · rw [renamed]
    simp
  · rw [Input.destination, renamed, nonempty]
    rfl

/-- What is made of a file goes below the output directory. -/
theorem output {path : Path} (found : Found tree root exclude here names)
    (written : (Entry.of settings (fileAt root names)).output? = some path) :
    ∃ below : Location, below ≠ [] ∧ (∀ name ∈ below, name.IsName) ∧ path = settings.output.join (Text.join ['/'] below) := by
  rw [Entry.output?_of] at written
  split at written
  next documented =>
    obtain ⟨extension, ends⟩ := Settings.extension_of_documents documented
    obtain ⟨front, stem, rfl, _, named, _, destination⟩ := found.document settings ends
    cases written
    exact ⟨_, by simp, named, destination⟩
  next =>
    split at written
    next =>
      cases written
      exact ⟨names, found.nonempty, found.named, rfl⟩
    next => cases written

end Discovery.Found

namespace Generation

variable {settings : Settings} {world after : World} {report : Report}

theorem inputs_eq_ok {tree : FileTree} {files : List Input} : inputs settings tree = .ok files ↔
    ∃ found, Discovery.find tree settings.input settings.filters settings.recursive (some settings.output) = .ok found ∧
      files = found.filter (·.relative ≠ Settings.fileName) := by
  rw [inputs]
  cases Discovery.find tree settings.input settings.filters settings.recursive (some settings.output) with
  | error failure => simp [Except.map]
  | ok found => simp [Except.map, eq_comm]

/-- The input files of a run are files below the input directory, each of them once. -/
theorem inputs_spec {tree : FileTree} {files : List Input} (sound : tree.WellFormed) (listed : inputs settings tree = .ok files) :
    ∃ (here : Location) (locations : List Location), files = locations.map (Discovery.fileAt settings.input) ∧ locations.Nodup ∧
      ∀ names ∈ locations, Discovery.Found tree settings.input (some settings.output) here names := by
  obtain ⟨found, discovered, rfl⟩ := inputs_eq_ok.mp listed
  obtain ⟨here, locations, rfl, once, all⟩ := Discovery.find_spec sound discovered
  refine ⟨here, _, List.filter_map, once.filter _, ?_⟩
  intro names member
  exact all names (List.mem_filter.mp member).1

/-- Every input file has its entry in the report of a successful run, in processing order. No
file has changed but the outputs, which are files below the output directory. -/
theorem report_accounts_for_files (sound : world.tree.WellFormed) (done : run settings world = (.ok report, after)) :
    ∃ files, inputs settings world.tree = .ok files ∧ report = .ofEntries (files.map (.of settings)) ∧
      (∀ location, (∀ path ∈ report.generated ++ report.copied, after.tree.resolve path ≠ .ok location) →
        after.tree.bytes? location = world.tree.bytes? location) ∧
      ∀ path ∈ report.generated ++ report.copied, (∃ bytes, after.tree.read path = .ok bytes) ∧
        ∃ below, below ≠ [] ∧ after.tree.resolve path = .ok (world.tree.place settings.output ++ below) := by
  obtain ⟨files, entries, listed, processed, rfl⟩ := run_ok done
  obtain ⟨final, ran, tree⟩ := Job.onTree_eq processed
  obtain ⟨rfl, outputs⟩ := processAll_ok ran
  have changes := processAll_changesOnly settings files { tree := world.tree }
  rw [ran] at changes
  rw [tree] at outputs changes
  obtain ⟨here, locations, rfl, _, found⟩ := inputs_spec sound listed
  refine ⟨_, listed, rfl, ?_, ?_⟩
  · intro location unnamed
    refine changes.kept location ?_
    rintro ⟨file, member, path, output, rfl⟩
    refine unnamed path (Report.mem_outputs.mpr ⟨_, List.mem_map_of_mem member, output⟩) ?_
    exact (outputs file member path output).1
  · intro path reported
    obtain ⟨entry, member, output⟩ := Report.mem_outputs.mp reported
    obtain ⟨file, input, rfl⟩ := List.mem_map.mp member
    obtain ⟨names, place, rfl⟩ := List.mem_map.mp input
    obtain ⟨resolved, present⟩ := outputs _ input path output
    obtain ⟨bytes, present⟩ := Option.isSome_iff_exists.mp present
    obtain ⟨below, nonempty, named, rfl⟩ := (found names place).output output
    rw [FileTree.place_join_names nonempty named] at resolved present
    exact ⟨⟨bytes, FileTree.read_eq_ok.mpr ⟨_, resolved, present⟩⟩, below, nonempty, resolved⟩

theorem report_accounts_in_both_formats :
    let tree : FileTree := { root := .directory [("src".toList, .directory [
      ("weave.toml".toList, .file "".toUTF8), ("b.txt".toList, .file "y".toUTF8), ("a.CS".toList, .file "/*x*/".toUTF8),
      ("c.md".toList, .file "# z".toUTF8)])] }
    let plain : Settings := { input := "src".toList, output := "out".toList }
    let styled : Settings := { plain with format := .styled, sourceExtension := "..cs".toList, markdownExtension := ".MD".toList }
    let Accounts (settings : Settings) (report : Report) : Prop := ∃ after, run settings { tree } = (.ok report, after) ∧
      (∀ location, (∀ path ∈ report.generated ++ report.copied, after.tree.resolve path ≠ .ok location) →
        after.tree.bytes? location = tree.bytes? location) ∧
      ∀ path ∈ report.generated ++ report.copied, (∃ bytes, after.tree.read path = .ok bytes) ∧
        ∃ below, below ≠ [] ∧ after.tree.resolve path = .ok (tree.place settings.output ++ below)
    tree.WellFormed ∧
      Accounts plain { generated := ["out/a.md".toList], copied := ["out/b.txt".toList, "out/c.md".toList] } ∧
      Accounts styled { generated := ["out/a.html".toList, "out/c.html".toList], skipped := ["src/b.txt".toList] } := by
  intro tree plain styled Accounts
  let files : List Input := ["a.CS", "b.txt", "c.md"].map fun name => ⟨"src".toList, name.toList⟩
  have sound : tree.WellFormed := by decide +kernel
  have accounts {settings : Settings} {entries : List Entry} (listed : inputs settings tree = .ok files)
      (processed : ((processAll settings files).onTree tree).1.toOption = some entries) :
      Accounts settings (.ofEntries entries) := by
    obtain ⟨after, done, _⟩ := run_of_entries { tree } listed processed
    obtain ⟨_, _, _, unchanged, outputs⟩ := report_accounts_for_files sound done
    exact ⟨after, done, unchanged, outputs⟩
  have listed : inputs plain tree = .ok files := by
    apply ok_of_toOption
    simp only [inputs, Discovery.find, Location.mergeSort_eq_insertionSort]
    decide +kernel
  have listedStyled : inputs styled tree = .ok files := by
    apply ok_of_toOption
    simp only [inputs, Discovery.find, Location.mergeSort_eq_insertionSort]
    decide +kernel
  have woven : ((processAll plain files).onTree tree).1.toOption =
      some [.generated "out/a.md".toList, .copied "out/b.txt".toList, .copied "out/c.md".toList] := by decide +kernel
  have rendered : ((processAll styled files).onTree tree).1.toOption =
      some [.generated "out/a.html".toList, .skipped "src/b.txt".toList, .generated "out/c.html".toList] := by decide +kernel
  exact ⟨sound, accounts listed woven, accounts listedStyled rendered⟩

end Generation

end Literate
