import Literate.Proofs.InputSafety
import Literate.Proofs.LocationOrder
import Literate.Proofs.RepeatedSteps
import Literate.Proofs.WellFormedRuns

/-! Running over again what has just been run. The second run finds the same files: what the first
one has written lies below the output directory, and that directory is either left out of the walk
or not met at all, whether or not it was there before. It then puts every output back. Only the
empty output path can make outputs into input files. -/

namespace Literate

namespace Generation

open Discovery

variable {settings : Settings} {before after : FileTree} {files : List Input}

/-- Files below the output directory make no difference to the search for input files. -/
theorem inputs_again (sound : before.WellFormed) (soundAfter : after.WellFormed) (apart : settings.OutputApart before)
    (apartAfter : settings.OutputApart after) (grown : FileTree.Grows before after)
    (kept : ∀ location, (∀ below, below ≠ [] → before.place settings.output ++ below ≠ location) →
      after.bytes? location = before.bytes? location)
    (listed : inputs settings before = .ok files) : inputs settings after = .ok files := by
  obtain ⟨found, discovered, rfl⟩ := inputs_eq_ok.mp listed
  refine inputs_eq_ok.mpr ⟨found, ?_, rfl⟩
  obtain ⟨globs, here, entries, compiled, led, held, rfl⟩ := find_eq_ok.mp discovered
  have ledAfter := grown.resolve led
  obtain ⟨entriesAfter, heldAfter⟩ : ∃ entries, after.get? here = some (.directory entries) := by
    apply FileTree.get?_of_directory
    apply grown.directories
    rw [FileTree.content?_eq, held]
    rfl
  have same : (walk settings.recursive (before.resolve settings.output).toOption here entries).Perm
      (walk settings.recursive (after.resolve settings.output).toOption here entriesAfter) := by
    rw [List.perm_ext_iff_of_nodup (nodup_walk (Node.WellFormed.get? sound held))
      (nodup_walk (Node.WellFormed.get? soundAfter heldAfter))]
    intro names
    rw [mem_walk_iff sound apart led held, mem_walk_iff soundAfter apartAfter ledAfter heldAfter,
      FileTree.place_of_current grown.current]
    exact and_congr_left fun reached => by rw [kept _ reached.2]
  refine find_eq_ok.mpr ⟨globs, here, entriesAfter, compiled, ledAfter, heldAfter, ?_⟩
  rw [Option.bind_some, Option.bind_some, Location.mergeSort_eq_of_perm same]

/-- If the output directory is neither the input directory nor above it, and its path goes up only
before it goes down, then a second run succeeds with the same report and leaves everything as it
is. The empty path names no directory that could be left out of the search, and its files go into
the current directory; so this must not be found on the way down from the input directory. -/
theorem rerun_changes_nothing {world after : World} {report : Report} (sound : world.tree.WellFormed)
    (standing : world.tree.content? world.tree.current = some .directory)
    (apart : ¬ world.tree.place settings.output <+: world.tree.place settings.input)
    (climbs : settings.output.ClimbsFirst)
    (named : settings.output = [] → settings.recursive = true → ¬ world.tree.place settings.input <+: world.tree.current)
    (done : run settings world = (.ok report, after)) :
    ∃ again, run settings after = (.ok report, again) ∧
      ∀ location, again.tree.content? location = after.tree.content? location := by
  have soundAfter := run_keeps_wellFormed settings world sound
  have outputApart := Settings.OutputApart.of_climbsFirst standing climbs apart named
  rw [done] at soundAfter
  obtain ⟨files, entries, listed, processed, rfl⟩ := run_ok done
  obtain ⟨first, ran, tree⟩ := Job.onTree_eq processed
  have changes := processAll_changesOnly settings files { tree := world.tree }
  rw [ran, tree] at changes
  have grown : FileTree.Grows world.tree after.tree := changes.grows
  have outputApartAfter : settings.OutputApart after.tree := by
    apply Settings.OutputApart.of_climbsFirst
    · rw [grown.current]
      exact grown.directories _ standing
    · exact climbs
    · rwa [FileTree.place_of_current grown.current, FileTree.place_of_current grown.current]
    · rwa [FileTree.place_of_current grown.current, grown.current]
  have listedAgain : inputs settings after.tree = .ok files := by
    apply inputs_again sound soundAfter outputApart outputApartAfter grown ?_ listed
    intro location outside
    apply changes.kept
    intro output
    obtain ⟨below, nonempty, same⟩ := below_of_isOutput sound listed output
    exact outside below nonempty same
  have sources : ∀ file ∈ files, ∃ here bytes, world.tree.Holds file.path here bytes ∧ after.tree.Holds file.path here bytes ∧
      ¬ IsOutput settings world.tree files here := by
    intro file member
    obtain ⟨found, discovered, same⟩ := inputs_eq_ok.mp listed
    rw [same] at member
    obtain ⟨here, bytes, held, outside⟩ := holds_of_find sound outputApart discovered (List.mem_filter.mp member).1
    exact ⟨here, bytes, held, held.of_changesOnly changes (outside files listed), outside files listed⟩
  obtain ⟨final, repeated, back⟩ := @processAll_again settings { tree := world.tree } first { tree := after.tree } files entries
    ran (tree ▸ .refl _) sources
  obtain ⟨again, succeeded, same⟩ := run_of_listed after listedAgain
  rw [Job.onTree, repeated] at succeeded same
  refine ⟨again, succeeded, ?_⟩
  intro location
  rw [same]
  by_cases output : IsOutput settings world.tree files location
  · obtain ⟨bytes, made, restored⟩ := back.restored location output
    rw [tree, FileTree.bytes?_eq_some] at made
    rw [made, FileTree.bytes?_eq_some.mp restored]
  · exact back.kept location output

/-- The output directory is below the input directory and not there yet, and two files have one output. -/
theorem rerun_inside_input_changes_nothing :
    let settings : Settings := { input := "src".toList, output := "src/docs".toList, recursive := true }
    let tree : FileTree := { root := .directory [("src".toList, .directory [
      ("a.cs".toList, .file "x".toUTF8), ("a.md".toList, .file "y".toUTF8),
      ("b".toList, .directory [("c.txt".toList, .file "z".toUTF8)])])] }
    ∃ report after again, tree.WellFormed ∧ tree.content? tree.current = some .directory ∧
      ¬ tree.place settings.output <+: tree.place settings.input ∧ settings.output.ClimbsFirst ∧ settings.output ≠ [] ∧
      run settings { tree } = (.ok report, after) ∧
      report = { generated := ["src/docs/a.md".toList], copied := ["src/docs/a.md".toList, "src/docs/b/c.txt".toList] } ∧
      run settings after = (.ok report, again) ∧ ∀ location, again.tree.content? location = after.tree.content? location := by
  intro settings tree
  let files : List Input := ["a.cs", "a.md", "b/c.txt"].map fun name => ⟨"src".toList, name.toList⟩
  let entries : List Entry := [.generated "src/docs/a.md".toList, .copied "src/docs/a.md".toList, .copied "src/docs/b/c.txt".toList]
  have sound : tree.WellFormed := by decide +kernel
  have apart : ¬ tree.place settings.output <+: tree.place settings.input := by decide
  have climbs : settings.output.ClimbsFirst := ⟨[], _, rfl, List.forall_mem_nil _, by decide⟩
  have listed : inputs settings tree = .ok files := by
    apply ok_of_toOption
    simp only [inputs, find, Location.mergeSort_eq_insertionSort]
    decide +kernel
  have processed : ((processAll settings files).onTree tree).1.toOption = some entries := by decide +kernel
  obtain ⟨after, done, _⟩ := run_of_entries { tree } listed processed
  have named : settings.output ≠ [] := by decide
  obtain ⟨again, repeated, same⟩ := rerun_changes_nothing sound rfl apart climbs (fun empty => absurd empty named) done
  exact ⟨_, after, again, sound, rfl, apart, climbs, named, done, rfl, repeated, same⟩

/-- The empty output path names no directory that could be left out, and the current directory is below
the input directory: the second run finds what the first one has made there. -/
theorem rerun_copies_own_document :
    let settings : Settings := { input := "..".toList, output := [], recursive := true }
    let tree : FileTree := { current := ["work".toList, "sub".toList], root := .directory [("work".toList, .directory [
      ("a.cs".toList, .file "x".toUTF8), ("sub".toList, .directory [])])] }
    let copy : Location := ["work".toList, "sub".toList, "sub".toList, "a.md".toList]
    ∃ after again, tree.WellFormed ∧ tree.content? tree.current = some .directory ∧
      ¬ tree.place settings.output <+: tree.place settings.input ∧ settings.output.ClimbsFirst ∧
      run settings { tree } = (.ok { generated := ["a.md".toList] }, after) ∧
      run settings after = (.ok { generated := ["a.md".toList], copied := ["sub/a.md".toList] }, again) ∧
      after.tree.content? copy = none ∧ (again.tree.content? copy).isSome := by
  intro settings tree copy
  let source : Input := ⟨"..".toList, "a.cs".toList⟩
  let document : Input := ⟨"..".toList, "sub/a.md".toList⟩
  have sound : tree.WellFormed := by decide +kernel
  have climbs : settings.output.ClimbsFirst := ⟨[], _, rfl, List.forall_mem_nil _, by decide⟩
  have listed : inputs settings tree = .ok [source] := by
    apply ok_of_toOption
    simp only [inputs, find, Location.mergeSort_eq_insertionSort]
    decide +kernel
  have processed : ((processAll settings [source]).onTree tree).1.toOption = some [.generated "a.md".toList] := by
    decide +kernel
  obtain ⟨after, done, reached⟩ := run_of_entries { tree } listed processed
  have listedAgain : inputs settings after.tree = .ok [source, document] := by
    apply ok_of_toOption
    rw [reached]
    simp only [inputs, find, Location.mergeSort_eq_insertionSort]
    decide +kernel
  have processedAgain : ((processAll settings [source, document]).onTree after.tree).1.toOption =
      some [.generated "a.md".toList, .copied "sub/a.md".toList] := by
    rw [reached]
    decide +kernel
  obtain ⟨again, repeated, final⟩ := run_of_entries after listedAgain processedAgain
  refine ⟨after, again, sound, rfl, by decide, climbs, done, repeated, ?_, ?_⟩
  · rw [reached]
    decide +kernel
  · rw [final, reached]
    decide +kernel

end Generation

end Literate
