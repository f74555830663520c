import Literate.Proofs.RunReports

/-! When a run leaves its input files alone. The output directory is left out of the search for
input files, but only where the walk comes to it from above: files that are written into the
input directory itself, or into one above it, can take the place of input files. A file that
is copied onto itself is lost. -/

namespace Literate

/-- The path goes up only before it goes down: no `..` follows the name of a directory. -/
def Path.ClimbsFirst (path : Path) : Prop :=
  ∃ front back, path.segments = front ++ back ∧ (∀ segment ∈ front, segment ∈ [[], ['.'], ['.', '.']]) ∧ ['.', '.'] ∉ back

/-- The output directory is neither the input directory nor above it; and if the search comes to it,
its path leads to it, so that it is left out. -/
structure Settings.OutputApart (settings : Settings) (tree : FileTree) : Prop where
  below : ¬ tree.place settings.output <+: tree.place settings.input
  reached : settings.recursive = true → tree.place settings.input <+: tree.place settings.output →
    tree.content? (tree.place settings.output) = some .directory →
    tree.resolve settings.output = .ok (tree.place settings.output)

theorem Location.prefix_enter_all {segments : List Text} (forward : ['.', '.'] ∉ segments) (here : Location) :
    here <+: segments.foldl Location.enter here := by
  induction segments generalizing here with
  | nil => exact List.prefix_rfl
  | cons segment segments ih =>
    rw [List.mem_cons, not_or] at forward
    refine List.IsPrefix.trans ?_ (ih forward.2 _)
    rw [Location.enter, if_neg (c := segment = ['.', '.']) (Ne.symm forward.1)]
    split
    · exact List.prefix_rfl
    · exact List.prefix_append here [segment]

/-- What is below two directories, of which the first is not at or above the second, is met from the
second one by going into the first. -/
theorem Location.entered {place here names below : Location} (apart : ¬ place <+: here) (same : place ++ below = here ++ names) :
    ∃ rest, rest ≠ [] ∧ place = here ++ rest ∧ names = rest ++ below := by
  rcases List.append_eq_append_iff.mp same with ⟨rest, above, _⟩ | ⟨rest, inside, split⟩
  · exact absurd ⟨rest, above.symm⟩ apart
  · refine ⟨rest, ?_, inside, split⟩
    rintro rfl
    rw [List.append_nil] at inside
    exact apart (inside ▸ List.prefix_rfl)

namespace FileTree

variable {tree : FileTree} {here : Location}

/-- From a directory one can always go up. -/
theorem follow_up {segments : List Text} (up : ∀ segment ∈ segments, segment ∈ [[], ['.'], ['.', '.']])
    (standing : tree.content? here = some .directory) :
    tree.follow here segments = .ok (segments.foldl Location.enter here) := by
  induction segments generalizing here with
  | nil => rfl
  | cons segment segments ih =>
    rw [List.forall_mem_cons] at up
    have next : tree.content? (here.enter segment) = some .directory := by
      simp only [List.mem_cons, List.not_mem_nil, or_false] at up
      rcases up.1 with rfl | rfl | rfl
      · exact standing
      · exact standing
      · exact directory_dropLast standing
    exact follow_cons_eq_ok.mpr ⟨standing, by rw [next]; rfl, ih up.2 next⟩

/-- Without going back, segments lead to what is at the place they name. -/
theorem follow_forward {segments : List Text} (forward : ['.', '.'] ∉ segments)
    (present : tree.content? (segments.foldl Location.enter here) = some .directory) :
    tree.follow here segments = .ok (segments.foldl Location.enter here) := by
  induction segments generalizing here with
  | nil => rfl
  | cons segment segments ih =>
    have above {front : Location} (leads : front <+: (segment :: segments).foldl Location.enter here) :
        tree.content? front = some .directory := by
      obtain ⟨back, whole⟩ := leads
      by_cases last : back = []
      · rwa [← whole, last, List.append_nil] at present
      · exact content?_above last (by rw [whole, present]; rfl)
    have later : ['.', '.'] ∉ segments := fun member => forward (List.mem_cons_of_mem segment member)
    refine follow_cons_eq_ok.mpr ⟨above (Location.prefix_enter_all forward here), ?_, ih later present⟩
    rw [above (Location.prefix_enter_all later (here.enter segment))]
    rfl

end FileTree

/-- A path that goes up only before it goes down leads to the directory at its place. The empty path
leads nowhere; so the place of its files must not be met on the way down from the input directory. -/
theorem Settings.OutputApart.of_climbsFirst {settings : Settings} {tree : FileTree}
    (standing : tree.content? tree.current = some .directory) (climbs : settings.output.ClimbsFirst)
    (below : ¬ tree.place settings.output <+: tree.place settings.input)
    (named : settings.output = [] → settings.recursive = true → ¬ tree.place settings.input <+: tree.current) :
    settings.OutputApart tree where
  below := below
  reached deep inside present := by
    have nonempty : settings.output ≠ [] := by
      intro empty
      refine named empty deep ?_
      rw [empty] at inside
      exact inside
    obtain ⟨front, back, split, up, forward⟩ := climbs
    have origin : tree.content? (tree.origin settings.output) = some .directory := by
      rw [FileTree.origin]
      split
      · by_cases root : tree.place settings.output = []
        · rwa [root] at present
        · exact FileTree.content?_above root (by rw [List.nil_append, present]; rfl)
      · exact standing
    rw [FileTree.place, split, List.foldl_append] at present ⊢
    rw [FileTree.resolve, if_neg nonempty, split]
    exact FileTree.follow_append.mpr ⟨_, FileTree.follow_up up origin, FileTree.follow_forward forward present⟩

namespace Discovery

variable {settings : Settings} {tree : FileTree} {root : Path} {here names : Location} {entries : List (Text × Node)}

/-- The walk comes to a file just if it is not hidden, not too deep and not below the output directory. -/
theorem reaches_iff (apart : settings.OutputApart tree) (led : tree.resolve settings.input = .ok here)
    (present : (tree.bytes? (here ++ names)).isSome) :
    Reaches settings.recursive (tree.resolve settings.output).toOption here names ↔
      ((∀ name ∈ names, isHidden name = false) ∧ (settings.recursive = true ∨ names.length = 1)) ∧
        ∀ below, below ≠ [] → tree.place settings.output ++ below ≠ here ++ names := by
  obtain rfl := FileTree.resolve_place led
  constructor
  · intro reached
    refine ⟨⟨reached.visible, reached.near⟩, ?_⟩
    intro below nonempty same
    obtain ⟨rest, deeper, inside, split⟩ := Location.entered apart.below same
    have deep : settings.recursive = true := by
      apply reached.near.resolve_right
      have first := List.length_pos_iff.mpr deeper
      have second := List.length_pos_iff.mpr nonempty
      rw [split, List.length_append]
      omega
    have directory : tree.content? (tree.place settings.output) = some .directory := by
      refine FileTree.content?_above nonempty ?_
      rw [same]
      exact FileTree.isSome_content?.mpr (.inr present)
    have resolved := apart.reached deep ⟨rest, inside.symm⟩ directory
    refine reached.outside rest below split deeper nonempty ?_
    rw [resolved, ← inside]
    rfl
  · intro ⟨⟨visible, near⟩, outside⟩
    refine ⟨visible, near, ?_⟩
    intro front back split _ nonempty excluded
    cases resolved : tree.resolve settings.output with
    | error error =>
      rw [resolved] at excluded
      cases excluded
    | ok location =>
      rw [resolved] at excluded
      obtain rfl := Option.some.inj excluded
      refine outside back nonempty ?_
      rw [← FileTree.resolve_place resolved, split, List.append_assoc]

/-- The files on the walk are the files of the tree that are in reach and not below the output directory. -/
theorem mem_walk_iff (sound : tree.WellFormed) (apart : settings.OutputApart tree) (led : tree.resolve settings.input = .ok here)
    (held : tree.get? here = some (.directory entries)) :
    names ∈ walk settings.recursive (tree.resolve settings.output).toOption here entries ↔
      (tree.bytes? (here ++ names)).isSome ∧
        ((∀ name ∈ names, isHidden name = false) ∧ (settings.recursive = true ∨ names.length = 1)) ∧
        ∀ below, below ≠ [] → tree.place settings.output ++ below ≠ here ++ names := by
  rw [mem_walk (Node.WellFormed.get? sound held), hasFile_iff held]
  exact and_congr_right (reaches_iff apart led)

/-- Every file that the search gives has been met on the walk. -/
theorem mem_find {filters : List Text} {recursive : Bool} {exclude : Option Path} {files : List Input} {file : Input}
    (discovered : find tree root filters recursive exclude = .ok files) (member : file ∈ files) :
    ∃ here entries names, tree.resolve root = .ok here ∧ tree.get? here = some (.directory entries) ∧
      names ∈ walk recursive (exclude.bind fun path => (tree.resolve path).toOption) here entries ∧
      file = fileAt root names := by
  obtain ⟨globs, here, entries, _, led, held, rfl⟩ := find_eq_ok.mp discovered
  have ordered := (List.mem_filter.mp (mem_indexFirst.mp member)).1
  obtain ⟨names, walked, rfl⟩ := List.mem_map.mp ordered
  exact ⟨here, entries, names, led, held, List.mem_mergeSort.mp walked, rfl⟩

end Discovery

namespace Generation

open Discovery

variable {settings : Settings} {tree : FileTree} {files : List Input} {file : Input}

/-- Whether or not it fails, a run changes no files but its outputs. -/
theorem run_changesOnly (settings : Settings) (world : World) :
    FileTree.ChangesOnly (fun location => ∃ files, inputs settings world.tree = .ok files ∧
      IsOutput settings world.tree files location) world.tree (run settings world).2.tree := by
  rcases ran : run settings world with ⟨result, after⟩
  rcases run_cases ran with ⟨_, _, _, kept⟩ | ⟨files, outcome, listed, _, processed⟩
  · rw [kept]
    exact .refl _
  · obtain ⟨final, done, tree⟩ := Job.onTree_eq processed
    have changes := processAll_changesOnly settings files { tree := world.tree }
    rw [done, tree] at changes
    exact changes.mono fun location output => ⟨files, listed, output⟩

/-- Outputs are below the output directory. -/
theorem below_of_isOutput {location : Location} (sound : tree.WellFormed) (listed : inputs settings tree = .ok files)
    (output : IsOutput settings tree files location) : ∃ below, below ≠ [] ∧ tree.place settings.output ++ below = location := by
  obtain ⟨file, member, path, output, rfl⟩ := output
  obtain ⟨_, _, rfl, _, found⟩ := inputs_spec sound listed
  obtain ⟨names, place, rfl⟩ := List.mem_map.mp member
  obtain ⟨below, nonempty, named, rfl⟩ := (found names place).output output
  exact ⟨below, nonempty, (FileTree.place_join_names nonempty named).symm⟩

/-- What the search gives is a file, and no output goes there, if the output directory is apart. -/
theorem holds_of_find (sound : tree.WellFormed) (apart : settings.OutputApart tree)
    (discovered : find tree settings.input settings.filters settings.recursive (some settings.output) = .ok files)
    (member : file ∈ files) :
    ∃ here bytes, tree.Holds file.path here bytes ∧
      ∀ files, inputs settings tree = .ok files → ¬ IsOutput settings tree files here := by
  obtain ⟨here, entries, names, led, held, walked, rfl⟩ := mem_find discovered member
  obtain ⟨present, _, outside⟩ := (mem_walk_iff sound apart led held).mp walked
  obtain ⟨bytes, present⟩ := Option.isSome_iff_exists.mp present
  have found : Found tree settings.input (some settings.output) here names := found_of_mem_walk sound led held walked
  refine ⟨here ++ names, bytes, ⟨found.resolve, present⟩, ?_⟩
  intro files listed output
  obtain ⟨below, nonempty, same⟩ := below_of_isOutput sound listed output
  exact outside below nonempty same

/-- Whether it succeeds or fails, a run leaves every file that discovery selects as it is, if
the output directory is apart from the input directory. -/
theorem inputs_kept_when_apart (world : World) {files : List Input} {file : Input} (sound : world.tree.WellFormed)
    (apart : settings.OutputApart world.tree)
    (discovered : find world.tree settings.input settings.filters settings.recursive (some settings.output) = .ok files)
    (member : file ∈ files) :
    ∃ bytes, world.tree.read file.path = .ok bytes ∧ (run settings world).2.tree.read file.path = .ok bytes := by
  obtain ⟨here, bytes, held, outside⟩ := holds_of_find sound apart discovered member
  have heldAfter : (run settings world).2.tree.Holds file.path here bytes :=
    held.of_changesOnly (run_changesOnly settings world) fun ⟨files, listed, output⟩ => outside files listed output
  exact ⟨bytes, held.read, heldAfter.read⟩

theorem inputs_kept_around_output :
    let settings : Settings := { input := "src".toList, output := "src/docs".toList, recursive := true }
    let tree : FileTree := { root := .directory [("src".toList, .directory [
      ("a.md".toList, .file "x".toUTF8), ("docs".toList, .directory [("a.md".toList, .file "old".toUTF8)])])] }
    let file : Input := ⟨"src".toList, "a.md".toList⟩
    tree.WellFormed ∧ settings.OutputApart tree ∧
      find tree settings.input settings.filters settings.recursive (some settings.output) = .ok [file] ∧
      ∃ bytes, tree.read file.path = .ok bytes ∧ (run settings { tree }).2.tree.read file.path = .ok bytes := by
  intro settings tree file
  have sound : tree.WellFormed := by decide +kernel
  have climbs : settings.output.ClimbsFirst := ⟨[], _, rfl, List.forall_mem_nil _, by decide⟩
  have named : settings.output ≠ [] := by decide
  have apart : settings.OutputApart tree := .of_climbsFirst rfl climbs (by decide) fun empty => absurd empty named
  have discovered : find tree settings.input settings.filters settings.recursive (some settings.output) = .ok [file] := by
    apply ok_of_toOption
    simp only [find, Location.mergeSort_eq_insertionSort]
    decide +kernel
  exact ⟨sound, apart, discovered, inputs_kept_when_apart { tree } sound apart discovered (List.mem_singleton_self file)⟩

/-- With the input directory as the output directory, files are copied onto themselves. -/
theorem copy_onto_itself_is_empty :
    let settings : Settings := { input := "src".toList, output := "src".toList }
    let tree : FileTree := { root := .directory [("src".toList, .directory [("a.md".toList, .file "text".toUTF8)])] }
    let file : Input := ⟨"src".toList, "a.md".toList⟩
    tree.WellFormed ∧ find tree settings.input settings.filters settings.recursive (some settings.output) = .ok [file] ∧
      tree.read file.path = .ok "text".toUTF8 ∧ (run settings { tree }).2.tree.read file.path = .ok .empty := by
  intro settings tree file
  have sound : tree.WellFormed := by decide +kernel
  have discovered : find tree settings.input settings.filters settings.recursive (some settings.output) = .ok [file] := by
    apply ok_of_toOption
    simp only [find, Location.mergeSort_eq_insertionSort]
    decide +kernel
  exact ⟨sound, discovered, ok_of_toOption (by decide +kernel), ok_of_toOption (by decide +kernel)⟩

end Generation

end Literate
