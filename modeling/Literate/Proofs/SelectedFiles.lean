import Literate.Proofs.LocationOrder
import Literate.Proofs.ReorderedTrees

/-! What the search for input files gives in trees of any shape: which files, in which order,
and which failures. Nothing of it depends on the order in which directories list their entries. -/

namespace Literate

namespace Input

/-- The relative path is before the other one, component by component. -/
def PathBefore (file other : Input) : Prop :=
  Location.precedes file.relative.segments other.relative.segments = true ∧ file.relative.segments ≠ other.relative.segments

/-- Index files are in front, and in each of the two groups paths increase. -/
def Before (file other : Input) : Prop :=
  file.isIndex = true ∧ other.isIndex = false ∨ file.isIndex = other.isIndex ∧ file.PathBefore other

theorem Before.ne {file other : Input} (before : file.Before other) : file ≠ other := by
  rintro rfl
  rcases before with ⟨index, plain⟩ | ⟨_, _, differ⟩
  · rw [index] at plain
    cases plain
  · exact differ rfl

end Input

namespace Discovery

variable {tree other : FileTree} {root : Path} {filters : List Text} {recursive : Bool} {exclude : Option Path}
  {here names : Location} {entries others : List (Text × Node)} {globs : List Glob} {files : List Input} {failure : Failure}

theorem compile_cons_eq_ok {filter : Text} :
    compile (filter :: filters) = .ok globs ↔
      ∃ glob rest, Glob.parse filter = .ok glob ∧ compile filters = .ok rest ∧ globs = glob :: rest := by
  rw [compile]
  cases Glob.parse filter with
  | error error => simp
  | ok glob => cases compile filters <;> simp [Except.map, eq_comm]

theorem mem_compile {glob : Glob} (compiled : compile filters = .ok globs) :
    glob ∈ globs ↔ ∃ filter ∈ filters, Glob.parse filter = .ok glob := by
  induction filters generalizing globs with
  | nil =>
    cases compiled
    simp
  | cons filter filters ih =>
    obtain ⟨first, rest, parsed, others, rfl⟩ := compile_cons_eq_ok.mp compiled
    rw [List.mem_cons, ih others]
    simp [parsed, eq_comm]

def Compiles (filters : List Text) : Prop := ∀ filter ∈ filters, ∃ glob, Glob.parse filter = .ok glob

/-- The first of the filters that is not a pattern is the one that the failure names. -/
def RejectsFilter (filters : List Text) (failure : Failure) : Prop :=
  ∃ front filter back error, filters = front ++ filter :: back ∧ Compiles front ∧
    Glob.parse filter = .error error ∧ failure = .filter filter error

theorem compiles_iff : Compiles filters ↔ ∃ globs, compile filters = .ok globs := by
  induction filters with
  | nil => simp [Compiles, compile]
  | cons filter filters ih =>
    rw [Compiles, List.forall_mem_cons]
    simp only [compile_cons_eq_ok]
    constructor
    · intro ⟨⟨glob, parsed⟩, valid⟩
      obtain ⟨globs, compiled⟩ := ih.mp valid
      exact ⟨glob :: globs, glob, globs, parsed, compiled, rfl⟩
    · intro ⟨_, glob, globs, parsed, compiled, _⟩
      exact ⟨⟨glob, parsed⟩, ih.mpr ⟨globs, compiled⟩⟩

theorem rejectsFilter_cons {filter : Text} :
    RejectsFilter (filter :: filters) failure ↔
      (∃ error, Glob.parse filter = .error error ∧ failure = .filter filter error) ∨
        (∃ glob, Glob.parse filter = .ok glob) ∧ RejectsFilter filters failure := by
  constructor
  · intro ⟨front, invalid, back, error, split, valid, parsed, same⟩
    cases front with
    | nil =>
      cases split
      exact .inl ⟨error, parsed, same⟩
    | cons first front =>
      cases split
      obtain ⟨glob, valid⟩ := List.forall_mem_cons.mp valid
      exact .inr ⟨glob, front, invalid, back, error, rfl, valid, parsed, same⟩
  · intro rejected
    rcases rejected with ⟨error, parsed, same⟩ | ⟨glob, front, invalid, back, error, rfl, valid, parsed, same⟩
    · exact ⟨[], filter, filters, error, rfl, by simp [Compiles], parsed, same⟩
    · exact ⟨filter :: front, invalid, back, error, rfl, List.forall_mem_cons.mpr ⟨glob, valid⟩, parsed, same⟩

theorem compile_eq_error : compile filters = .error failure ↔ RejectsFilter filters failure := by
  induction filters with
  | nil => simp [compile, RejectsFilter]
  | cons filter filters ih =>
    rw [compile, rejectsFilter_cons, ← ih]
    cases Glob.parse filter with
    | error error => simp [eq_comm]
    | ok glob => cases compile filters <;> simp [Except.map]

/-- The file matches some filter, or there is none to match. -/
def Matches (filters : List Text) (file : Input) : Prop :=
  filters = [] ∨ ∃ filter ∈ filters, ∃ glob, Glob.parse filter = .ok glob ∧ glob.isMatch file.filterText = true

theorem isSelected_iff {file : Input} (compiled : compile filters = .ok globs) :
    isSelected globs file = true ↔ Matches filters file := by
  have none : globs = [] ↔ filters = [] := by
    cases filters with
    | nil =>
      cases compiled
      simp
    | cons filter filters =>
      obtain ⟨glob, rest, _, _, rfl⟩ := compile_cons_eq_ok.mp compiled
      simp
  rw [isSelected, Bool.or_eq_true, List.isEmpty_iff, none, List.any_eq_true, Matches]
  apply or_congr_right
  constructor
  · intro ⟨glob, member, isMatch⟩
    obtain ⟨filter, given, parsed⟩ := (mem_compile compiled).mp member
    exact ⟨filter, given, glob, parsed, isMatch⟩
  · intro ⟨filter, given, glob, parsed, isMatch⟩
    exact ⟨glob, (mem_compile compiled).mpr ⟨filter, given, parsed⟩, isMatch⟩

/-- The search fails over its filters, whatever the tree is, or else over its root. -/
theorem find_eq_error :
    find tree root filters recursive exclude = .error failure ↔
      RejectsFilter filters failure ∨
        Compiles filters ∧ ∃ error, tree.list root = .error error ∧ failure = .read root error := by
  rw [← compile_eq_error, compiles_iff, find, FileTree.list, FileTree.node]
  cases compile filters with
  | error failure => simp
  | ok globs =>
    cases tree.resolve root with
    | error error => simp [eq_comm]
    | ok here => rcases held : tree.get? here with _ | _ | _ <;> simp [held, eq_comm]

theorem walk_perm (excluded : Option Location) (sound : tree.WellFormed) (reordered : tree.Reordered other)
    (held : tree.get? here = some (.directory entries)) (heldOther : other.get? here = some (.directory others)) :
    (walk recursive excluded here others).Perm (walk recursive excluded here entries) := by
  have inner : (Node.directory entries).WellFormed := Node.WellFormed.get? sound held
  have innerOther : (Node.directory others).WellFormed := Node.WellFormed.get? (reordered.wellFormed sound) heldOther
  rw [List.perm_ext_iff_of_nodup (nodup_walk innerOther) (nodup_walk inner)]
  intro names
  rw [mem_walk innerOther, mem_walk inner, hasFile_iff heldOther, hasFile_iff held, FileTree.bytes?,
    reordered.content? sound, ← FileTree.bytes?]

theorem find_of_reordered (sound : tree.WellFormed) (reordered : tree.Reordered other) :
    find other root filters recursive exclude = find tree root filters recursive exclude := by
  cases outcome : find tree root filters recursive exclude with
  | error failure =>
    rw [find_eq_error] at outcome ⊢
    simpa only [reordered.list_eq_error sound] using outcome
  | ok files =>
    obtain ⟨globs, here, entries, compiled, led, held, rfl⟩ := find_eq_ok.mp outcome
    obtain ⟨others, heldOther⟩ : ∃ others, other.get? here = some (.directory others) := by
      apply FileTree.get?_of_directory
      rw [reordered.content? sound, FileTree.content?_eq, held]
      rfl
    refine find_eq_ok.mpr ⟨globs, here, others, compiled, (reordered.resolve sound root).trans led, heldOther, ?_⟩
    simp only [reordered.resolve sound]
    rw [Location.mergeSort_eq_of_perm (walk_perm _ sound reordered held heldOther)]

/-- A file at these names below the root that the search is to give. -/
structure Chosen (tree : FileTree) (root : Path) (filters : List Text) (recursive : Bool) (exclude : Option Path)
    (here names : Location) : Prop where
  led : tree.resolve root = .ok here
  below : names ≠ []
  present : (tree.bytes? (here ++ names)).isSome
  visible : ∀ name ∈ names, isHidden name = false
  near : recursive = true ∨ names.length = 1
  outside : ∀ path ∈ exclude, ∀ front back, names = front ++ back → front ≠ [] → back ≠ [] →
    tree.resolve path ≠ .ok (here ++ front)
  isMatch : Matches filters (fileAt root names)

/-- The files on the walk are those that are chosen if their path matches. -/
theorem mem_walk_iff_chosen (sound : tree.WellFormed) (led : tree.resolve root = .ok here)
    (held : tree.get? here = some (.directory entries)) :
    (names ∈ walk recursive (exclude.bind fun path => (tree.resolve path).toOption) here entries ∧
      Matches filters (fileAt root names)) ↔ Chosen tree root filters recursive exclude here names := by
  constructor
  · intro ⟨walked, isMatch⟩
    have found := found_of_mem_walk sound led held walked
    have reached := ((mem_walk (Node.WellFormed.get? sound held)).mp walked).2
    exact ⟨led, found.nonempty, found.present, found.visible, reached.near, found.outside, isMatch⟩
  · intro chosen
    refine ⟨(mem_walk (Node.WellFormed.get? sound held)).mpr ⟨(hasFile_iff held).mpr chosen.present, ?_⟩, chosen.isMatch⟩
    refine ⟨chosen.visible, chosen.near, ?_⟩
    intro front back split first more excluded
    obtain ⟨path, given, resolved⟩ := Option.bind_eq_some_iff.mp excluded
    refine chosen.outside path given front back split first more ?_
    cases outcome : tree.resolve path with
    | error error =>
      rw [outcome] at resolved
      cases resolved
    | ok location =>
      rw [outcome] at resolved
      cases resolved
      rfl

theorem pairwise_sorted (recursive : Bool) (exclude : Option Path) (sound : tree.WellFormed) (led : tree.resolve root = .ok here)
    (held : tree.get? here = some (.directory entries)) :
    (((walk recursive (exclude.bind fun path => (tree.resolve path).toOption) here entries).mergeSort
      Location.precedes).map (fileAt root)).Pairwise Input.PathBefore := by
  let walked := walk recursive (exclude.bind fun path => (tree.resolve path).toOption) here entries
  -- Paths are compared by their components, and these are the names on the walk.
  have segments (names : Location) (member : names ∈ walked.mergeSort Location.precedes) :
      (fileAt root names).relative.segments = names := by
    have found := found_of_mem_walk sound led held (List.mem_mergeSort.mp member)
    exact Path.segments_join_names found.nonempty found.named
  have distinct : (walked.mergeSort Location.precedes).Nodup :=
    (List.mergeSort_perm walked _).nodup_iff.mpr (nodup_walk (Node.WellFormed.get? sound held))
  rw [List.pairwise_map]
  apply (List.Pairwise.and (Location.pairwise_mergeSort walked) distinct).imp_of_mem
  intro first second member memberSecond before
  rwa [Input.PathBefore, segments first member, segments second memberSecond]

/-- The groups stay in their order when index files are put in front. -/
theorem pairwise_indexFirst (ordered : files.Pairwise Input.PathBefore) : (indexFirst files).Pairwise Input.Before := by
  refine List.pairwise_append.mpr ⟨?_, ?_, ?_⟩
  · apply (ordered.filter _).imp_of_mem
    intro file other member memberOther before
    exact .inr ⟨(List.mem_filter.mp member).2.trans (List.mem_filter.mp memberOther).2.symm, before⟩
  · apply (ordered.filter _).imp_of_mem
    intro file other member memberOther before
    have plain := (List.mem_filter.mp member).2.trans (List.mem_filter.mp memberOther).2.symm
    exact .inr ⟨Bool.not_inj plain, before⟩
  · intro file member other memberOther
    exact .inl ⟨(List.mem_filter.mp member).2, by simpa using (List.mem_filter.mp memberOther).2⟩

/-- The search fails just if a filter is no pattern or the root cannot be listed. It gives the
chosen files, each once, index files first and otherwise by path; the order in which
directories list their entries makes no difference. -/
theorem find_selects (tree : FileTree) (root : Path) (filters : List Text) (recursive : Bool) (exclude : Option Path)
    (sound : tree.WellFormed) :
    (∀ failure, find tree root filters recursive exclude = .error failure ↔
      RejectsFilter filters failure ∨
        Compiles filters ∧ ∃ error, tree.list root = .error error ∧ failure = .read root error) ∧
    (∀ files, find tree root filters recursive exclude = .ok files →
      files.Nodup ∧ files.Pairwise Input.Before ∧
        ∀ file, file ∈ files ↔ ∃ here names, Chosen tree root filters recursive exclude here names ∧ file = fileAt root names) ∧
    ∀ other, tree.Reordered other → find other root filters recursive exclude = find tree root filters recursive exclude := by
  refine ⟨fun failure => find_eq_error, ?_, fun other => find_of_reordered sound⟩
  intro files outcome
  obtain ⟨globs, here, entries, compiled, led, held, rfl⟩ := find_eq_ok.mp outcome
  have ordered := pairwise_indexFirst ((pairwise_sorted recursive exclude sound led held).filter (isSelected globs))
  refine ⟨ordered.imp Input.Before.ne, ordered, ?_⟩
  intro file
  rw [mem_indexFirst, List.mem_filter, List.mem_map, isSelected_iff compiled]
  constructor
  · intro ⟨⟨names, sorted, same⟩, isMatch⟩
    subst same
    exact ⟨here, names, (mem_walk_iff_chosen sound led held).mp ⟨List.mem_mergeSort.mp sorted, isMatch⟩, rfl⟩
  · intro ⟨place, names, chosen, same⟩
    subst same
    obtain rfl : here = place := Except.ok.inj (led.symm.trans chosen.led)
    obtain ⟨walked, isMatch⟩ := (mem_walk_iff_chosen sound led held).mpr chosen
    exact ⟨⟨names, List.mem_mergeSort.mpr walked, rfl⟩, isMatch⟩

theorem find_selects_nested :
    let tree : FileTree := { root := .directory [("src".toList, .directory [
      ("a.b".toList, .file "".toUTF8), (".git".toList, .directory [("b".toList, .file "".toUTF8)]),
      ("a".toList, .directory [("c".toList, .file "".toUTF8), ("INDEX.b".toList, .file "".toUTF8), ("Alpha.b".toList, .file "".toUTF8)]),
      ("out".toList, .directory [("b".toList, .file "".toUTF8)])])] }
    let files : List Input := ["a/INDEX.b", "a/Alpha.b", "a.b"].map fun name => ⟨"src".toList, name.toList⟩
    tree.WellFormed ∧ find tree "src".toList ["**/*b".toList] true (some "src/out".toList) = .ok files ∧
      files.Pairwise Input.Before ∧ ∀ file, file ∈ files ↔ ∃ here names,
        Chosen tree "src".toList ["**/*b".toList] true (some "src/out".toList) here names ∧ file = fileAt "src".toList names := by
  intro tree files
  have sound : tree.WellFormed := by decide +kernel
  have found : find tree "src".toList ["**/*b".toList] true (some "src/out".toList) = .ok files := by
    apply ok_of_toOption
    simp only [find, Location.mergeSort_eq_insertionSort]
    decide +kernel
  exact ⟨sound, found, ((find_selects tree _ _ _ _ sound).2.1 files found).2⟩

end Discovery

end Literate
