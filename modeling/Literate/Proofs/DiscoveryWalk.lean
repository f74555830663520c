import Literate.Discovery
import Literate.Proofs.PathPlaces
import Mathlib.Data.List.Nodup

/-! The files that discovery finds, in trees where every directory has each name once. They
are exactly the files below the root that are not hidden, no deeper than asked for and not
inside the excluded directory; each is found once, and its path leads to it. -/

namespace Literate

/-- In every directory the names are proper and no two entries have the same. -/
inductive Node.WellFormed : Node → Prop where
  | file (bytes : ByteArray) : WellFormed (file bytes)
  | directory {entries : List (Text × Node)} (named : ∀ entry ∈ entries, entry.1.IsName)
      (once : (entries.map Prod.fst).Nodup) (inner : ∀ entry ∈ entries, WellFormed entry.2) : WellFormed (directory entries)

def FileTree.WellFormed (tree : FileTree) : Prop := tree.root.WellFormed

namespace Node

variable {node child : Node} {entries rest : List (Text × Node)} {name : Text}

theorem WellFormed.lookup (sound : (Node.directory entries).WellFormed) (found : entries.lookup name = some child) :
    name.IsName ∧ child.WellFormed := by
  cases sound with
  | directory named once inner =>
    obtain ⟨before, after, rfl, _⟩ := List.lookup_eq_some_iff.mp found
    have member : (name, child) ∈ before ++ (name, child) :: after := by simp
    exact ⟨named _ member, inner _ member⟩

theorem WellFormed.get? {location : Location} (sound : node.WellFormed) (found : node.get? location = some child) :
    child.WellFormed := by
  induction location generalizing node with
  | nil => cases found; exact sound
  | cons name location ih =>
    cases node with
    | file bytes => cases found
    | directory entries =>
      rw [Node.get?, Option.bind_eq_some_iff] at found
      obtain ⟨inner, present, below⟩ := found
      exact ih (sound.lookup present).2 below

@[simp] theorem wellFormed_file (bytes : ByteArray) : (file bytes).WellFormed := .file bytes

@[simp] theorem wellFormed_nil : (directory []).WellFormed := .directory (by simp) (by simp) (by simp)

@[simp] theorem wellFormed_cons : (directory ((name, child) :: rest)).WellFormed ↔
    (name.IsName ∧ name ∉ rest.map Prod.fst) ∧ child.WellFormed ∧ (directory rest).WellFormed := by
  constructor
  · intro sound
    cases sound with
    | directory named once inner =>
      rw [List.forall_mem_cons] at named inner
      rw [List.map_cons, List.nodup_cons] at once
      exact ⟨⟨named.1, once.1⟩, inner.1, .directory named.2 once.2 inner.2⟩
  · rintro ⟨⟨first, fresh⟩, sound, others⟩
    cases others with
    | directory named once inner =>
      exact .directory (List.forall_mem_cons.mpr ⟨first, named⟩) (List.nodup_cons.mpr ⟨fresh, once⟩)
        (List.forall_mem_cons.mpr ⟨sound, inner⟩)

instance decideWellFormed (node : Node) : Decidable node.WellFormed :=
  match node with
  | .file bytes => .isTrue (wellFormed_file bytes)
  | .directory [] => .isTrue wellFormed_nil
  | .directory ((name, child) :: rest) =>
    have := decideWellFormed child
    have := decideWellFormed (.directory rest)
    decidable_of_iff _ wellFormed_cons.symm
termination_by sizeOf node

theorem WellFormed.tail (sound : (Node.directory ((name, child) :: rest)).WellFormed) :
    child.WellFormed ∧ (Node.directory rest).WellFormed ∧ rest.lookup name = none := by
  obtain ⟨⟨_, fresh⟩, inner, others⟩ := wellFormed_cons.mp sound
  refine ⟨inner, others, List.lookup_eq_none_iff.mpr ?_⟩
  intro entry member
  rw [bne_iff_ne]
  intro same
  exact fresh (List.mem_map.mpr ⟨entry, member, same.symm⟩)

def HasFile (node : Node) (location : Location) : Prop := ∃ bytes, node.content? location = some (.file bytes)

theorem not_hasFile_nil : ¬ (directory entries).HasFile [] := by
  rintro ⟨_, ⟨⟩⟩

theorem hasFile_file {bytes : ByteArray} {location : Location} : (file bytes).HasFile location ↔ location = [] := by
  constructor
  · rintro ⟨_, found⟩
    cases location with
    | nil => rfl
    | cons name location => cases found
  · rintro rfl
    exact ⟨bytes, rfl⟩

/-- A file below a directory is below its first entry or below one of the others. -/
theorem hasFile_entry {location : Location} (sound : (directory ((name, child) :: rest)).WellFormed) :
    (directory ((name, child) :: rest)).HasFile location ↔
      (∃ below, location = name :: below ∧ child.HasFile below) ∨ (directory rest).HasFile location := by
  cases location with
  | nil => simp [not_hasFile_nil]
  | cons other below =>
    by_cases same : other = name
    · subst same
      have elsewhere : ¬ (directory rest).HasFile (other :: below) := by
        rintro ⟨_, found⟩
        rw [content?_directory_cons, sound.tail.2.2] at found
        cases found
      simp [HasFile, content?_directory_cons] at elsewhere ⊢
      simp [elsewhere]
    · have unequal : (other == name) = false := by simpa using same
      simp [HasFile, content?_directory_cons, List.lookup_cons, unequal, same]

end Node

instance (tree : FileTree) : Decidable tree.WellFormed := tree.root.decideWellFormed

namespace Discovery

variable {recursive : Bool} {excluded : Option Location} {here location : Location} {entries : List (Text × Node)}

/-- Where the walk goes, if there is a file. -/
structure Reaches (recursive : Bool) (excluded : Option Location) (here location : Location) : Prop where
  visible : ∀ name ∈ location, isHidden name = false
  near : recursive = true ∨ location.length = 1
  outside : ∀ front back, location = front ++ back → front ≠ [] → back ≠ [] → excluded ≠ some (here ++ front)

theorem reaches_single {name : Text} : Reaches recursive excluded here [name] ↔ isHidden name = false := by
  constructor
  · intro reached
    exact reached.visible name List.mem_cons_self
  · intro visible
    refine ⟨by simpa using visible, .inr rfl, ?_⟩
    rintro front back split nonempty more
    rcases List.cons_eq_append_iff.mp split with ⟨rfl, _⟩ | ⟨rest, rfl, nothing⟩
    · exact absurd rfl nonempty
    · exact absurd (List.nil_eq_append_iff.mp nothing).2 more

/-- The walk goes below a directory that is visible and not the excluded one. -/
theorem reaches_below {name next : Text} {below : Location} :
    Reaches recursive excluded here (name :: next :: below) ↔
      (isHidden name || !recursive || excluded = some (here ++ [name])) = false ∧
        Reaches recursive excluded (here ++ [name]) (next :: below) := by
  rw [Bool.or_eq_false_iff, Bool.or_eq_false_iff, Bool.not_eq_false', decide_eq_false_iff_not]
  constructor
  · intro reached
    have deep : recursive = true := by simpa using reached.near
    refine ⟨⟨⟨reached.visible name List.mem_cons_self, deep⟩, ?_⟩, ?_, .inl deep, ?_⟩
    · exact reached.outside [name] (next :: below) rfl (by simp) (by simp)
    · exact fun other member => reached.visible other (List.mem_cons_of_mem name member)
    · intro front back split _ more
      rw [List.append_assoc]
      exact reached.outside (name :: front) back (congrArg _ split) (by simp) more
  · rintro ⟨⟨⟨visible, deep⟩, entered⟩, reached⟩
    refine ⟨List.forall_mem_cons.mpr ⟨visible, reached.visible⟩, .inl deep, ?_⟩
    intro front back split nonempty more
    rcases List.cons_eq_append_iff.mp split with ⟨rfl, _⟩ | ⟨rest, rfl, below⟩
    · exact absurd rfl nonempty
    · by_cases first : rest = []
      · rwa [first]
      · have inner := reached.outside rest back below first more
        rwa [List.append_assoc] at inner

/-- The walk finds exactly the files in its reach. -/
theorem mem_walk (sound : (Node.directory entries).WellFormed) :
    location ∈ walk recursive excluded here entries ↔
      (Node.directory entries).HasFile location ∧ Reaches recursive excluded here location := by
  -- Along the walk: an entry that is passed over has no file in reach, one that is entered has those of its own walk.
  fun_induction walk recursive excluded here entries generalizing location with
  | case1 here =>
    simp only [List.not_mem_nil, false_iff, not_and]
    rintro ⟨_, found⟩
    cases location <;> cases found
  | case2 here name inner rest closed ih =>
    rw [ih sound.tail.2.1, Node.hasFile_entry sound, or_and_right]
    refine (or_iff_right ?_).symm
    rintro ⟨⟨below, rfl, found⟩, reached⟩
    cases below with
    | nil => exact Node.not_hasFile_nil found
    | cons next below => simp [(reaches_below.mp reached).1] at closed
  | case3 here name inner rest opened ihInner ihRest =>
    rw [List.mem_append, ihRest sound.tail.2.1, Node.hasFile_entry sound, or_and_right, List.mem_map]
    refine or_congr_left ⟨?_, ?_⟩
    · rintro ⟨below, member, rfl⟩
      obtain ⟨found, reached⟩ := (ihInner sound.tail.1).mp member
      cases below with
      | nil => exact absurd found Node.not_hasFile_nil
      | cons next below =>
        exact ⟨⟨_, rfl, found⟩, reaches_below.mpr ⟨by simpa using opened, reached⟩⟩
    · rintro ⟨⟨below, rfl, found⟩, reached⟩
      cases below with
      | nil => exact absurd found Node.not_hasFile_nil
      | cons next below => exact ⟨_, (ihInner sound.tail.1).mpr ⟨found, (reaches_below.mp reached).2⟩, rfl⟩
  | case4 here name bytes rest hidden ih =>
    rw [ih sound.tail.2.1, Node.hasFile_entry sound, or_and_right]
    refine (or_iff_right ?_).symm
    rintro ⟨⟨below, rfl, found⟩, reached⟩
    obtain rfl := Node.hasFile_file.mp found
    simp [reaches_single.mp reached] at hidden
  | case5 here name bytes rest visible ih =>
    rw [List.mem_cons, ih sound.tail.2.1, Node.hasFile_entry sound, or_and_right]
    refine or_congr_left ⟨?_, ?_⟩
    · rintro rfl
      exact ⟨⟨[], rfl, Node.hasFile_file.mpr rfl⟩, reaches_single.mpr (by simpa using visible)⟩
    · rintro ⟨⟨below, rfl, found⟩, _⟩
      rw [Node.hasFile_file.mp found]

theorem nodup_walk (sound : (Node.directory entries).WellFormed) : (walk recursive excluded here entries).Nodup := by
  -- The files below one entry differ from those below the others in their first name.
  have apart {name : Text} {child : Node} {rest : List (Text × Node)} {here : Location}
      (sound : (Node.directory ((name, child) :: rest)).WellFormed) (below : Location) :
      name :: below ∉ walk recursive excluded here rest := by
    intro member
    obtain ⟨⟨_, found⟩, _⟩ := (mem_walk sound.tail.2.1).mp member
    rw [Node.content?_directory_cons, sound.tail.2.2] at found
    cases found
  fun_induction walk recursive excluded here entries with
  | case1 => exact .nil
  | case2 here name inner rest closed ih => exact ih sound.tail.2.1
  | case3 here name inner rest opened ihInner ihRest =>
    refine List.nodup_append.mpr ⟨(ihInner sound.tail.1).map (List.cons_injective), ihRest sound.tail.2.1, ?_⟩
    rintro _ member other rest rfl
    obtain ⟨below, _, rfl⟩ := List.mem_map.mp member
    exact apart sound below rest
  | case4 here name bytes rest hidden ih => exact ih sound.tail.2.1
  | case5 here name bytes rest visible ih => exact List.nodup_cons.mpr ⟨apart sound [], ih sound.tail.2.1⟩

/-- How a file that was found is related to the tree and to the root below which it was. -/
structure Found (tree : FileTree) (root : Path) (exclude : Option Path) (here names : Location) : Prop where
  root : tree.resolve root = .ok here
  nonempty : names ≠ []
  named : ∀ name ∈ names, name.IsName
  visible : ∀ name ∈ names, isHidden name = false
  present : (tree.bytes? (here ++ names)).isSome
  outside : ∀ path ∈ exclude, ∀ front back, names = front ++ back → front ≠ [] → back ≠ [] →
    tree.resolve path ≠ .ok (here ++ front)

variable {tree : FileTree} {root : Path} {filters : List Text} {exclude : Option Path} {files : List Input}

theorem named_of_content? {node : Node} (sound : node.WellFormed) (found : (node.content? location).isSome) :
    ∀ name ∈ location, name.IsName := by
  obtain ⟨content, found⟩ := Option.isSome_iff_exists.mp found
  induction location generalizing node with
  | nil => simp
  | cons name location ih =>
    obtain ⟨entries, child, rfl, present, below⟩ := Node.content?_cons_eq_some found
    obtain ⟨named, inner⟩ := sound.lookup present
    exact List.forall_mem_cons.mpr ⟨named, ih inner (by rw [below]; rfl) below⟩

/-- Where a file lies in a directory, it lies in the tree. -/
theorem hasFile_iff (held : tree.get? here = some (.directory entries)) :
    (Node.directory entries).HasFile location ↔ (tree.bytes? (here ++ location)).isSome := by
  have inside : tree.content? (here ++ location) = (Node.directory entries).content? location := by
    rw [FileTree.get?] at held
    rw [FileTree.content?, Node.content?, Node.get?_append, held]
    rfl
  rw [Node.HasFile, Option.isSome_iff_exists]
  simp only [FileTree.bytes?_eq_some, inside]

/-- What is met on the walk is a file that can be found again. -/
theorem found_of_mem_walk (sound : tree.WellFormed) (led : tree.resolve root = .ok here)
    (held : tree.get? here = some (.directory entries))
    (member : location ∈ walk recursive (exclude.bind fun path => (tree.resolve path).toOption) here entries) :
    Found tree root exclude here location := by
  have inner : (Node.directory entries).WellFormed := Node.WellFormed.get? sound held
  obtain ⟨file, reached⟩ := (mem_walk inner).mp member
  have named : ∀ name ∈ location, name.IsName := by
    obtain ⟨bytes, file⟩ := file
    exact named_of_content? inner (by rw [file]; rfl)
  refine ⟨led, ?_, named, reached.visible, (hasFile_iff held).mp file, ?_⟩
  · rintro rfl
    exact Node.not_hasFile_nil file
  · intro path excluded front back split nonempty more resolved
    refine reached.outside front back split nonempty more ?_
    rw [Option.mem_def.mp excluded, Option.bind_some, resolved]
    rfl

theorem mem_indexFirst {file : Input} : file ∈ indexFirst files ↔ file ∈ files :=
  (List.filter_append_perm _ _).mem_iff

/-- All that the search depends on, and the list of files that it gives. -/
theorem find_eq_ok {filters : List Text} {recursive : Bool} {exclude : Option Path} {files : List Input} :
    find tree root filters recursive exclude = .ok files ↔
      ∃ globs here entries, compile filters = .ok globs ∧ tree.resolve root = .ok here ∧
        tree.get? here = some (.directory entries) ∧
        files = indexFirst ((((walk recursive (exclude.bind fun path => (tree.resolve path).toOption) here entries).mergeSort
          Location.precedes).map (fileAt root)).filter (isSelected globs)) := by
  rw [find]
  cases compile filters with
  | error failure => simp
  | ok globs =>
    cases tree.resolve root with
    | error error => simp
    | ok here =>
      rcases held : tree.get? here with _ | ⟨bytes | entries⟩ <;> simp [held, eq_comm]

/-- All files that were found are below the root, and each was found once. -/
theorem find_spec (sound : tree.WellFormed) (found : find tree root filters recursive exclude = .ok files) :
    ∃ (here : Location) (locations : List Location), files = locations.map (fileAt root) ∧ locations.Nodup ∧
      ∀ names ∈ locations, Found tree root exclude here names := by
  obtain ⟨globs, here, entries, _, led, held, rfl⟩ := find_eq_ok.mp found
  let walked := walk recursive (exclude.bind fun path => (tree.resolve path).toOption) here entries
  let selected := (walked.mergeSort Location.precedes).filter fun names => isSelected globs (fileAt root names)
  let isIndex := fun names => (fileAt root names).isIndex
  refine ⟨here, selected.filter isIndex ++ selected.filter (fun names => !isIndex names), ?_, ?_, ?_⟩
  · rw [indexFirst, List.filter_map, List.filter_map, List.filter_map, List.map_append]
    rfl
  · have unsorted : walked.Nodup := nodup_walk (Node.WellFormed.get? sound held)
    have sorted := (List.mergeSort_perm walked Location.precedes).nodup_iff.mpr unsorted
    exact (List.filter_append_perm isIndex selected).nodup_iff.mpr (sorted.filter _)
  · intro names member
    rw [(List.filter_append_perm isIndex selected).mem_iff] at member
    have sorted := (List.mem_filter.mp member).1
    rw [(List.mergeSort_perm walked Location.precedes).mem_iff] at sorted
    exact found_of_mem_walk sound led held sorted

namespace Found

open Literate.Path

variable {names : Location}

theorem resolve (found : Found tree root exclude here names) :
    tree.resolve (fileAt root names).path = .ok (here ++ names) := by
  refine FileTree.resolve_join_names found.nonempty found.named found.root ?_
  exact FileTree.isSome_content?.mpr (.inr found.present)

/-- The last name of a file with an extension is a name without it, too. -/
theorem extension (found : Found tree root exclude here names) {extension : Text}
    (ends : (fileAt root names).extension? = some extension) :
    ∃ (front : Location) (stem : Text), names = front ++ [stem ++ '.' :: extension] ∧ stem.IsName ∧
      ∀ new, (fileAt root names).relative.withExtension new =
        Text.join ['/'] (front ++ [stem ++ if new.isEmpty then [] else '.' :: new]) := by
  obtain ⟨front, name, rfl⟩ := (List.eq_nil_or_concat' names).resolve_left found.nonempty
  have named : name.IsName := found.named name (by simp)
  obtain ⟨stem, cut⟩ : ∃ stem, splitName name = (stem, some extension) := by
    rw [Input.extension?, fileAt, extension?_join_names front named] at ends
    exact ⟨_, Prod.ext rfl ends⟩
  obtain ⟨rfl, nonempty, dotless⟩ := splitName_eq_some.mp cut
  have visible : stem.head? ≠ some '.' := by
    obtain ⟨c, rest, rfl⟩ := List.exists_cons_of_ne_nil nonempty
    simpa [isHidden] using found.visible _ (List.mem_append_right front List.mem_cons_self)
  refine ⟨front, stem, rfl, ⟨nonempty, ?_, ?_, ?_⟩, withExtension_join_names front named nonempty visible dotless⟩
  · rintro rfl
    exact visible rfl
  · rintro rfl
    exact visible rfl
  · intro slash
    exact named.whole (List.mem_append_left _ slash)

end Found

end Discovery

end Literate
