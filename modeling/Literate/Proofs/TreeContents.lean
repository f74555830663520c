import Literate.FileTree
import Literate.Proofs.TextPieces
import Mathlib.Data.List.Basic

/-! What a tree of files holds at each location, and what the operations on files do to it.
A write changes one location and no other; making directories puts directories where
nothing was. Whatever a path led to before, it leads there afterwards. -/

namespace Literate

/-- What stands at a location. -/
inductive Content where
  | file (bytes : ByteArray)
  | directory

def Content.bytes? : Content → Option ByteArray
  | file bytes => some bytes
  | directory => none

/-- Where a path segment leads from a directory. -/
def Location.enter (here : Location) (segment : Text) : Location :=
  if segment = [] || segment = ['.'] then here
  else if segment = ['.', '.'] then here.dropLast
  else here ++ [segment]

namespace Node

variable {node new : Node} {entries : List (Text × Node)}

def content : Node → Content
  | file bytes => .file bytes
  | directory _ => .directory

def content? (node : Node) (location : Location) : Option Content := (node.get? location).map content

@[simp] theorem content?_nil (node : Node) : node.content? [] = some node.content := rfl

@[simp] theorem content?_directory_cons (entries : List (Text × Node)) (name : Text) (rest : Location) :
    (directory entries).content? (name :: rest) = (entries.lookup name).bind (·.content? rest) := by
  cases found : entries.lookup name <;> simp [content?, get?, child?, found]

theorem get?_append (node : Node) (front back : Location) :
    node.get? (front ++ back) = (node.get? front).bind (·.get? back) := by
  induction front generalizing node with
  | nil => rfl
  | cons name front ih =>
    rw [List.cons_append, get?, get?, Option.bind_assoc]
    exact Option.bind_congr fun child _ => ih child

theorem content?_cons_eq_some {name : Text} {rest : Location} {content : Content}
    (found : node.content? (name :: rest) = some content) :
    ∃ entries child, node = directory entries ∧ entries.lookup name = some child ∧ child.content? rest = some content := by
  cases node with
  | file bytes => cases found
  | directory entries =>
    rw [content?_directory_cons, Option.bind_eq_some_iff] at found
    obtain ⟨child, present, below⟩ := found
    exact ⟨entries, child, rfl, present, below⟩

/-- What is above something is a directory. -/
theorem content?_above {front back : Location} (nonempty : back ≠ [])
    (found : (node.content? (front ++ back)).isSome) : node.content? front = some .directory := by
  obtain ⟨name, rest, rfl⟩ := List.exists_cons_of_ne_nil nonempty
  rw [content?, get?_append] at found
  rw [content?]
  cases reached : node.get? front with
  | none => simp [reached] at found
  | some holder =>
    rw [reached, Option.bind_some, ← content?] at found
    obtain ⟨content, found⟩ := Option.isSome_iff_exists.mp found
    obtain ⟨entries, _, rfl, _⟩ := content?_cons_eq_some found
    rfl

theorem lookup_replaceEntry (name other : Text) (entries : List (Text × Node)) :
    (replaceEntry name new entries).lookup other = if other = name then some new else entries.lookup other := by
  induction entries with
  | nil =>
    by_cases same : other = name
    · simp [replaceEntry, same]
    · have differ : (other == name) = false := by simpa using same
      simp [replaceEntry, List.lookup_cons, same, differ]
  | cons entry entries ih =>
    obtain ⟨first, old⟩ := entry
    rw [replaceEntry]
    split
    next found =>
      subst found
      by_cases same : other = first
      · simp [same]
      · have differ : (other == first) = false := by simpa using same
        simp [List.lookup_cons, same, differ]
    next found =>
      rw [List.lookup_cons, ih, List.lookup_cons]
      by_cases reached : other = first
      · simp [reached, found]
      · have differ : (other == first) = false := by simpa using reached
        simp [differ]

theorem put_inside {child : Node} {name : Text} {rest : Location} (deeper : rest ≠ [])
    (present : entries.lookup name = some child) :
    (directory entries).put (name :: rest) new = directory (replaceEntry name (child.put rest new) entries) := by
  obtain ⟨next, rest, rfl⟩ := List.exists_cons_of_ne_nil deeper
  rw [put, present]
  simp

/-- Something without entries, put where nothing has entries, changes one location. -/
theorem content?_put {front : Location} {name : Text} (holder : node.content? front = some .directory)
    (empty : ∀ next rest, new.content? (next :: rest) = none)
    (bare : ∀ rest, rest ≠ [] → node.content? (front ++ name :: rest) = none) (other : Location) :
    (node.put (front ++ [name]) new).content? other =
      if other = front ++ [name] then some new.content else node.content? other := by
  induction front generalizing node other with
  | nil =>
    cases node with
    | file bytes => cases holder
    | directory entries =>
      rw [List.nil_append, put]
      cases other with
      | nil => simp [content]
      | cons step rest =>
        rw [content?_directory_cons, lookup_replaceEntry, content?_directory_cons]
        by_cases reached : step = name
        · subst reached
          by_cases final : rest = []
          · simp [final]
          · have nothing := bare rest final
            obtain ⟨next, rest, rfl⟩ := List.exists_cons_of_ne_nil final
            rw [List.nil_append, content?_directory_cons] at nothing
            simp [empty next rest, nothing]
        · simp [reached]
  | cons step front ih =>
    obtain ⟨entries, child, rfl, present, below⟩ := content?_cons_eq_some holder
    have inner := ih below fun rest deeper => by
      have nothing := bare rest deeper
      rwa [List.cons_append, content?_directory_cons, present] at nothing
    rw [List.cons_append, put_inside (by simp) present]
    cases other with
    | nil => simp [content]
    | cons next rest =>
      rw [content?_directory_cons, lookup_replaceEntry, content?_directory_cons]
      by_cases reached : next = step
      · subst reached
        simp [present, inner rest]
      · simp [reached]

end Node

namespace FileTree

variable {tree before middle after : FileTree} {path : Path} {here location : Location}

def content? (tree : FileTree) (location : Location) : Option Content := tree.root.content? location

def bytes? (tree : FileTree) (location : Location) : Option ByteArray := (tree.content? location).bind Content.bytes?

/-- The location that a path names, whatever is there. -/
def place (tree : FileTree) (path : Path) : Location := path.segments.foldl Location.enter (tree.origin path)

theorem content?_eq (tree : FileTree) (location : Location) :
    tree.content? location = (tree.get? location).map Node.content := rfl

theorem content?_above {front back : Location} (nonempty : back ≠ [])
    (found : (tree.content? (front ++ back)).isSome) : tree.content? front = some .directory :=
  Node.content?_above nonempty found

theorem get?_of_directory (found : tree.content? location = some .directory) :
    ∃ entries, tree.get? location = some (.directory entries) := by
  rw [content?_eq, Option.map_eq_some_iff] at found
  obtain ⟨node, present, kind⟩ := found
  cases node with
  | file bytes => cases kind
  | directory entries => exact ⟨entries, present⟩

theorem content?_child {entries : List (Text × Node)} (found : tree.get? here = some (.directory entries)) (name : Text) :
    tree.content? (here ++ [name]) = (entries.lookup name).map Node.content := by
  rw [get?] at found
  rw [content?_eq, get?, Node.get?_append, found]
  cases present : entries.lookup name <;> simp [Node.get?, Node.child?, present]

theorem directory_dropLast (found : tree.content? here = some .directory) :
    tree.content? here.dropLast = some .directory := by
  rcases List.eq_nil_or_concat' here with rfl | ⟨front, name, rfl⟩
  · exact found
  · rw [List.dropLast_concat]
    exact content?_above (List.cons_ne_nil name []) (by rw [found]; rfl)

/-- Where a segment leads depends on what stands at two locations only. -/
theorem follow_cons (tree : FileTree) (here : Location) (segment : Text) (segments : List Text) :
    tree.follow here (segment :: segments) =
      match tree.content? here with
      | none => .error .missing
      | some (.file _) => .error .notDirectory
      | some .directory =>
        if (tree.content? (here.enter segment)).isSome then tree.follow (here.enter segment) segments else .error .missing := by
  rw [follow]
  split
  next missing => simp [content?_eq, missing]
  next bytes file => simp [content?_eq, file, Node.content]
  next entries found =>
    have present : tree.content? here = some .directory := by rw [content?_eq, found]; rfl
    have above := directory_dropLast present
    rw [Location.enter, present]
    split
    next => simp [present]
    next =>
      split
      next => simp [above]
      next =>
        have child := content?_child found segment
        cases lookup : entries.lookup segment <;> simp [child, lookup]

/-- A segment can be followed from a directory to something that exists. -/
theorem follow_cons_eq_ok {segment : Text} {segments : List Text} :
    tree.follow here (segment :: segments) = .ok location ↔
      tree.content? here = some .directory ∧ (tree.content? (here.enter segment)).isSome ∧
        tree.follow (here.enter segment) segments = .ok location := by
  rw [follow_cons]
  rcases tree.content? here with _ | _ | _
  · simp
  · simp
  · cases tree.content? (here.enter segment) <;> simp

/-- A path leads to the place it names, if it leads anywhere. -/
theorem follow_place {segments : List Text} (found : tree.follow here segments = .ok location) :
    location = segments.foldl Location.enter here := by
  induction segments generalizing here with
  | nil => cases found; rfl
  | cons segment segments ih => exact ih (follow_cons_eq_ok.mp found).2.2

theorem follow_append {front back : List Text} :
    tree.follow here (front ++ back) = .ok location ↔
      ∃ middle, tree.follow here front = .ok middle ∧ tree.follow middle back = .ok location := by
  induction front generalizing here with
  | nil => simp [follow]
  | cons segment front ih =>
    rw [List.cons_append, follow_cons_eq_ok, ih]
    constructor
    · rintro ⟨directory, present, middle, first, second⟩
      exact ⟨middle, follow_cons_eq_ok.mpr ⟨directory, present, first⟩, second⟩
    · rintro ⟨middle, first, second⟩
      obtain ⟨directory, present, first⟩ := follow_cons_eq_ok.mp first
      exact ⟨directory, present, middle, first, second⟩

theorem resolve_place (found : tree.resolve path = .ok location) : location = tree.place path := by
  rw [resolve] at found
  split at found
  · cases found
  · exact follow_place found

/-- The second tree has everything that the first one has, though perhaps other bytes in
its files. -/
structure Grows (before after : FileTree) : Prop where
  current : after.current = before.current
  directories : ∀ location, before.content? location = some .directory → after.content? location = some .directory
  files : ∀ location, (before.bytes? location).isSome → (after.bytes? location).isSome

/-- The second tree is the first one with more directories. -/
structure AddsDirectories (before after : FileTree) : Prop where
  current : after.current = before.current
  content : ∀ location, after.content? location = before.content? location ∨
    before.content? location = none ∧ after.content? location = some .directory

/-- The second tree is the first one with these bytes in the file at a location. -/
structure Writes (location : Location) (bytes : ByteArray) (before after : FileTree) : Prop where
  current : after.current = before.current
  vacant : before.content? location ≠ some .directory
  content : ∀ other, after.content? other = if other = location then some (.file bytes) else before.content? other

theorem place_of_current (same : after.current = before.current) (path : Path) : after.place path = before.place path := by
  rw [place, place, origin, origin, same]

theorem bytes?_eq_some {bytes : ByteArray} : tree.bytes? location = some bytes ↔ tree.content? location = some (.file bytes) := by
  rw [bytes?, Option.bind_eq_some_iff]
  constructor
  · rintro ⟨content, found, same⟩
    cases content with
    | file other => cases same; exact found
    | directory => cases same
  · intro found
    exact ⟨_, found, rfl⟩

theorem isSome_content? : (tree.content? location).isSome ↔
    tree.content? location = some .directory ∨ (tree.bytes? location).isSome := by
  rw [bytes?]
  cases tree.content? location with
  | none => simp
  | some content => cases content <;> simp [Content.bytes?]

theorem read_eq_ok {bytes : ByteArray} :
    tree.read path = .ok bytes ↔ ∃ location, tree.resolve path = .ok location ∧ tree.bytes? location = some bytes := by
  rw [read, node]
  cases tree.resolve path with
  | error error => simp
  | ok location =>
    simp only [Except.ok.injEq, exists_eq_left', bytes?, content?_eq]
    cases tree.get? location with
    | none => simp
    | some node => cases node <;> simp [Node.content, Content.bytes?]

namespace Grows

theorem refl (tree : FileTree) : Grows tree tree := ⟨rfl, fun _ => id, fun _ => id⟩

theorem trans (first : Grows before middle) (second : Grows middle after) : Grows before after where
  current := second.current.trans first.current
  directories location found := second.directories location (first.directories location found)
  files location found := second.files location (first.files location found)

theorem present (grown : Grows before after) (found : (before.content? location).isSome) :
    (after.content? location).isSome := by
  rw [isSome_content?] at found ⊢
  exact found.imp (grown.directories location) (grown.files location)

theorem follow {segments : List Text} (grown : Grows before after) (found : before.follow here segments = .ok location) :
    after.follow here segments = .ok location := by
  induction segments generalizing here with
  | nil => exact found
  | cons segment segments ih =>
    obtain ⟨directory, present, rest⟩ := follow_cons_eq_ok.mp found
    exact follow_cons_eq_ok.mpr ⟨grown.directories here directory, grown.present present, ih rest⟩

theorem resolve (grown : Grows before after) (found : before.resolve path = .ok location) :
    after.resolve path = .ok location := by
  rw [FileTree.resolve] at found ⊢
  split at found
  · cases found
  next nonempty =>
    rw [if_neg nonempty, origin, grown.current]
    exact grown.follow found

end Grows

namespace AddsDirectories

theorem refl (tree : FileTree) : AddsDirectories tree tree := ⟨rfl, fun _ => .inl rfl⟩

theorem trans (first : AddsDirectories before middle) (second : AddsDirectories middle after) :
    AddsDirectories before after where
  current := second.current.trans first.current
  content location := by
    rcases second.content location with same | ⟨missing, made⟩
    · rw [same]
      exact first.content location
    · rcases first.content location with kept | ⟨_, earlier⟩
      · exact .inr ⟨kept ▸ missing, made⟩
      · rw [earlier] at missing
        cases missing

theorem bytes? (added : AddsDirectories before after) (location : Location) :
    after.bytes? location = before.bytes? location := by
  rcases added.content location with same | ⟨missing, made⟩
  · rw [FileTree.bytes?, same, ← FileTree.bytes?]
  · simp [FileTree.bytes?, missing, made, Content.bytes?]

theorem grows (added : AddsDirectories before after) : Grows before after where
  current := added.current
  directories location found := by
    rcases added.content location with same | ⟨_, made⟩
    · rw [same, found]
    · exact made
  files location found := by rwa [added.bytes? location]

end AddsDirectories

namespace Writes

variable {bytes other : ByteArray}

theorem bytes? (written : Writes location bytes before after) (place : Location) :
    after.bytes? place = if place = location then some bytes else before.bytes? place := by
  rw [FileTree.bytes?, written.content]
  split
  · rfl
  · rfl

theorem grows (written : Writes location bytes before after) : Grows before after where
  current := written.current
  directories place found := by
    rw [written.content, if_neg, found]
    rintro rfl
    exact written.vacant found
  files place found := by
    rw [written.bytes?]
    split
    · rfl
    · exact found

theorem again (first : Writes location bytes before middle) (second : Writes location other middle after) :
    Writes location other before after where
  current := second.current.trans first.current
  vacant := first.vacant
  content place := by
    rw [second.content]
    split
    · rfl
    next elsewhere => rw [first.content, if_neg elsewhere]

end Writes

theorem directory_of_follow_idle {segment : Text} (idle : segment = [] ∨ segment = ['.'] ∨ segment = ['.', '.'])
    (found : tree.follow here [segment] = .ok location) : tree.content? location = some .directory := by
  obtain ⟨directory, _, final⟩ := follow_cons_eq_ok.mp found
  cases final
  rcases idle with rfl | rfl | rfl
  · exact directory
  · exact directory
  · exact directory_dropLast directory

/-- The path names an entry of a directory, whether or not there is such an entry. -/
structure NamesEntry (tree : FileTree) (path : Path) (directory : Location) (name : Text) : Prop where
  holder : tree.content? directory = some .directory
  led : tree.follow (tree.origin path) path.segments.dropLast = .ok directory
  last : path.segments.getLast? = some name
  named : name ≠ [] ∧ name ≠ ['.'] ∧ name ≠ ['.', '.']

namespace NamesEntry

variable {directory : Location} {name : Text}

theorem enter (entry : NamesEntry tree path directory name) (here : Location) : here.enter name = here ++ [name] := by
  simp [Location.enter, entry.named]

theorem segments (entry : NamesEntry tree path directory name) : path.segments = path.segments.dropLast ++ [name] :=
  (List.dropLast_append_getLast? name entry.last).symm

theorem place (entry : NamesEntry tree path directory name) : tree.place path = directory ++ [name] := by
  rw [FileTree.place, entry.segments, List.foldl_concat, ← follow_place entry.led, entry.enter]

theorem nonempty (entry : NamesEntry tree path directory name) : path ≠ [] := by
  rintro rfl
  have last : some [] = some name := entry.last
  exact entry.named.1 (Option.some.inj last).symm

/-- The path leads to the entry once it is there. -/
theorem resolve (entry : NamesEntry tree path directory name) (grown : Grows tree after)
    (present : (after.content? (directory ++ [name])).isSome) : after.resolve path = .ok (directory ++ [name]) := by
  rw [FileTree.resolve, if_neg entry.nonempty, entry.segments, follow_append, origin, grown.current]
  refine ⟨directory, grown.follow entry.led, follow_cons_eq_ok.mpr ?_⟩
  rw [entry.enter]
  exact ⟨grown.directories directory entry.holder, present, rfl⟩

end NamesEntry

theorem target_cases (found : tree.target path = .ok location) :
    tree.content? location = some .directory ∨
    ∃ directory name, NamesEntry tree path directory name ∧ location = directory ++ [name] := by
  have idle {segment : Text} (last : path.segments.getLast? = some segment)
      (none : segment = [] ∨ segment = ['.'] ∨ segment = ['.', '.']) (led : tree.resolve path = .ok location) :
      tree.content? location = some .directory := by
    rw [resolve] at led
    split at led
    · cases led
    · rw [← List.dropLast_append_getLast? segment last, follow_append] at led
      obtain ⟨middle, _, final⟩ := led
      exact directory_of_follow_idle none final
  rw [target] at found
  split at found
  next none => exact absurd (List.getLast?_eq_none_iff.mp none) (Text.splitWhere_ne_nil _ path)
  next last => exact .inl (idle last (.inl rfl) found)
  next last => exact .inl (idle last (.inr (.inl rfl)) found)
  next last => exact .inl (idle last (.inr (.inr rfl)) found)
  next name notEmpty notDot notUp last =>
    split at found
    next => cases found
    next directory led =>
      split at found
      next entries holder =>
        cases found
        have present : tree.content? directory = some .directory := by rw [content?_eq, holder]; rfl
        exact .inr ⟨directory, name, ⟨present, led, last, notEmpty, notDot, notUp⟩, rfl⟩
      next => cases found
      next => cases found

/-- Something without entries can be put where no directory is. -/
theorem content?_put {front : Location} {name : Text} {new : Node} (holder : tree.content? front = some .directory)
    (vacant : tree.content? (front ++ [name]) ≠ some .directory) (empty : ∀ next rest, new.content? (next :: rest) = none)
    (other : Location) :
    (tree.put (front ++ [name]) new).content? other =
      if other = front ++ [name] then some new.content else tree.content? other := by
  refine Node.content?_put holder empty (fun rest nonempty => ?_) other
  by_contra something
  refine vacant (content?_above nonempty ?_)
  simpa [content?, Option.isSome_iff_ne_none] using something

theorem write_spec {bytes : ByteArray} (done : tree.write path bytes = .ok after) :
    Writes (tree.place path) bytes tree after ∧ after.resolve path = .ok (tree.place path) := by
  rw [write] at done
  split at done
  next => cases done
  next location found =>
    split at done
    next => cases done
    next noDirectory =>
      cases done
      have vacant : tree.content? location ≠ some .directory := by
        intro directory
        obtain ⟨entries, present⟩ := get?_of_directory directory
        exact noDirectory entries present
      rcases target_cases found with directory | ⟨directory, name, entry, rfl⟩
      · exact absurd directory vacant
      · have written : Writes (directory ++ [name]) bytes tree (tree.put (directory ++ [name]) (.file bytes)) :=
          ⟨rfl, vacant, content?_put entry.holder vacant fun _ _ => rfl⟩
        rw [entry.place]
        exact ⟨written, entry.resolve written.grows (by rw [written.content]; simp)⟩

/-- A copy writes to its destination, whatever it writes there. -/
theorem copy_spec {source : Path} (done : tree.copy source path = .ok after) :
    (∃ bytes, Writes (tree.place path) bytes tree after) ∧ after.resolve path = .ok (tree.place path) := by
  rw [copy] at done
  split at done
  next emptied read emptying =>
    split at done
    next bytes reread =>
      obtain ⟨first, _⟩ := write_spec emptying
      obtain ⟨second, found⟩ := write_spec done
      rw [place_of_current first.current] at second found
      exact ⟨⟨bytes, first.again second⟩, found⟩
    next => cases done
  next => cases done
  next => cases done

theorem makeDirectory_spec (done : tree.makeDirectory path = .ok after) : AddsDirectories tree after := by
  rw [makeDirectory] at done
  split at done
  next => cases done
  next location found =>
    split at done
    next => cases done
    next absent =>
      cases done
      have missing : tree.content? location = none := by simpa [content?_eq] using absent
      have vacant : tree.content? location ≠ some .directory := by simp [missing]
      rcases target_cases found with directory | ⟨directory, name, entry, rfl⟩
      · exact absurd directory vacant
      · refine ⟨rfl, fun other => ?_⟩
        rw [content?_put entry.holder vacant fun _ _ => rfl]
        split
        next here => exact .inr ⟨here ▸ missing, rfl⟩
        next => exact .inl rfl

/-- Also where a directory cannot be made, nothing but directories is new. -/
theorem makeDirectories_spec (tree : FileTree) (path : Path) : AddsDirectories tree (tree.makeDirectories path).2 := by
  fun_induction makeDirectories tree path with
  | case1 => exact .refl tree
  | case2 path _ made making => exact makeDirectory_spec making
  | case3 => exact .refl tree
  | case4 => exact .refl tree
  | case5 path _ _ _ _ parent _ _ stopped above ih =>
    rw [above] at ih
    exact ih
  | case6 path _ _ _ _ parent _ reached above made making ih =>
    rw [above] at ih
    exact ih.trans (makeDirectory_spec making)
  | case7 path _ _ _ _ parent _ reached above _ _ ih =>
    rw [above] at ih
    exact ih

end FileTree

end Literate
