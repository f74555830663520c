import Literate.Proofs.DiscoveryWalk

/-! Directories list their entries in any order. Trees that differ in it only have the same
things at the same locations, so that paths lead to the same places and the search for input
files gives the same list. -/

namespace Literate

namespace Node

/-- The second node is the first with the entries of directories in it listed in another order. -/
inductive Reordered : Node → Node → Prop where
  | refl (node : Node) : Reordered node node
  | entries {entries others : List (Text × Node)} (perm : entries.Perm others) :
      Reordered (directory entries) (directory others)
  | inside {front back : List (Text × Node)} {name : Text} {child other : Node} (inner : Reordered child other) :
      Reordered (directory (front ++ (name, child) :: back)) (directory (front ++ (name, other) :: back))
  | trans {first second third : Node} (one : Reordered first second) (two : Reordered second third) : Reordered first third

variable {node other : Node} {entries others : List (Text × Node)}

theorem lookup_eq_some_iff_mem {name : Text} {child : Node} (once : (entries.map Prod.fst).Nodup) :
    entries.lookup name = some child ↔ (name, child) ∈ entries := by
  constructor
  · intro found
    obtain ⟨front, back, rfl, _⟩ := List.lookup_eq_some_iff.mp found
    simp
  · intro member
    obtain ⟨front, back, rfl⟩ := List.append_of_mem member
    refine List.lookup_eq_some_iff.mpr ⟨front, back, rfl, ?_⟩
    intro entry earlier
    rw [List.map_append, List.map_cons, List.nodup_append] at once
    rw [bne_iff_ne]
    exact (once.2.2 entry.1 (List.mem_map_of_mem earlier) name List.mem_cons_self).symm

theorem lookup_of_perm (perm : entries.Perm others) (once : (entries.map Prod.fst).Nodup) (name : Text) :
    others.lookup name = entries.lookup name := by
  have onceToo : (others.map Prod.fst).Nodup := (perm.map Prod.fst).nodup_iff.mp once
  apply Option.ext
  intro child
  rw [lookup_eq_some_iff_mem once, lookup_eq_some_iff_mem onceToo, perm.mem_iff]

/-- Reordering keeps what the names lead to. The names must differ: of two entries with the
same name the first is the one that is seen. -/
theorem Reordered.spec (reordered : node.Reordered other) (sound : node.WellFormed) :
    other.WellFormed ∧ ∀ location, other.content? location = node.content? location := by
  induction reordered with
  | refl => exact ⟨sound, fun _ => rfl⟩
  | @entries entries others perm =>
    cases sound with
    | directory named once inner =>
      refine ⟨.directory ?_ ((perm.map Prod.fst).nodup_iff.mp once) ?_, ?_⟩
      · intro entry member
        exact named entry (perm.mem_iff.mpr member)
      · intro entry member
        exact inner entry (perm.mem_iff.mpr member)
      · intro location
        cases location with
        | nil => rfl
        | cons name rest => rw [content?_directory_cons, content?_directory_cons, lookup_of_perm perm once]
  | @inside front back name child other _ ih =>
    cases sound with
    | directory named once inner =>
      rw [List.forall_mem_append, List.forall_mem_cons] at named inner
      obtain ⟨innerSound, same⟩ := ih inner.2.1
      refine ⟨.directory ?_ ?_ ?_, ?_⟩
      · rw [List.forall_mem_append, List.forall_mem_cons]
        exact named
      · rw [List.map_append, List.map_cons] at once ⊢
        exact once
      · rw [List.forall_mem_append, List.forall_mem_cons]
        exact ⟨inner.1, innerSound, inner.2.2⟩
      · intro location
        cases location with
        | nil => rfl
        | cons step rest =>
          rw [content?_directory_cons, content?_directory_cons, List.lookup_append, List.lookup_append,
            List.lookup_cons, List.lookup_cons]
          -- Only the lookup that ends at the changed entry meets the change.
          cases front.lookup step with
          | some first => rfl
          | none =>
            cases step == name with
            | true => exact same rest
            | false => rfl
  | trans _ _ first second =>
    obtain ⟨middle, one⟩ := first sound
    obtain ⟨final, two⟩ := second middle
    exact ⟨final, fun location => (two location).trans (one location)⟩

end Node

namespace FileTree

variable {tree other : FileTree} {path : Path}

/-- The entries of a directory. -/
def list (tree : FileTree) (path : Path) : Except FileError (List (Text × Node)) :=
  match tree.node path with
  | .error error => .error error
  | .ok (.file _) => .error .notDirectory
  | .ok (.directory entries) => .ok entries

theorem list_eq_error {error : FileError} :
    tree.list path = .error error ↔ tree.resolve path = .error error ∨ ∃ here, tree.resolve path = .ok here ∧
      (tree.content? here = none ∧ error = .missing ∨
        (∃ bytes, tree.content? here = some (.file bytes)) ∧ error = .notDirectory) := by
  rw [list, node]
  cases tree.resolve path with
  | error error => simp
  | ok here =>
    cases held : tree.get? here with
    | none => simp [content?_eq, held, eq_comm]
    | some node => cases node <;> simp [content?_eq, held, Node.content, eq_comm]

/-- The trees differ in the order only in which directories list their entries. -/
structure Reordered (tree other : FileTree) : Prop where
  current : other.current = tree.current
  root : tree.root.Reordered other.root

/-- Where paths lead depends on what stands at each location only. -/
theorem follow_of_content? (same : ∀ location, other.content? location = tree.content? location) (here : Location)
    (segments : List Text) : other.follow here segments = tree.follow here segments := by
  induction segments generalizing here with
  | nil => rfl
  | cons segment segments ih => rw [follow_cons, follow_cons, same, same, ih]

theorem resolve_of_content? (current : other.current = tree.current)
    (same : ∀ location, other.content? location = tree.content? location) (path : Path) :
    other.resolve path = tree.resolve path := by
  rw [resolve, resolve, origin, origin, current, follow_of_content? same]

namespace Reordered

theorem wellFormed (reordered : tree.Reordered other) (sound : tree.WellFormed) : other.WellFormed :=
  (reordered.root.spec sound).1

theorem content? (reordered : tree.Reordered other) (sound : tree.WellFormed) (location : Location) :
    other.content? location = tree.content? location :=
  (reordered.root.spec sound).2 location

theorem resolve (reordered : tree.Reordered other) (sound : tree.WellFormed) (path : Path) :
    other.resolve path = tree.resolve path :=
  resolve_of_content? reordered.current (reordered.content? sound) path

/-- A directory cannot be listed in one tree just if it cannot in the other. -/
theorem list_eq_error (reordered : tree.Reordered other) (sound : tree.WellFormed) {error : FileError} :
    other.list path = .error error ↔ tree.list path = .error error := by
  rw [FileTree.list_eq_error, FileTree.list_eq_error, reordered.resolve sound]
  simp only [reordered.content? sound]

end Reordered

end FileTree

end Literate
