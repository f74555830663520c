import Literate.Proofs.DiscoveryWalk
import Literate.Proofs.GenerationSteps

/-! A run keeps the tree of files well formed: what it adds has a proper name, since the pieces of
a path have no slashes, and an entry that is there is replaced and not added again. -/

namespace Literate

namespace Node

variable {node new : Node} {entries : List (Text × Node)} {name : Text}

theorem names_replaceEntry (name : Text) (new : Node) (entries : List (Text × Node)) :
    (replaceEntry name new entries).map Prod.fst =
      if name ∈ entries.map Prod.fst then entries.map Prod.fst else entries.map Prod.fst ++ [name] := by
  induction entries with
  | nil => simp [replaceEntry]
  | cons entry entries ih =>
    obtain ⟨other, old⟩ := entry
    rw [replaceEntry]
    by_cases same : other = name
    · simp [same]
    · rw [if_neg same, List.map_cons, ih]
      by_cases later : name ∈ entries.map Prod.fst
      · simp [later]
      · simp [later, Ne.symm same]

theorem mem_replaceEntry {entry : Text × Node} (member : entry ∈ replaceEntry name new entries) :
    entry = (name, new) ∨ entry ∈ entries := by
  induction entries with
  | nil => exact .inl (List.mem_singleton.mp member)
  | cons first entries ih =>
    rw [replaceEntry] at member
    split at member
    · exact (List.mem_cons.mp member).imp_right (List.mem_cons_of_mem first)
    · rcases List.mem_cons.mp member with rfl | member
      · exact .inr List.mem_cons_self
      · exact (ih member).imp_right (List.mem_cons_of_mem first)

theorem WellFormed.replaceEntry (sound : (Node.directory entries).WellFormed) (named : name.IsName) (fresh : new.WellFormed) :
    (Node.directory (Node.replaceEntry name new entries)).WellFormed := by
  cases sound with
  | directory names once inner =>
    refine .directory ?_ ?_ ?_
    · intro entry member
      rcases mem_replaceEntry member with rfl | member
      · exact named
      · exact names entry member
    · rw [names_replaceEntry]
      split
      · exact once
      next absent => simpa using List.Nodup.concat absent once
    · intro entry member
      rcases mem_replaceEntry member with rfl | member
      · exact fresh
      · exact inner entry member

theorem WellFormed.put {location : Location} (sound : node.WellFormed) (named : ∀ name ∈ location.getLast?, name.IsName)
    (fresh : new.WellFormed) : (node.put location new).WellFormed := by
  fun_induction Node.put node location new with
  | case1 => exact fresh
  | case2 => exact sound
  | case3 name entries => exact sound.replaceEntry (named name rfl) fresh
  | case4 name rest entries deeper child present ih =>
    obtain ⟨proper, inner⟩ := sound.lookup present
    refine sound.replaceEntry proper (ih inner ?_)
    intro last member
    obtain ⟨next, rest, rfl⟩ := List.exists_cons_of_ne_nil deeper
    exact named last (by rwa [List.getLast?_cons_cons])
  | case5 => exact sound

end Node

namespace FileTree

variable {tree after : FileTree} {path : Path} {location : Location} {bytes : ByteArray}

theorem NamesEntry.isName {directory : Location} {name : Text} (entry : NamesEntry tree path directory name) : name.IsName where
  ne_nil := entry.named.1
  ne_dot := entry.named.2.1
  ne_up := entry.named.2.2
  whole slash := by
    have piece : name ∈ path.segments := List.mem_of_getLast? entry.last
    simpa using Text.of_mem_splitWhere piece '/' slash

/-- What is put at the target of a path has the last piece of the path as its name. -/
theorem WellFormed.put {node : Node} (sound : tree.WellFormed) (found : tree.target path = .ok location)
    (vacant : tree.content? location ≠ some .directory) (fresh : node.WellFormed) : (tree.put location node).WellFormed := by
  rcases target_cases found with directory | ⟨directory, name, entry, rfl⟩
  · exact absurd directory vacant
  · refine Node.WellFormed.put sound ?_ fresh
    intro last member
    rw [List.getLast?_concat] at member
    cases member
    exact entry.isName

theorem WellFormed.write (sound : tree.WellFormed) (done : tree.write path bytes = .ok after) : after.WellFormed := by
  rw [FileTree.write] at done
  split at done
  next => cases done
  next location found =>
    split at done
    next => cases done
    next noDirectory =>
      cases done
      refine sound.put found ?_ (.file bytes)
      intro directory
      obtain ⟨entries, present⟩ := get?_of_directory directory
      exact noDirectory entries present

theorem WellFormed.copy {source : Path} (sound : tree.WellFormed) (done : tree.copy source path = .ok after) :
    after.WellFormed := by
  rw [FileTree.copy] at done
  split at done
  next emptied _ emptying =>
    split at done
    next => exact (sound.write emptying).write done
    next => cases done
  next => cases done
  next => cases done

theorem WellFormed.makeDirectory (sound : tree.WellFormed) (done : tree.makeDirectory path = .ok after) : after.WellFormed := by
  rw [FileTree.makeDirectory] at done
  split at done
  next => cases done
  next location found =>
    split at done
    next => cases done
    next absent =>
      cases done
      refine sound.put found ?_ Node.wellFormed_nil
      have missing : tree.content? location = none := by simpa [content?_eq] using absent
      simp [missing]

theorem WellFormed.makeDirectories (sound : tree.WellFormed) (path : Path) : (tree.makeDirectories path).2.WellFormed := by
  fun_induction FileTree.makeDirectories tree path with
  | case1 => exact sound
  | case2 path _ made making => exact sound.makeDirectory making
  | case3 => exact sound
  | case4 => exact sound
  | case5 path _ _ _ _ parent _ _ stopped above ih =>
    rw [above] at ih
    exact ih
  | case6 path _ _ _ _ parent _ reached above made making ih =>
    rw [above] at ih
    exact ih.makeDirectory making
  | case7 path _ _ _ _ parent _ reached above _ _ ih =>
    rw [above] at ih
    exact ih

end FileTree

namespace Job

variable {α β : Type} {invariant : FileTree → Prop}

/-- What holds of the files before the job holds of them afterwards, whether or not it fails. -/
def Keeps (invariant : FileTree → Prop) (job : Job α) : Prop :=
  ∀ world, invariant world.tree → invariant (job world).2.tree

theorem Keeps.bind {job : Job α} {next : α → Job β} (first : job.Keeps invariant) (second : ∀ value, (next value).Keeps invariant) :
    (job >>= next).Keeps invariant := by
  intro world holds
  have middle := first world holds
  rcases ran : job world with ⟨failure | value, changed⟩
  all_goals rw [ran] at middle
  · rw [bind_of_error ran]
    exact middle
  · rw [bind_of_ok ran]
    exact second value changed middle

theorem Keeps.pure (value : α) : (Pure.pure value : Job α).Keeps invariant := fun _ => id

theorem Keeps.log (level : LogLevel) (source : LogSource) (message : String) :
    (Job.log level source message).Keeps invariant := fun _ => id

theorem Keeps.ofTree (compute : FileTree → Except Failure α) : (Job.ofTree compute).Keeps invariant := fun _ => id

theorem Keeps.change {update : FileTree → Except Failure FileTree}
    (keeps : ∀ tree after, invariant tree → update tree = .ok after → invariant after) : (Job.change update).Keeps invariant := by
  intro world holds
  rw [Job.change]
  cases updated : update world.tree with
  | error failure => exact holds
  | ok tree => exact keeps world.tree tree holds updated

end Job

namespace Generation

theorem prepare_keeps_wellFormed (output : Path) : (prepare output).Keeps FileTree.WellFormed := by
  intro world sound
  rw [prepare]
  split
  next => exact sound
  next parent _ =>
    have made := sound.makeDirectories parent
    split
    next making => rwa [making] at made
    next making => rwa [making] at made

theorem write_keeps_wellFormed (output : Path) (text : Text) : (write output text).Keeps FileTree.WellFormed := by
  refine .change fun tree after sound written => ?_
  exact sound.write (mapError_eq_ok.mp written)

theorem process_keeps_wellFormed (settings : Settings) (file : Input) : (process settings file).Keeps FileTree.WellFormed := by
  rw [process]
  split
  · exact (prepare_keeps_wellFormed _).bind fun _ => (Job.Keeps.log _ _ _).bind fun _ => (Job.Keeps.ofTree _).bind fun _ =>
      (Job.Keeps.log _ _ _).bind fun _ => (write_keeps_wellFormed _ _).bind fun _ => .pure _
  · split
    · refine (prepare_keeps_wellFormed _).bind fun _ => (Job.Keeps.log _ _ _).bind fun _ => ?_
      refine Job.Keeps.bind (.change fun tree after sound copied => ?_) fun _ => .pure _
      exact sound.copy (mapError_eq_ok.mp copied)
    · split
      · exact (prepare_keeps_wellFormed _).bind fun _ => (Job.Keeps.log _ _ _).bind fun _ => (Job.Keeps.ofTree _).bind fun _ =>
          (write_keeps_wellFormed _ _).bind fun _ => .pure _
      · exact (Job.Keeps.log _ _ _).bind fun _ => .pure _

theorem processAll_keeps_wellFormed (settings : Settings) (files : List Input) :
    (processAll settings files).Keeps FileTree.WellFormed := by
  induction files with
  | nil => exact .pure []
  | cons file files ih => exact (process_keeps_wellFormed settings file).bind fun _ => ih.bind fun _ => .pure _

/-- Whether or not it fails, a run leaves a tree in which names are proper and differ. -/
theorem run_keeps_wellFormed (settings : Settings) : (run settings).Keeps FileTree.WellFormed := by
  refine (Job.Keeps.log _ _ _).bind fun _ => (Job.Keeps.ofTree _).bind fun files => ?_
  exact (processAll_keeps_wellFormed settings files).bind fun _ => (Job.Keeps.log _ _ _).bind fun _ => .pure _

end Generation

end Literate
