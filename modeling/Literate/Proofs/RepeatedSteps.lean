import Literate.Proofs.GenerationSteps

/-! Doing the steps of a run over. Where a step has been done, its directory is there and its output
is a file, so that it can be done again; and as long as the input file has the same bytes, the same
bytes are written. Doing all steps again therefore puts every output back as the first run left it,
also where several steps have one output. -/

namespace Literate

namespace FileTree

variable {tree before after later : FileTree} {path source : Path} {here location : Location} {bytes : ByteArray}

namespace NamesEntry

variable {directory : Location} {name : Text}

theorem target (entry : NamesEntry tree path directory name) : tree.target path = .ok (directory ++ [name]) := by
  obtain ⟨entries, holder⟩ := get?_of_directory entry.holder
  rw [FileTree.target, entry.last]
  split
  next none => cases none
  next empty => exact absurd (Option.some.inj empty) entry.named.1
  next dot => exact absurd (Option.some.inj dot) entry.named.2.1
  next up => exact absurd (Option.some.inj up) entry.named.2.2
  next last =>
    rw [entry.led]
    simp only [holder, Option.some.inj last]

theorem grows (entry : NamesEntry before path directory name) (grown : Grows before after) :
    NamesEntry after path directory name where
  holder := grown.directories directory entry.holder
  led := by
    rw [origin, grown.current]
    exact grown.follow entry.led
  last := entry.last
  named := entry.named

end NamesEntry

/-- What a path leads to is its target. -/
theorem target_of_resolve (found : tree.resolve path = .ok location) : tree.target path = .ok location := by
  rw [target]
  split
  next => exact found
  next => exact found
  next => exact found
  next => exact found
  next name notEmpty notDot notUp last =>
    have entry : ∃ directory, NamesEntry tree path directory name ∧ location = directory ++ [name] := by
      rw [resolve] at found
      split at found
      · cases found
      · rw [← List.dropLast_append_getLast? name last, follow_append] at found
        obtain ⟨directory, led, final⟩ := found
        obtain ⟨holder, _, final⟩ := follow_cons_eq_ok.mp final
        have entry : NamesEntry tree path directory name := ⟨holder, led, last, notEmpty, notDot, notUp⟩
        cases final
        exact ⟨directory, entry, entry.enter directory⟩
    obtain ⟨directory, entry, rfl⟩ := entry
    obtain ⟨entries, holder⟩ := get?_of_directory entry.holder
    rw [entry.led]
    simp only [holder]

theorem entry_of_write (done : tree.write path bytes = .ok after) :
    ∃ directory name, NamesEntry tree path directory name ∧ tree.place path = directory ++ [name] := by
  obtain ⟨written, _⟩ := write_spec done
  rw [write] at done
  split at done
  next => cases done
  next location found =>
    rcases target_cases found with directory | ⟨directory, name, entry, rfl⟩
    · obtain ⟨entries, present⟩ := get?_of_directory directory
      rw [present] at done
      cases done
    · exact ⟨directory, name, entry, entry.place⟩

/-- Where a file could be written and is there, it can be written again. -/
theorem write_again (done : before.write path bytes = .ok after) (grown : Grows before later)
    (file : (later.bytes? (before.place path)).isSome) (other : ByteArray) : ∃ final, later.write path other = .ok final := by
  obtain ⟨directory, name, entry, place⟩ := entry_of_write done
  rw [place] at file
  rw [write, (entry.grows grown).target]
  dsimp only
  split
  next entries held =>
    rw [bytes?, content?_eq, held] at file
    cases file
  next => exact ⟨_, rfl⟩

/-- A file that is copied somewhere else arrives with its bytes. -/
theorem copy_of_holds {emptied : FileTree} (holds : tree.Holds source here bytes) (apart : here ≠ tree.place path)
    (emptying : tree.write path .empty = .ok emptied) :
    ∃ after, tree.copy source path = .ok after ∧ Writes (tree.place path) bytes tree after := by
  obtain ⟨first, _⟩ := write_spec emptying
  have kept := holds.of_writes first apart
  obtain ⟨after, writing⟩ := write_again emptying first.grows (by rw [first.bytes?, if_pos rfl]; rfl) bytes
  obtain ⟨second, _⟩ := write_spec writing
  rw [place_of_current first.current] at second
  refine ⟨after, ?_, first.again second⟩
  rw [copy, holds.read, emptying]
  simp only [kept.read, writing]

theorem emptied_of_copy (done : tree.copy source path = .ok after) : ∃ emptied, tree.write path .empty = .ok emptied := by
  rw [copy] at done
  split at done
  next emptied _ emptying => exact ⟨emptied, emptying⟩
  next => cases done
  next => cases done

theorem isDirectory_iff : tree.isDirectory path = true ↔
    ∃ location, tree.resolve path = .ok location ∧ tree.content? location = some .directory := by
  rw [isDirectory, node]
  cases tree.resolve path with
  | error error => simp
  | ok location =>
    simp only [Except.ok.injEq, exists_eq_left', content?_eq]
    cases tree.get? location with
    | none => simp
    | some node => cases node <;> simp [Node.isDirectory, Node.content]

theorem Grows.isDirectory (grown : Grows before after) (present : before.isDirectory path = true) :
    after.isDirectory path = true := by
  obtain ⟨location, led, directory⟩ := isDirectory_iff.mp present
  exact isDirectory_iff.mpr ⟨location, grown.resolve led, grown.directories location directory⟩

/-- Where a directory is, none has to be made. -/
theorem makeDirectories_of_directory (present : tree.isDirectory path = true) : tree.makeDirectories path = (none, tree) := by
  obtain ⟨location, led, directory⟩ := isDirectory_iff.mp present
  obtain ⟨entries, held⟩ := get?_of_directory directory
  have standing : tree.makeDirectory path = .error .alreadyExists := by
    rw [makeDirectory, target_of_resolve led]
    simp [held]
  rw [makeDirectories]
  split
  next => rfl
  next => simp [standing]

theorem directory_of_makeDirectory (done : tree.makeDirectory path = .ok after) : after.isDirectory path = true := by
  have added := makeDirectory_spec done
  rw [makeDirectory] at done
  split at done
  next => cases done
  next location found =>
    split at done
    next => cases done
    next absent =>
      cases done
      have missing : tree.content? location = none := by simpa [content?_eq] using absent
      rcases target_cases found with directory | ⟨directory, name, entry, rfl⟩
      · rw [missing] at directory
        cases directory
      · have made : (tree.put (directory ++ [name]) (.directory [])).content? (directory ++ [name]) = some .directory := by
          rw [content?_put entry.holder (by simp [missing]) fun _ _ => rfl, if_pos rfl]
          rfl
        exact isDirectory_iff.mpr ⟨_, entry.resolve added.grows (by rw [made]; rfl), made⟩

theorem directory_of_makeDirectories {made : FileTree} (done : tree.makeDirectories path = (none, made)) (nonempty : path ≠ []) :
    made.isDirectory path = true := by
  fun_induction makeDirectories tree path with
  | case1 => exact absurd rfl nonempty
  | case2 path _ result making =>
    cases done
    exact directory_of_makeDirectory making
  | case3 path _ error making known =>
    obtain ⟨present, rfl⟩ : tree.isDirectory path = true ∧ tree = made := by simpa using done
    exact present
  | case4 => cases done
  | case5 => cases done
  | case6 path _ _ _ _ parent _ above reached result making =>
    cases done
    exact directory_of_makeDirectory making
  | case7 path _ _ _ _ parent _ above reached error making =>
    obtain ⟨known, rfl⟩ := Prod.mk.inj done
    by_contra absent
    simp [absent] at known

end FileTree

/-- The job fails or writes to its output. If it has succeeded, then in any later tree in which the
source has the same bytes it succeeds again, and writes what it wrote the first time. -/
structure Job.Repeats (source output : Path) (entry : Entry) (job : Job Entry) : Prop where
  writes : Job.WritesTo output entry job
  again : ∀ {world reached later : World} {here : Location} {bytes : ByteArray},
    world.tree.Holds source here bytes → later.tree.Holds source here bytes → here ≠ world.tree.place output →
    job world = (.ok entry, reached) → FileTree.Grows reached.tree later.tree →
    ∃ final made, job later = (.ok entry, final) ∧ reached.tree.bytes? (world.tree.place output) = some made ∧
      FileTree.Writes (world.tree.place output) made later.tree final.tree

namespace Job.Repeats

variable {source output : Path} {entry : Entry}

theorem grows {job : Job Entry} (repeats : job.Repeats source output entry) {world reached : World}
    (done : job world = (.ok entry, reached)) : FileTree.Grows world.tree reached.tree := by
  rcases repeats.writes world with ⟨_, _, failed, _⟩ | ⟨_, _, succeeded, written, _⟩
  · cases done.symm.trans failed
  · cases done.symm.trans succeeded
    exact written.grows

theorem log {job : Job Entry} (repeats : job.Repeats source output entry) (level : LogLevel) (origin : LogSource)
    (message : String) : Job.Repeats source output entry (Job.log level origin message >>= fun _ => job) where
  writes := repeats.writes.log level origin message
  again {world reached later here bytes} held heldLater apart done grown :=
    let logged (world : World) : World := { world with log := world.log ++ [⟨level, origin, message⟩] }
    @again _ _ _ _ repeats (logged world) reached (logged later) here bytes held heldLater apart done grown

/-- What is computed from the source is the same the second time. -/
theorem ofTree {α : Type} {compute : FileTree → Except Failure α} {next : α → Job Entry}
    (reads : ∀ {first second : FileTree} {here : Location} {bytes : ByteArray},
      first.Holds source here bytes → second.Holds source here bytes → compute first = compute second)
    (repeats : ∀ value, (next value).Repeats source output entry) :
    Job.Repeats source output entry (Job.ofTree compute >>= next) where
  writes := .ofTree fun value => (repeats value).writes
  again held heldLater apart done grown := by
    obtain ⟨value, middle, first, second⟩ := Job.bind_eq_ok.mp done
    obtain ⟨computed, rfl⟩ := Prod.mk.inj first
    have same : Job.ofTree compute _ = (.ok value, _) := Prod.ext ((reads held heldLater).symm.trans computed) rfl
    rw [Job.bind_of_ok same]
    exact (repeats value).again held heldLater apart second grown

theorem change {update : FileTree → Except Failure FileTree}
    (writes : Job.WritesTo output entry (Job.change update >>= fun _ => pure entry))
    (again : ∀ {before after later : FileTree} {here : Location} {bytes : ByteArray},
      before.Holds source here bytes → later.Holds source here bytes → here ≠ before.place output →
      update before = .ok after → FileTree.Grows after later →
      ∃ final made, update later = .ok final ∧ after.bytes? (before.place output) = some made ∧
        FileTree.Writes (before.place output) made later final) :
    Job.Repeats source output entry (Job.change update >>= fun _ => pure entry) where
  writes := writes
  again {world reached later here bytes} held heldLater apart done grown := by
    obtain ⟨value, middle, first, second⟩ := Job.bind_eq_ok.mp done
    cases second
    rw [Job.change] at first
    cases updated : update world.tree with
    | error failure =>
      rw [updated] at first
      cases first
    | ok after =>
      rw [updated] at first
      cases first
      obtain ⟨final, made, same, bytes, written⟩ := again held heldLater apart updated grown
      have changed : Job.change update later = (.ok (), { later with tree := final }) := by rw [Job.change, same]
      exact ⟨_, made, Job.bind_of_ok changed, bytes, written⟩

end Job.Repeats

namespace Generation

variable {settings : Settings} {file : Input} {world after later : World}

theorem write_repeats (source output : Path) (text : Text) (entry : Entry) :
    Job.Repeats source output entry (write output text >>= fun _ => pure entry) := by
  apply Job.Repeats.change (write_writesTo output text entry)
  intro before after later here bytes _ _ _ done grown
  have first := mapError_eq_ok.mp done
  obtain ⟨written, _⟩ := FileTree.write_spec first
  have file : after.bytes? (before.place output) = some (String.ofList text).toUTF8 := by rw [written.bytes?, if_pos rfl]
  have standing := grown.files (before.place output) (by rw [file]; rfl)
  obtain ⟨final, again⟩ := FileTree.write_again first (written.grows.trans grown) standing (String.ofList text).toUTF8
  obtain ⟨rewritten, _⟩ := FileTree.write_spec again
  rw [FileTree.place_of_current (grown.current.trans written.current)] at rewritten
  exact ⟨final, _, mapError_eq_ok.mpr again, file, rewritten⟩

theorem copy_repeats (source output : Path) (entry : Entry) :
    Job.Repeats source output entry
      ((Job.change fun tree => (tree.copy source output).mapError (Failure.write output)) >>= fun _ => pure entry) := by
  apply Job.Repeats.change (copy_writesTo source output entry)
  intro before after later here bytes held heldLater apart done grown
  have first := mapError_eq_ok.mp done
  obtain ⟨emptied, emptying⟩ := FileTree.emptied_of_copy first
  obtain ⟨result, copied, written⟩ := FileTree.copy_of_holds held apart emptying
  cases first.symm.trans copied
  have file : after.bytes? (before.place output) = some bytes := by rw [written.bytes?, if_pos rfl]
  have standing := grown.files (before.place output) (by rw [file]; rfl)
  have place := FileTree.place_of_current (grown.current.trans written.current) output
  obtain ⟨emptiedLater, emptyingLater⟩ := FileTree.write_again emptying (written.grows.trans grown) standing .empty
  obtain ⟨final, again, rewritten⟩ := FileTree.copy_of_holds heldLater (by rwa [place]) emptyingLater
  rw [place] at rewritten
  exact ⟨final, bytes, mapError_eq_ok.mpr again, file, rewritten⟩

/-- The directory of the output is there the second time. -/
theorem prepare_again {output : Path} {made : World} (prepared : prepare output world = (.ok (), made))
    (grown : FileTree.Grows made.tree later.tree) : prepare output later = (.ok (), later) := by
  rw [prepare] at prepared ⊢
  split
  next => rfl
  next parent found =>
    rw [found] at prepared
    have standing : later.tree.makeDirectories parent = (none, later.tree) := by
      by_cases here : parent = []
      · rw [FileTree.makeDirectories, if_pos here]
      · apply FileTree.makeDirectories_of_directory
        apply grown.isDirectory
        dsimp only at prepared
        split at prepared
        next tree making =>
          cases prepared
          exact FileTree.directory_of_makeDirectories making here
        next => cases prepared
    rw [standing]

theorem prepared_again {source output : Path} {entry : Entry} {job : Job Entry} (repeats : job.Repeats source output entry)
    {world reached later : World} {here : Location} {bytes : ByteArray} (held : world.tree.Holds source here bytes)
    (heldLater : later.tree.Holds source here bytes) (apart : here ≠ world.tree.place output)
    (done : (prepare output >>= fun _ => job) world = (.ok entry, reached)) (grown : FileTree.Grows reached.tree later.tree) :
    ∃ final made, (prepare output >>= fun _ => job) later = (.ok entry, final) ∧
      reached.tree.bytes? (world.tree.place output) = some made ∧
      FileTree.Writes (world.tree.place output) made later.tree final.tree := by
  obtain ⟨value, middle, first, second⟩ := Job.bind_eq_ok.mp done
  obtain ⟨result, made, prepared, added⟩ := prepare_spec output world
  cases first.symm.trans prepared
  rw [← FileTree.place_of_current added.current output] at apart ⊢
  rw [Job.bind_of_ok (prepare_again first ((repeats.grows second).trans grown))]
  exact repeats.again (held.of_directories added) heldLater apart second grown

theorem sourceText_same {first second : FileTree} {source : Path} {here : Location} {bytes : ByteArray}
    (held : first.Holds source here bytes) (heldAgain : second.Holds source here bytes) :
    sourceText first source = sourceText second source := by
  rw [sourceText, sourceText, FileTree.readText, FileTree.readText, held.read, heldAgain.read]

theorem ofFile_same {first second : FileTree} {source : Path} {layout : Layout} {here : Location} {bytes : ByteArray}
    (held : first.Holds source here bytes) (heldAgain : second.Holds source here bytes) :
    Chain.ofFile first source layout = Chain.ofFile second source layout := by
  rw [Chain.ofFile, Chain.ofFile, sourceText_same held heldAgain]

/-- A file with an output is a directory to make and a job that can be repeated. -/
theorem process_prepared {output : Path} (named : (Entry.of settings file).output? = some output) :
    ∃ job, process settings file = (prepare output >>= fun _ => job) ∧ job.Repeats file.path output (.of settings file) := by
  rw [process]
  rw [Entry.of] at named ⊢
  by_cases source : settings.isSource file.extension? = true
  · rw [if_pos source] at named
    rw [if_pos source, if_pos source]
    cases named
    refine ⟨_, rfl, ?_⟩
    apply Job.Repeats.log
    apply Job.Repeats.ofTree ofFile_same
    intro chain
    apply Job.Repeats.log
    exact write_repeats _ _ _ _
  · rw [if_neg source] at named
    rw [if_neg source, if_neg source]
    cases format : settings.format with
    | plain =>
      rw [format] at named
      cases named
      refine ⟨_, rfl, ?_⟩
      apply Job.Repeats.log
      exact copy_repeats _ _ _
    | styled =>
      rw [format] at named
      by_cases markdown : settings.isMarkdown file.extension? = true
      · simp only [if_pos markdown, ← format] at named ⊢
        cases named
        refine ⟨_, rfl, ?_⟩
        apply Job.Repeats.log
        apply Job.Repeats.ofTree sourceText_same
        intro text
        exact write_repeats _ _ _ _
      · simp [markdown, Entry.output?] at named

/-- A file without an output is passed over. -/
theorem process_skipped (unnamed : (Entry.of settings file).output? = none) (world : World) :
    ∃ after, process settings file world = (.ok (.of settings file), after) ∧ after.tree = world.tree := by
  rw [process]
  rw [Entry.of] at unnamed ⊢
  by_cases source : settings.isSource file.extension? = true
  · rw [if_pos source] at unnamed
    cases unnamed
  · rw [if_neg source] at unnamed
    rw [if_neg source, if_neg source]
    cases format : settings.format with
    | plain =>
      rw [format] at unnamed
      cases unnamed
    | styled =>
      rw [format] at unnamed
      by_cases markdown : settings.isMarkdown file.extension? = true
      · simp [markdown, Entry.output?] at unnamed
      · simp only [if_neg markdown]
        exact ⟨_, rfl, rfl⟩

theorem isOutput_cons {tree : FileTree} {files : List Input} {location : Location} :
    IsOutput settings tree (file :: files) location ↔ IsOutput settings tree [file] location ∨ IsOutput settings tree files location := by
  simp [IsOutput]

theorem isOutput_of_current {before after : FileTree} (same : after.current = before.current) {files : List Input}
    {location : Location} : IsOutput settings after files location ↔ IsOutput settings before files location := by
  simp only [IsOutput, FileTree.place_of_current same]

/-- The outputs are as the first run has left them, and everything else is as it was found. -/
structure PutsBack (written : Location → Prop) (first found final : FileTree) : Prop where
  grows : FileTree.Grows found final
  restored : ∀ location, written location → ∃ bytes, first.bytes? location = some bytes ∧ final.bytes? location = some bytes
  kept : ∀ location, ¬ written location → final.content? location = found.content? location

namespace PutsBack

variable {written : Location → Prop} {first found final : FileTree} {here : Location}

theorem bytes? (back : PutsBack written first found final) (elsewhere : ¬ written here) : final.bytes? here = found.bytes? here := by
  rw [FileTree.bytes?, back.kept here elsewhere, ← FileTree.bytes?]

theorem holds {path : Path} {bytes : ByteArray} (back : PutsBack written first found final) (held : found.Holds path here bytes)
    (elsewhere : ¬ written here) : final.Holds path here bytes :=
  ⟨back.grows.resolve held.led, (back.bytes? elsewhere).trans held.found⟩

end PutsBack

theorem process_again {reached : World} (done : process settings file world = (.ok (.of settings file), reached))
    (grown : FileTree.Grows reached.tree later.tree) {here : Location} {bytes : ByteArray}
    (held : world.tree.Holds file.path here bytes) (heldLater : later.tree.Holds file.path here bytes)
    (apart : ¬ IsOutput settings world.tree [file] here) :
    ∃ final, process settings file later = (.ok (.of settings file), final) ∧
      PutsBack (IsOutput settings world.tree [file]) reached.tree later.tree final.tree := by
  cases named : (Entry.of settings file).output? with
  | none =>
    obtain ⟨final, skipped, kept⟩ := process_skipped named later
    refine ⟨final, skipped, kept ▸ .refl _, ?_, fun _ _ => by rw [kept]⟩
    intro location
    simp [IsOutput, named]
  | some output =>
    obtain ⟨job, prepared, repeats⟩ := process_prepared named
    have alone (location : Location) : IsOutput settings world.tree [file] location ↔ location = world.tree.place output := by
      simp [IsOutput, named, eq_comm]
    rw [alone] at apart
    rw [prepared] at done ⊢
    obtain ⟨final, made, again, bytes, written⟩ := prepared_again repeats held heldLater apart done grown
    refine ⟨final, again, written.grows, ?_, ?_⟩
    · intro location output
      rw [alone] at output
      exact ⟨made, output ▸ bytes, by rw [written.bytes?, if_pos output]⟩
    · intro location elsewhere
      rw [alone] at elsewhere
      rw [written.content, if_neg elsewhere]

/-- The steps of a run that has succeeded can be done again on what they have left. They put back
what they wrote, and leave everything else as they find it. -/
theorem processAll_again {files : List Input} {entries : List Entry} (done : processAll settings files world = (.ok entries, after))
    (grown : FileTree.Grows after.tree later.tree)
    (sources : ∀ file ∈ files, ∃ here bytes, world.tree.Holds file.path here bytes ∧ later.tree.Holds file.path here bytes ∧
      ¬ IsOutput settings world.tree files here) :
    ∃ final, processAll settings files later = (.ok entries, final) ∧
      PutsBack (IsOutput settings world.tree files) after.tree later.tree final.tree := by
  induction files generalizing world later entries with
  | nil =>
    cases done
    exact ⟨later, rfl, .refl _, fun location output => by simp [IsOutput] at output, fun _ _ => rfl⟩
  | cons file files ih =>
    obtain ⟨entry, rest, middle, first, others, rfl⟩ := processAll_cons_ok done
    obtain rfl : entry = .of settings file := by
      rcases process_cases settings file world with ⟨_, _, failed, _⟩ | ⟨_, processed, _⟩
      · cases failed.symm.trans first
      · cases processed.symm.trans first
        rfl
    have here := process_changesOnly settings file world
    have below := processAll_changesOnly settings files middle
    rw [first] at here
    rw [others] at below
    have same {location : Location} : IsOutput settings middle.tree files location ↔ IsOutput settings world.tree files location :=
      isOutput_of_current here.grows.current
    have apart {location : Location} (outside : ¬ IsOutput settings world.tree (file :: files) location) :
        ¬ IsOutput settings world.tree [file] location ∧ ¬ IsOutput settings world.tree files location :=
      not_or.mp fun either => outside (isOutput_cons.mpr either)
    obtain ⟨step, againFirst, back⟩ : ∃ step, process settings file later = (.ok (.of settings file), step) ∧
        PutsBack (IsOutput settings world.tree [file]) middle.tree later.tree step.tree := by
      obtain ⟨location, bytes, held, heldLater, outside⟩ := sources file List.mem_cons_self
      exact process_again first (below.grows.trans grown) held heldLater (apart outside).1
    have remaining : ∀ other ∈ files, ∃ location bytes, middle.tree.Holds other.path location bytes ∧
        step.tree.Holds other.path location bytes ∧ ¬ IsOutput settings middle.tree files location := by
      intro other member
      obtain ⟨location, bytes, held, heldLater, outside⟩ := sources other (List.mem_cons_of_mem file member)
      obtain ⟨elsewhere, unwritten⟩ := apart outside
      exact ⟨location, bytes, held.of_changesOnly here elsewhere, back.holds heldLater elsewhere, fun output => unwritten (same.mp output)⟩
    obtain ⟨final, againRest, backRest⟩ := ih others (grown.trans back.grows) remaining
    refine ⟨final, processAll_cons againFirst againRest, back.grows.trans backRest.grows, ?_, ?_⟩
    · intro location output
      by_cases rewritten : IsOutput settings middle.tree files location
      · exact backRest.restored location rewritten
      · -- No later step has written to this output of the first file, neither the first time nor now.
        obtain ⟨bytes, made, again⟩ := back.restored location ((isOutput_cons.mp output).resolve_right (rewritten ∘ same.mpr))
        exact ⟨bytes, (below.kept location rewritten).trans made, (backRest.bytes? rewritten).trans again⟩
    · intro location outside
      obtain ⟨elsewhere, unwritten⟩ := apart outside
      rw [backRest.kept location fun output => unwritten (same.mp output), back.kept location elsewhere]

end Generation

end Literate
