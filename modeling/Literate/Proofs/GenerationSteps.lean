import Literate.Generation
import Literate.Proofs.TreeContents

/-! What the processing of input files does to the files there are. A file that is processed
makes directories and writes its one output, or none; a file that fails makes directories at
most. A run is a sequence of such steps, so that it changes no file but its outputs, and a run
that fails has done the steps before the failure and nothing else. -/

namespace Literate

/-- What becomes of an input file if nothing fails. -/
def Entry.of (settings : Settings) (file : Input) : Entry :=
  let document := file.destination settings.output (some settings.format.extension)
  if settings.isSource file.extension? then .generated document
  else
    match settings.format with
    | .plain => .copied (file.destination settings.output none)
    | .styled => if settings.isMarkdown file.extension? then .generated document else .skipped file.path

def Entry.output? : Entry → Option Path
  | generated path | copied path => some path
  | skipped _ => none

/-- The second tree is the first one after the processing of a file with this output. -/
inductive FileTree.Produces : Option Path → FileTree → FileTree → Prop where
  | nothing {tree : FileTree} : Produces none tree tree
  | written {path : Path} {before made after : FileTree} {bytes : ByteArray} (directories : before.AddsDirectories made)
      (wrote : FileTree.Writes (before.place path) bytes made after) (found : after.resolve path = .ok (before.place path)) :
      Produces (some path) before after

theorem mapError_eq_ok {α ε ε' : Type} {wrap : ε → ε'} {result : Except ε α} {value : α} :
    result.mapError wrap = .ok value ↔ result = .ok value := by
  cases result <;> simp [Except.mapError]

namespace Job

variable {α β : Type}

/-- A job with a log that is empty at first and thrown away at the end. -/
def onTree (job : Job α) (tree : FileTree) : Except Failure α × FileTree := ((job { tree }).1, (job { tree }).2.tree)

/-- What the log says makes no difference to the job. -/
def IgnoresLog (job : Job α) : Prop := ∀ world, ((job world).1, (job world).2.tree) = job.onTree world.tree

theorem IgnoresLog.eq {job : Job α} (ignores : job.IgnoresLog) {world after : World} {result : Except Failure α}
    (done : job world = (result, after)) : job.onTree world.tree = (result, after.tree) := by
  rw [← ignores world, done]

theorem onTree_eq {job : Job α} {tree after : FileTree} {result : Except Failure α} (done : job.onTree tree = (result, after)) :
    ∃ final : World, job { tree } = (result, final) ∧ final.tree = after := by
  obtain ⟨returned, reached⟩ := Prod.mk.inj done
  exact ⟨_, Prod.ext returned rfl, reached⟩

section

variable {job : Job α} {next : α → Job β} {world middle after : World}

theorem bind_of_ok {value : α} (done : job world = (.ok value, middle)) : (job >>= next) world = next value middle := by
  simp only [bind, done]

theorem bind_of_error {failure : Failure} (failed : job world = (.error failure, middle)) :
    (job >>= next) world = (.error failure, middle) := by
  simp only [bind, failed]

theorem bind_eq_ok {result : β} : (job >>= next) world = (.ok result, after) ↔
    ∃ value middle, job world = (.ok value, middle) ∧ next value middle = (.ok result, after) := by
  rcases ran : job world with ⟨failure | value, middle⟩
  · simp [bind_of_error ran]
  · simp [bind_of_ok ran]

theorem bind_eq_error {failure : Failure} : (job >>= next) world = (.error failure, after) ↔
    job world = (.error failure, after) ∨
      ∃ value middle, job world = (.ok value, middle) ∧ next value middle = (.error failure, after) := by
  rcases ran : job world with ⟨other | value, middle⟩
  · simp [bind_of_error ran]
  · simp [bind_of_ok ran]

theorem IgnoresLog.bind (first : job.IgnoresLog) (second : ∀ value, (next value).IgnoresLog) :
    (job >>= next).IgnoresLog := by
  intro world
  rcases ran : job world with ⟨failure | value, changed⟩
  all_goals
    have quiet := first.eq ran
    rw [onTree, Prod.mk.injEq] at quiet
    rcases other : job { tree := world.tree } with ⟨result, reached⟩
    rw [other] at quiet
    obtain ⟨rfl, same⟩ := quiet
  · rw [onTree, bind_of_error ran, bind_of_error other, same]
  · calc (((job >>= next) world).1, ((job >>= next) world).2.tree)
        = ((next value changed).1, (next value changed).2.tree) := by rw [bind_of_ok ran]
      _ = (next value).onTree changed.tree := second value changed
      _ = (next value).onTree reached.tree := by rw [same]
      _ = ((next value reached).1, (next value reached).2.tree) := (second value reached).symm
      _ = (job >>= next).onTree world.tree := by rw [onTree, bind_of_ok other]

end

theorem IgnoresLog.pure (value : α) : (Pure.pure value : Job α).IgnoresLog := fun _ => rfl

theorem IgnoresLog.log (level : LogLevel) (source : LogSource) (message : String) :
    (Job.log level source message).IgnoresLog := fun _ => rfl

theorem IgnoresLog.ofTree (compute : FileTree → Except Failure α) : (Job.ofTree compute).IgnoresLog := fun _ => rfl

theorem IgnoresLog.change (update : FileTree → Except Failure FileTree) : (Job.change update).IgnoresLog := by
  intro world
  rw [onTree, Job.change, Job.change]
  cases update world.tree <;> rfl

/-- The job fails and leaves the files as they are, or it writes to one path. -/
def WritesTo (output : Path) (entry : Entry) (job : Job Entry) : Prop := ∀ world,
  (∃ failure after, job world = (.error failure, after) ∧ after.tree = world.tree) ∨
  ∃ after bytes, job world = (.ok entry, after) ∧
    FileTree.Writes (world.tree.place output) bytes world.tree after.tree ∧
    after.tree.resolve output = .ok (world.tree.place output)

namespace WritesTo

variable {output : Path} {entry : Entry}

theorem log {job : Job Entry} (writes : WritesTo output entry job) (level : LogLevel) (source : LogSource) (message : String) :
    WritesTo output entry (Job.log level source message >>= fun _ => job) :=
  fun world => writes { world with log := world.log ++ [⟨level, source, message⟩] }

theorem ofTree {compute : FileTree → Except Failure α} {next : α → Job Entry} (writes : ∀ value, WritesTo output entry (next value)) :
    WritesTo output entry (Job.ofTree compute >>= next) := by
  intro world
  cases computed : compute world.tree with
  | error failure => exact .inl ⟨failure, world, bind_of_error (Prod.ext computed rfl), rfl⟩
  | ok value =>
    have first : Job.ofTree compute world = (.ok value, world) := Prod.ext computed rfl
    rcases writes value world with ⟨failure, after, failed, kept⟩ | ⟨after, bytes, done, written⟩
    · exact .inl ⟨failure, after, (bind_of_ok first).trans failed, kept⟩
    · exact .inr ⟨after, bytes, (bind_of_ok first).trans done, written⟩

theorem change {update : FileTree → Except Failure FileTree}
    (writes : ∀ tree after, update tree = .ok after →
      (∃ bytes, FileTree.Writes (tree.place output) bytes tree after) ∧ after.resolve output = .ok (tree.place output)) :
    WritesTo output entry (Job.change update >>= fun _ => pure entry) := by
  intro world
  cases updated : update world.tree with
  | error failure =>
    have first : Job.change update world = (.error failure, world) := by rw [Job.change, updated]
    exact .inl ⟨failure, world, bind_of_error first, rfl⟩
  | ok tree =>
    have first : Job.change update world = (.ok (), { world with tree }) := by rw [Job.change, updated]
    obtain ⟨⟨bytes, written⟩, found⟩ := writes world.tree tree updated
    exact .inr ⟨_, bytes, bind_of_ok first, written, found⟩

end WritesTo

end Job

namespace Generation

variable {settings : Settings} {file : Input} {world after : World}

theorem prepare_spec (output : Path) (world : World) :
    ∃ result made, prepare output world = (result, { world with tree := made }) ∧ world.tree.AddsDirectories made := by
  rw [prepare]
  split
  next => exact ⟨.ok (), world.tree, rfl, .refl _⟩
  next parent _ =>
    have added := world.tree.makeDirectories_spec parent
    split
    next made making => exact ⟨.ok (), made, rfl, by rwa [making] at added⟩
    next error made making => exact ⟨.error (.write parent error), made, rfl, by rwa [making] at added⟩

theorem write_writesTo (output : Path) (text : Text) (entry : Entry) :
    Job.WritesTo output entry (write output text >>= fun _ => pure entry) := by
  refine .change fun tree after written => ?_
  obtain ⟨wrote, found⟩ := FileTree.write_spec (mapError_eq_ok.mp written)
  exact ⟨⟨_, wrote⟩, found⟩

theorem copy_writesTo (source output : Path) (entry : Entry) :
    Job.WritesTo output entry
      ((Job.change fun tree => (tree.copy source output).mapError (Failure.write output)) >>= fun _ => pure entry) := by
  refine .change fun tree after copied => ?_
  exact FileTree.copy_spec (mapError_eq_ok.mp copied)

/-- Making the directory of an output first is all that a failure can leave behind. -/
theorem prepared_cases {output : Path} {entry : Entry} {job : Job Entry} (writes : Job.WritesTo output entry job) (world : World) :
    (∃ failure after, (prepare output >>= fun _ => job) world = (.error failure, after) ∧
      world.tree.AddsDirectories after.tree) ∨
    ∃ after, (prepare output >>= fun _ => job) world = (.ok entry, after) ∧
      FileTree.Produces (some output) world.tree after.tree := by
  obtain ⟨result, made, prepared, directories⟩ := prepare_spec output world
  cases result with
  | error failure => exact .inl ⟨failure, _, Job.bind_of_error prepared, directories⟩
  | ok value =>
    rcases writes { world with tree := made } with ⟨failure, after, failed, kept⟩ | ⟨after, bytes, done, wrote, found⟩
    · refine .inl ⟨failure, after, (Job.bind_of_ok prepared).trans failed, ?_⟩
      rw [kept]
      exact directories
    · refine .inr ⟨after, (Job.bind_of_ok prepared).trans done, ?_⟩
      rw [FileTree.place_of_current directories.current] at wrote found
      exact .written directories wrote found

/-- All that the processing of a file can do. -/
theorem process_cases (settings : Settings) (file : Input) (world : World) :
    (∃ failure after, process settings file world = (.error failure, after) ∧ world.tree.AddsDirectories after.tree) ∨
    ∃ after, process settings file world = (.ok (.of settings file), after) ∧
      FileTree.Produces (Entry.of settings file).output? world.tree after.tree := by
  rw [process, Entry.of]
  by_cases source : settings.isSource file.extension? = true
  · rw [if_pos source, if_pos source, weave]
    refine prepared_cases ?_ world
    refine .log ?_ _ _ _
    refine .ofTree fun chain => ?_
    refine .log ?_ _ _ _
    exact write_writesTo _ _ _
  · rw [if_neg source, if_neg source]
    cases format : settings.format with
    | plain =>
      refine prepared_cases ?_ world
      refine .log ?_ _ _ _
      exact copy_writesTo _ _ _
    | styled =>
      by_cases markdown : settings.isMarkdown file.extension? = true
      · simp only [if_pos markdown, ← format, renderMarkdown]
        refine prepared_cases ?_ world
        refine .log ?_ _ _ _
        refine .ofTree fun text => ?_
        exact write_writesTo _ _ _
      · simp only [if_neg markdown]
        exact .inr ⟨_, rfl, .nothing⟩

theorem process_ignoresLog (settings : Settings) (file : Input) : (process settings file).IgnoresLog := by
  have prepares (output : Path) : (prepare output).IgnoresLog := by
    intro world
    rw [Job.onTree, prepare, prepare]
    cases output.parent? with
    | none => rfl
    | some parent =>
      dsimp only
      rcases world.tree.makeDirectories parent with ⟨_ | error, made⟩ <;> rfl
  rw [process]
  split
  · exact (prepares _).bind fun _ => (Job.IgnoresLog.log _ _ _).bind fun _ => (Job.IgnoresLog.ofTree _).bind fun _ =>
      (Job.IgnoresLog.log _ _ _).bind fun _ => (Job.IgnoresLog.change _).bind fun _ => .pure _
  · split
    · exact (prepares _).bind fun _ => (Job.IgnoresLog.log _ _ _).bind fun _ =>
        (Job.IgnoresLog.change _).bind fun _ => .pure _
    · split
      · exact (prepares _).bind fun _ => (Job.IgnoresLog.log _ _ _).bind fun _ => (Job.IgnoresLog.ofTree _).bind fun _ =>
          (Job.IgnoresLog.change _).bind fun _ => .pure _
      · exact (Job.IgnoresLog.log _ _ _).bind fun _ => .pure _

theorem processAll_ignoresLog (settings : Settings) (files : List Input) : (processAll settings files).IgnoresLog := by
  induction files with
  | nil => exact .pure []
  | cons file files ih => exact (process_ignoresLog settings file).bind fun _ => ih.bind fun _ => .pure _

theorem processAll_cons {files : List Input} {entry : Entry} {rest : List Entry} {middle : World}
    (first : process settings file world = (.ok entry, middle)) (others : processAll settings files middle = (.ok rest, after)) :
    processAll settings (file :: files) world = (.ok (entry :: rest), after) := by
  rw [processAll, Job.bind_of_ok first, Job.bind_of_ok others]
  rfl

theorem processAll_cons_ok {files : List Input} {entries : List Entry}
    (done : processAll settings (file :: files) world = (.ok entries, after)) :
    ∃ entry rest middle, process settings file world = (.ok entry, middle) ∧
      processAll settings files middle = (.ok rest, after) ∧ entries = entry :: rest := by
  obtain ⟨entry, middle, first, others⟩ := Job.bind_eq_ok.mp done
  obtain ⟨rest, reached, second, final⟩ := Job.bind_eq_ok.mp others
  cases final
  exact ⟨entry, rest, middle, first, second, rfl⟩

theorem processAll_append {front back : List Input} {entries : List Entry}
    (done : processAll settings (front ++ back) world = (.ok entries, after)) :
    ∃ first second reached, processAll settings front world = (.ok first, reached) ∧
      processAll settings back reached = (.ok second, after) ∧ entries = first ++ second := by
  induction front generalizing world entries with
  | nil => exact ⟨[], entries, world, rfl, done, rfl⟩
  | cons file front ih =>
    obtain ⟨entry, rest, middle, here, others, rfl⟩ := processAll_cons_ok done
    obtain ⟨first, second, reached, early, late, rfl⟩ := ih others
    refine ⟨entry :: first, second, reached, ?_, late, rfl⟩
    exact processAll_cons here early

/-- A failing run stops at a file: those before it are processed, those behind it are not. -/
theorem processAll_error {files : List Input} {failure : Failure}
    (failed : processAll settings files world = (.error failure, after)) :
    ∃ front file back entries reached, files = front ++ file :: back ∧
      processAll settings front world = (.ok entries, reached) ∧
      process settings file reached = (.error failure, after) := by
  induction files generalizing world with
  | nil => cases failed
  | cons file files ih =>
    rcases Job.bind_eq_error.mp failed with here | ⟨entry, middle, first, later⟩
    · exact ⟨[], file, files, [], world, rfl, rfl, here⟩
    · rcases Job.bind_eq_error.mp later with below | ⟨rest, reached, _, impossible⟩
      · obtain ⟨front, stopped, back, entries, reached, rfl, done, fails⟩ := ih below
        refine ⟨file :: front, stopped, back, entry :: entries, reached, rfl, ?_, fails⟩
        exact processAll_cons first done
      · cases impossible

/-- The world in which a run looks for its files: only the log has changed. -/
private def started (settings : Settings) (world : World) : World :=
  let message := s!"Creating documentation for files in directory: {display settings.input}"
  { world with log := world.log ++ [⟨.info, .generation, message⟩] }

private theorem run_started (settings : Settings) (world : World) :
    run settings world = (do
      let files ← Job.ofTree (inputs settings)
      let entries ← processAll settings files
      info "Done."
      return Report.ofEntries entries : Job Report) (started settings world) := rfl

theorem run_of_unlisted {failure : Failure} (unlisted : inputs settings world.tree = .error failure) :
    ∃ after, run settings world = (.error failure, after) ∧ after.tree = world.tree := by
  have looked : Job.ofTree (inputs settings) (started settings world) = (.error failure, started settings world) :=
    Prod.ext unlisted rfl
  exact ⟨_, (run_started settings world).trans (Job.bind_of_error looked), rfl⟩

/-- A run is the processing of the files it finds. -/
theorem run_of_listed (world : World) {files : List Input} (listed : inputs settings world.tree = .ok files) :
    ∃ after, run settings world = (((processAll settings files).onTree world.tree).1.map Report.ofEntries, after) ∧
      after.tree = ((processAll settings files).onTree world.tree).2 := by
  have looked : Job.ofTree (inputs settings) (started settings world) = (.ok files, started settings world) :=
    Prod.ext listed rfl
  rw [run_started, Job.bind_of_ok looked]
  rcases ran : processAll settings files (started settings world) with ⟨failure | entries, reached⟩
  all_goals
    have quiet := (processAll_ignoresLog settings files).eq ran
    rw [show (started settings world).tree = world.tree from rfl] at quiet
    rw [quiet]
  · exact ⟨_, Job.bind_of_error ran, rfl⟩
  · exact ⟨_, Job.bind_of_ok ran, rfl⟩

theorem run_of_entries (world : World) {files : List Input} {entries : List Entry}
    (listed : inputs settings world.tree = .ok files)
    (processed : ((processAll settings files).onTree world.tree).1.toOption = some entries) :
    ∃ after, run settings world = (.ok (.ofEntries entries), after) ∧
      after.tree = ((processAll settings files).onTree world.tree).2 := by
  obtain ⟨after, ran, tree⟩ := run_of_listed world listed
  rw [ok_of_toOption processed] at ran
  exact ⟨after, ran, tree⟩

/-- A run fails before it has begun, or it processes the files it finds. -/
theorem run_cases {result : Except Failure Report} (ran : run settings world = (result, after)) :
    (∃ failure, inputs settings world.tree = .error failure ∧ result = .error failure ∧ after.tree = world.tree) ∨
    ∃ files outcome, inputs settings world.tree = .ok files ∧ result = outcome.map Report.ofEntries ∧
      (processAll settings files).onTree world.tree = (outcome, after.tree) := by
  cases found : inputs settings world.tree with
  | error failure =>
    obtain ⟨final, failed, kept⟩ := run_of_unlisted found
    cases ran.symm.trans failed
    exact .inl ⟨failure, rfl, rfl, kept⟩
  | ok files =>
    obtain ⟨final, processed, tree⟩ := run_of_listed world found
    cases ran.symm.trans processed
    exact .inr ⟨files, _, rfl, rfl, Prod.ext rfl tree.symm⟩

theorem run_ok {report : Report} (done : run settings world = (.ok report, after)) :
    ∃ files entries, inputs settings world.tree = .ok files ∧
      (processAll settings files).onTree world.tree = (.ok entries, after.tree) ∧ report = .ofEntries entries := by
  rcases run_cases done with ⟨_, _, impossible, _⟩ | ⟨files, outcome, listed, same, processed⟩
  · cases impossible
  · cases outcome with
    | error failure => cases same
    | ok entries =>
      cases same
      exact ⟨files, entries, listed, processed, rfl⟩

/-- The locations that the outputs of these files go to. -/
def IsOutput (settings : Settings) (tree : FileTree) (files : List Input) (location : Location) : Prop :=
  ∃ file ∈ files, ∃ output ∈ (Entry.of settings file).output?, tree.place output = location

end Generation

namespace FileTree

/-- The second tree has everything that the first one has, with other bytes at these
locations only. -/
structure ChangesOnly (changed : Location → Prop) (before after : FileTree) : Prop where
  grows : Grows before after
  kept : ∀ location, ¬ changed location → after.bytes? location = before.bytes? location

namespace ChangesOnly

variable {changed wider : Location → Prop} {before middle after : FileTree}

theorem refl (tree : FileTree) : ChangesOnly changed tree tree := ⟨.refl tree, fun _ _ => rfl⟩

theorem trans (first : ChangesOnly changed before middle) (second : ChangesOnly changed middle after) :
    ChangesOnly changed before after where
  grows := first.grows.trans second.grows
  kept location outside := (second.kept location outside).trans (first.kept location outside)

theorem mono (changes : ChangesOnly changed before after) (wide : ∀ location, changed location → wider location) :
    ChangesOnly wider before after where
  grows := changes.grows
  kept location outside := changes.kept location fun inside => outside (wide location inside)

theorem ofDirectories (added : AddsDirectories before after) : ChangesOnly changed before after :=
  ⟨added.grows, fun location _ => added.bytes? location⟩

theorem ofProduces {output : Option Path} (produces : Produces output before after) :
    ChangesOnly (fun location => ∃ path ∈ output, before.place path = location) before after := by
  cases produces with
  | nothing => exact .refl _
  | written directories wrote found =>
    refine ⟨directories.grows.trans wrote.grows, fun location outside => ?_⟩
    rw [wrote.bytes?, if_neg, directories.bytes?]
    rintro rfl
    exact outside ⟨_, rfl, rfl⟩

end ChangesOnly

variable {tree before after : FileTree} {path : Path} {location : Location} {bytes : ByteArray}

/-- The path leads to a file with these bytes at the location. -/
structure Holds (tree : FileTree) (path : Path) (location : Location) (bytes : ByteArray) : Prop where
  led : tree.resolve path = .ok location
  found : tree.bytes? location = some bytes

theorem Holds.read (holds : tree.Holds path location bytes) : tree.read path = .ok bytes :=
  read_eq_ok.mpr ⟨location, holds.led, holds.found⟩

theorem Holds.of_directories (holds : before.Holds path location bytes) (added : AddsDirectories before after) :
    after.Holds path location bytes :=
  ⟨added.grows.resolve holds.led, (added.bytes? location).trans holds.found⟩

theorem Holds.of_changesOnly {changed : Location → Prop} (holds : before.Holds path location bytes)
    (changes : ChangesOnly changed before after) (elsewhere : ¬ changed location) : after.Holds path location bytes :=
  ⟨changes.grows.resolve holds.led, (changes.kept location elsewhere).trans holds.found⟩

theorem Holds.of_writes {place : Location} {other : ByteArray} (holds : before.Holds path location bytes)
    (written : Writes place other before after) (elsewhere : location ≠ place) : after.Holds path location bytes where
  led := written.grows.resolve holds.led
  found := by rw [written.bytes?, if_neg elsewhere, holds.found]

end FileTree

namespace Generation

variable {settings : Settings} {file : Input} {files : List Input} {world after : World}

theorem process_changesOnly (settings : Settings) (file : Input) (world : World) :
    FileTree.ChangesOnly (IsOutput settings world.tree [file]) world.tree (process settings file world).2.tree := by
  rcases process_cases settings file world with ⟨failure, after, failed, directories⟩ | ⟨after, done, produces⟩
  · rw [failed]
    exact .ofDirectories directories
  · rw [done]
    refine (FileTree.ChangesOnly.ofProduces produces).mono ?_
    rintro location ⟨path, output, named⟩
    exact ⟨file, List.mem_singleton_self file, path, output, named⟩

/-- Whether or not it fails, a run changes no files but its outputs. -/
theorem processAll_changesOnly (settings : Settings) (files : List Input) (world : World) :
    FileTree.ChangesOnly (IsOutput settings world.tree files) world.tree (processAll settings files world).2.tree := by
  induction files generalizing world with
  | nil => exact .refl _
  | cons file files ih =>
    have here : FileTree.ChangesOnly (IsOutput settings world.tree (file :: files)) world.tree
        (process settings file world).2.tree := by
      refine (process_changesOnly settings file world).mono ?_
      rintro location ⟨other, member, output⟩
      exact ⟨file, List.mem_cons_self, List.mem_singleton.mp member ▸ output⟩
    rcases ran : process settings file world with ⟨failure | entry, middle⟩
    all_goals rw [ran] at here
    · rw [processAll, Job.bind_of_error ran]
      exact here
    · have later : (processAll settings (file :: files) world).2 = (processAll settings files middle).2 := by
        rw [processAll, Job.bind_of_ok ran]
        rcases rest : processAll settings files middle with ⟨failure | entries, reached⟩
        · rw [Job.bind_of_error rest]
        · rw [Job.bind_of_ok rest]
          rfl
      rw [later]
      -- The other files start from a later tree, in which their outputs have the same places.
      refine here.trans ((ih middle).mono ?_)
      rintro location ⟨other, member, path, output, named⟩
      rw [FileTree.place_of_current here.grows.current] at named
      exact ⟨other, List.mem_cons_of_mem file member, path, output, named⟩

theorem processAll_ok {entries : List Entry} (done : processAll settings files world = (.ok entries, after)) :
    entries = files.map (.of settings) ∧ ∀ file ∈ files, ∀ path ∈ (Entry.of settings file).output?,
      after.tree.resolve path = .ok (world.tree.place path) ∧ (after.tree.bytes? (world.tree.place path)).isSome := by
  induction files generalizing world entries with
  | nil =>
    cases done
    simp
  | cons file files ih =>
    obtain ⟨entry, rest, middle, first, others, rfl⟩ := processAll_cons_ok done
    obtain ⟨rfl, outputs⟩ := ih others
    have later := (processAll_changesOnly settings files middle).grows
    rw [others] at later
    rcases process_cases settings file world with ⟨failure, _, failed, _⟩ | ⟨reached, processed, produces⟩
    · rw [failed] at first
      cases first
    · rw [processed] at first
      cases first
      have earlier := (FileTree.ChangesOnly.ofProduces produces).grows
      refine ⟨rfl, fun other member path output => ?_⟩
      rcases List.mem_cons.mp member with rfl | member
      · rw [Option.mem_def] at output
        rw [output] at produces
        cases produces with
        | written directories wrote found =>
          exact ⟨later.resolve found, later.files _ (by rw [wrote.bytes?, if_pos rfl]; rfl)⟩
      · rw [← FileTree.place_of_current earlier.current]
        exact outputs other member path output

end Generation

end Literate
