import Literate.Proofs.GenerationSteps
import Literate.Proofs.SelectedFiles

/-! Runs that fail. A failure to find the input files leaves everything as it was. A failure of
one file leaves what the files before it left, and perhaps directories that were made for its
output: no file has changed on its account, least of all an output that it has from an
earlier run. -/

namespace Literate

/-- The failures of finding the files below a directory. -/
def Failure.OfListing (root : Path) : Failure → Prop
  | filter _ _ => True
  | read path _ => path = root
  | _ => False

/-- The failures of processing the file at a path. -/
def Failure.OfFile (source : Path) : Failure → Prop
  | read path _ | split path _ _ => path = source
  | write _ _ => True
  | _ => False

namespace Job

variable {α β : Type} {possible : Failure → Prop}

/-- The job fails in these ways only. -/
def FailsOnly (possible : Failure → Prop) (job : Job α) : Prop :=
  ∀ world failure after, job world = (.error failure, after) → possible failure

namespace FailsOnly

theorem bind {job : Job α} {next : α → Job β} (first : job.FailsOnly possible) (second : ∀ value, (next value).FailsOnly possible) :
    (job >>= next).FailsOnly possible := by
  intro world failure after failed
  rcases bind_eq_error.mp failed with early | ⟨value, middle, _, late⟩
  · exact first world failure after early
  · exact second value middle failure after late

theorem pure (value : α) : (Pure.pure value : Job α).FailsOnly possible := by
  rintro world failure after ⟨⟩

theorem log (level : LogLevel) (source : LogSource) (message : String) :
    (Job.log level source message).FailsOnly possible := by
  rintro world failure after ⟨⟩

theorem ofTree {compute : FileTree → Except Failure α} (fails : ∀ tree failure, compute tree = .error failure → possible failure) :
    (Job.ofTree compute).FailsOnly possible := by
  intro world failure after failed
  exact fails world.tree failure (congrArg Prod.fst failed)

theorem change {update : FileTree → Except Failure FileTree}
    (fails : ∀ tree failure, update tree = .error failure → possible failure) : (Job.change update).FailsOnly possible := by
  intro world failure after failed
  rw [Job.change] at failed
  split at failed
  next => cases failed
  next other outcome =>
    cases failed
    exact fails world.tree failure outcome

end FailsOnly

end Job

namespace Generation

variable {settings : Settings} {world after : World} {failure : Failure}

theorem sourceText_error {tree : FileTree} {path : Path} (failed : sourceText tree path = .error failure) :
    failure.OfFile path := by
  rw [sourceText] at failed
  split at failed
  next => cases failed
  next => cases failed; rfl

theorem ofFile_error {tree : FileTree} {path : Path} {layout : Layout} (failed : Chain.ofFile tree path layout = .error failure) :
    failure.OfFile path := by
  rw [Chain.ofFile] at failed
  split at failed
  next other unread =>
    cases failed
    exact sourceText_error unread
  next source _ =>
    cases outcome : Chain.ofSource source 0 layout with
    | error fault =>
      rw [outcome] at failed
      cases failed
      rfl
    | ok chain =>
      rw [outcome] at failed
      cases failed

theorem mapError_write {output : Path} {outcome : Except FileError FileTree} (source : Path)
    (failed : outcome.mapError (Failure.write output) = .error failure) : failure.OfFile source := by
  cases outcome with
  | error error => cases failed; trivial
  | ok tree => cases failed

theorem process_failsOnly (settings : Settings) (file : Input) :
    (process settings file).FailsOnly (Failure.OfFile file.path) := by
  have prepares (output : Path) : (prepare output).FailsOnly (Failure.OfFile file.path) := by
    intro world failure after failed
    rw [prepare] at failed
    split at failed
    next => cases failed
    next =>
      split at failed
      next => cases failed
      next => cases failed; trivial
  have writes (output : Path) (text : Text) : (write output text).FailsOnly (Failure.OfFile file.path) :=
    .change fun _ _ => mapError_write _
  rw [process]
  split
  · exact (prepares _).bind fun _ => (Job.FailsOnly.log _ _ _).bind fun _ =>
      (Job.FailsOnly.ofTree fun _ _ => ofFile_error).bind fun _ =>
        (Job.FailsOnly.log _ _ _).bind fun _ => (writes _ _).bind fun _ => .pure _
  · split
    · exact (prepares _).bind fun _ => (Job.FailsOnly.log _ _ _).bind fun _ =>
        (Job.FailsOnly.change fun _ _ => mapError_write _).bind fun _ => .pure _
    · split
      · exact (prepares _).bind fun _ => (Job.FailsOnly.log _ _ _).bind fun _ =>
          (Job.FailsOnly.ofTree fun _ _ => sourceText_error).bind fun _ => (writes _ _).bind fun _ => .pure _
      · exact (Job.FailsOnly.log _ _ _).bind fun _ => .pure _

theorem inputs_error {tree : FileTree} (failed : inputs settings tree = .error failure) :
    failure.OfListing settings.input := by
  rw [inputs] at failed
  cases outcome : Discovery.find tree settings.input settings.filters settings.recursive (some settings.output) with
  | ok files =>
    rw [outcome] at failed
    cases failed
  | error other =>
    rw [outcome] at failed
    cases failed
    rcases Discovery.find_eq_error.mp outcome with ⟨_, _, _, _, _, _, _, rfl⟩ | ⟨_, _, _, rfl⟩
    · trivial
    · rfl

/-- After a failure everything is as it was if the input files were not found, and otherwise
as the files processed so far have left it, but for directories. -/
theorem failed_run_keeps_earlier_work (failed : run settings world = (.error failure, after)) :
    (inputs settings world.tree = .error failure ∧ failure.OfListing settings.input ∧ after.tree = world.tree) ∨
    ∃ front file back entries reached, inputs settings world.tree = .ok (front ++ file :: back) ∧ failure.OfFile file.path ∧
      (processAll settings front).onTree world.tree = (.ok entries, reached) ∧ reached.AddsDirectories after.tree ∧
      ∀ location, after.tree.bytes? location = reached.bytes? location := by
  rcases run_cases failed with ⟨other, unlisted, same, kept⟩ | ⟨files, outcome, listed, same, processed⟩
  · cases same
    exact .inl ⟨unlisted, inputs_error unlisted, kept⟩
  · cases outcome with
    | ok entries => cases same
    | error other =>
      cases same
      obtain ⟨stopped, ran, tree⟩ := Job.onTree_eq processed
      obtain ⟨front, file, back, entries, reached, rfl, earlier, fails⟩ := processAll_error ran
      rcases process_cases settings file reached with ⟨_, final, here, directories⟩ | ⟨final, here, _⟩
      · cases fails.symm.trans here
        rw [tree] at directories
        exact .inr ⟨front, file, back, entries, reached.tree, listed, process_failsOnly settings file _ _ _ fails,
          by rw [Job.onTree, earlier], directories, directories.bytes?⟩
      · cases fails.symm.trans here

/-- A comment that is not closed: the file before it has been copied, and what was made of
the source earlier is still there. -/
theorem failed_run_keeps_work_before_open_comment :
    let settings : Settings := { input := "src".toList, output := "out".toList }
    let tree : FileTree := { root := .directory [
      ("src".toList, .directory [("a.txt".toList, .file "x".toUTF8), ("b.cs".toList, .file "/*".toUTF8)]),
      ("out".toList, .directory [("b.md".toList, .file "old".toUTF8)])] }
    ∃ failure after, run settings { tree } = (.error failure, after) ∧
      (∃ front file back entries reached, inputs settings tree = .ok (front ++ file :: back) ∧ failure.OfFile file.path ∧
        (processAll settings front).onTree tree = (.ok entries, reached) ∧ reached.AddsDirectories after.tree ∧
        ∀ location, after.tree.bytes? location = reached.bytes? location) ∧
      after.tree.bytes? ["out".toList, "a.txt".toList] = some "x".toUTF8 ∧
      after.tree.bytes? ["out".toList, "b.md".toList] = some "old".toUTF8 := by
  intro settings tree
  let files : List Input := [⟨"src".toList, "a.txt".toList⟩, ⟨"src".toList, "b.cs".toList⟩]
  have listed : inputs settings tree = .ok files := by
    apply ok_of_toOption
    simp only [inputs, Discovery.find, Location.mergeSort_eq_insertionSort]
    decide +kernel
  obtain ⟨after, ran, final⟩ := run_of_listed { tree } listed
  cases outcome : ((processAll settings files).onTree tree).1 with
  | ok entries =>
    have fails : ((processAll settings files).onTree tree).1.toOption = none := by decide +kernel
    rw [outcome] at fails
    cases fails
  | error failure =>
    rw [show ((processAll settings files).onTree tree).1 = .error failure from outcome] at ran
    refine ⟨failure, after, ran, ?_, by rw [final]; decide +kernel, by rw [final]; decide +kernel⟩
    rcases failed_run_keeps_earlier_work ran with ⟨unlisted, _⟩ | stopped
    · cases listed.symm.trans unlisted
    · exact stopped

end Generation

end Literate
