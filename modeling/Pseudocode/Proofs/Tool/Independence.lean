import Pseudocode.Proofs.FileSystem.Effect
import Pseudocode.Proofs.Tool.Job

/-! Two jobs that do not write what the other reads or writes can be done in either order. -/

namespace Pseudocode

namespace Job

variable {job : Job} {machine after : Machine} {ending : Ending} {files other : FileSystem}

/-- What a job tells of a fault does not depend on the files, nor on the flag that it finds. -/
theorem compiled_congr (job : Job) (machine : Machine) (other : FileSystem) (flag : Bool)
    (program : String) (files left : FileSystem) :
    job.compiled { machine with files := other, flag } program left
      = { job.compiled machine program files with files := left } := by
  -- The flag is lowered and the files are replaced, so nothing of the two is left.
  unfold compiled Machine.told
  split <;> rfl

/-- In two file systems, a job gets the same answers and has its output at the same place. -/
structure FindsSame (job : Job) (files other : FileSystem) : Prop where
  workDir : other.workDir = files.workDir
  limits : other.limits = files.limits
  openingInput : other.openInput job.input = files.openInput job.input
  reading : ∀ input, files.openInput job.input = .granted input →
    other.contents? input = files.contents? input
  opening : other.opensAs job.output = files.opensAs job.output

namespace FindsSame

/-- The same is read from the input in both file systems. -/
theorem reads (same : job.FindsSame files other) {source : ByteArray}
    (reading : files.Reads job.input source) : other.Reads job.input source := by
  obtain ⟨input, openingInput, contents⟩ := reading
  -- The input is opened as before, and the same is read from it.
  exact ⟨input, same.openingInput.trans openingInput, (same.reading input openingInput).trans contents⟩

/-- The output is opened in both file systems or in none, and at the same place. -/
theorem openOutput_eq (same : job.FindsSame files other) :
    other.openOutput job.output
      = match files.openOutput job.output with
        | .granted (place, _) => .granted (place, Effect.make.apply place other)
        | .refused => .refused
        | .malformed => .malformed := by
  -- What the output opens as decides the answer, and its place is the same.
  rw [FileSystem.openOutput_eq other, FileSystem.openOutput_eq files, same.opening,
    FileSystem.locate_congr same.workDir]
  cases files.opensAs job.output <;> rfl

/-- An output that is opened in the one file system is opened, and made if missing, in the other. -/
theorem openOutput_granted (same : job.FindsSame files other) {place : Location}
    {opened : FileSystem} (opening : files.openOutput job.output = .granted (place, opened)) :
    other.openOutput job.output = .granted (place, Effect.make.apply place other) := by
  rw [same.openOutput_eq, opening]

/-- An opened output can be cut in both file systems or in none. -/
theorem cut_eq_none (same : job.FindsSame files other) {place : Location} {opened : FileSystem}
    (opening : files.openOutput job.output = .granted (place, opened))
    (noCut : opened.cut place = none) : (Effect.make.apply place other).cut place = none := by
  obtain ⟨rfl, rfl, device?, found⟩ := FileSystem.openOutput_eq_make opening
  have alsoFound := same.opening.trans found
  have located := FileSystem.locate_congr same.workDir job.output
  cases device? with
  | none =>
    -- A file can always be cut.
    rw [FileSystem.cut_make_of_file found] at noCut
    contradiction
  | some device =>
    rw [FileSystem.cut_make_of_device found] at noCut
    rw [← located, FileSystem.cut_make_of_device alsoFound]
    split at noCut
    · contradiction
    · rename_i uncut
      rw [if_neg uncut]

end FindsSame

/-- Replacing what an output holds has an effect, and would be the same where the job finds the same. -/
theorem exists_effect_append {place : Location} {opened emptied : FileSystem}
    (opening : files.openOutput job.output = .granted (place, opened))
    (cutting : opened.cut place = some emptied) (bytes : ByteArray) :
    ∃ effect : Effect, (emptied.append place bytes).2 = effect.apply place files ∧
      ∀ other, job.FindsSame files other →
        ∃ otherEmptied, (Effect.make.apply place other).cut place = some otherEmptied ∧
          otherEmptied.append place bytes
            = ((emptied.append place bytes).1, effect.apply place other) := by
  obtain ⟨rfl, rfl, device?, found⟩ := FileSystem.openOutput_eq_make opening
  obtain ⟨effect, left, again⟩ := FileSystem.exists_effect_append found cutting bytes
  -- The job finds its output to be the same, and with the same limit.
  exact ⟨effect, left, fun other same =>
    again other same.workDir same.limits (same.opening.trans found)⟩

/-- A job that leaves the files alone has no effect, here and where it finds the same. -/
private theorem exists_effect_keep (left : after.files = machine.files)
    (again : ∀ other flag, job.FindsSame machine.files other →
      job.Goes { machine with files := other, flag } ending { after with files := other }) :
    ∃ effect : Effect,
      after.files = effect.apply (machine.files.locate job.output) machine.files ∧
      ∀ other flag, job.FindsSame machine.files other →
        job.Goes { machine with files := other, flag } ending
          { after with files := effect.apply (machine.files.locate job.output) other } := by
  -- No effect is felt anywhere, in whichever of the file systems.
  refine ⟨.keep, by rw [Effect.apply_keep, left], fun other flag same => ?_⟩
  rw [Effect.apply_keep]
  exact again other flag same

/--
A job that gets as far as writing the code has an effect, here and where it finds the same.

The bytes that the output leaves of the code decide how it goes on, and they are the same in both.
-/
private theorem exists_effect_of_append {program : String} {place : Location}
    {opened emptied : FileSystem} (finish : Machine → Machine)
    (keepsFiles : ∀ machine files, finish { machine with files } = { finish machine with files })
    (opening : machine.files.openOutput job.output = .granted (place, opened))
    (cutting : opened.cut place = some emptied)
    (again : ∀ other flag otherEmptied, job.FindsSame machine.files other →
      (Effect.make.apply place other).cut place = some otherEmptied →
      (otherEmptied.append place (codeBytes program)).1
        = (emptied.append place (codeBytes program)).1 →
      job.Goes { machine with files := other, flag } ending
        (finish (job.compiled { machine with files := other, flag } program
          (otherEmptied.append place (codeBytes program)).2))) :
    ∃ effect : Effect,
      (finish (job.compiled machine program (emptied.append place (codeBytes program)).2)).files
        = effect.apply (machine.files.locate job.output) machine.files ∧
      ∀ other flag, job.FindsSame machine.files other →
        job.Goes { machine with files := other, flag } ending
          { finish (job.compiled machine program (emptied.append place (codeBytes program)).2) with
            files := effect.apply (machine.files.locate job.output) other } := by
  obtain ⟨effect, left, appending⟩ := exists_effect_append opening cutting (codeBytes program)
  obtain ⟨rfl, -⟩ := FileSystem.openOutput_eq_make opening
  refine ⟨effect, ?_, fun other flag same => ?_⟩
  · rw [← left]
    exact congrArg Machine.files (keepsFiles (job.compiled machine program machine.files) _)
  · obtain ⟨otherEmptied, alsoCut, appended⟩ := appending other same
    have goes := again other flag otherEmptied same alsoCut (by rw [appended])
    rw [appended, job.compiled_congr machine other flag program
      (emptied.append _ (codeBytes program)).2, keepsFiles] at goes
    exact goes

/--
All that a job does to the files is an effect at the place of its output.

It would go the same way, with the same effect, on any files in which it finds the same.
-/
theorem Goes.exists_effect (goes : job.Goes machine ending after) :
    ∃ effect : Effect,
      after.files = effect.apply (machine.files.locate job.output) machine.files ∧
      ∀ other flag, job.FindsSame machine.files other →
        job.Goes { machine with files := other, flag } ending
          { after with files := effect.apply (machine.files.locate job.output) other } := by
  cases goes with
  | inputMalformed openingInput =>
    exact exists_effect_keep rfl fun other flag same =>
      .inputMalformed (same.openingInput.trans openingInput)
  | inputRefused openingInput =>
    exact exists_effect_keep rfl fun other flag same =>
      .inputRefused (same.openingInput.trans openingInput)
  | outputMalformed openingInput opening =>
    exact exists_effect_keep rfl fun other flag same =>
      .outputMalformed (same.openingInput.trans openingInput) (by rw [same.openOutput_eq, opening])
  | outputRefused openingInput opening =>
    exact exists_effect_keep rfl fun other flag same =>
      .outputRefused (same.openingInput.trans openingInput) (by rw [same.openOutput_eq, opening])
  | @notRead input place files openingInput opening noEnd =>
    -- The output is opened before the input is read, and is made if it is missing.
    obtain ⟨rfl, rfl, -⟩ := FileSystem.openOutput_eq_make opening
    exact ⟨.make, rfl, fun other flag same =>
      .notRead (same.openingInput.trans openingInput) (same.openOutput_granted opening)
        ((same.reading input openingInput).trans noEnd)⟩
  | notText reading opening noText =>
    obtain ⟨rfl, rfl, -⟩ := FileSystem.openOutput_eq_make opening
    exact ⟨.make, rfl, fun other flag same =>
      .notText (same.reads reading) (same.openOutput_granted opening) noText⟩
  | @notCut program place files reading opening noCut =>
    obtain ⟨rfl, made, -⟩ := FileSystem.openOutput_eq_make opening
    refine ⟨.make, made, fun other flag same => ?_⟩
    have goes : job.Goes { machine with files := other, flag } .failure _ :=
      .notCut (same.reads reading) (same.openOutput_granted opening)
        (same.cut_eq_none opening noCut)
    rw [job.compiled_congr machine other flag program files] at goes
    exact goes
  | @notWritten program place files emptied reading opening cutting refuses =>
    refine exists_effect_of_append
      (fun machine => machine.warned ⟨Problem.writingFailed.message, none⟩) (fun _ _ => rfl)
      opening cutting fun other flag otherEmptied same alsoCut left => ?_
    exact .notWritten (same.reads reading) (same.openOutput_granted opening) alsoCut
      (by rw [left]; exact refuses)
  | @notClosed program place files emptied reading opening cutting accepts notTaken =>
    refine exists_effect_of_append id (fun _ _ => rfl)
      opening cutting fun other flag otherEmptied same alsoCut left => ?_
    exact .notClosed (same.reads reading) (same.openOutput_granted opening) alsoCut
      (by rw [left]; exact accepts) (by rw [FileSystem.Takes, left]; exact notTaken)
  | @written program place files emptied reading opening cutting taken =>
    refine exists_effect_of_append
      (fun after => { after with output := (job.announced machine).output ++ "DONE!\n" })
      (fun _ _ => rfl) opening cutting fun other flag otherEmptied same alsoCut left => ?_
    exact .written (same.reads reading) (same.openOutput_granted opening) alsoCut
      (by rw [FileSystem.Takes, left]; exact taken)

/-- A job finds the same after an effect at a place other than that of its input. -/
theorem findsSame_apply (effect : Effect) {place : Location}
    (apart : place ≠ files.locate job.input) : job.FindsSame files (effect.apply place files) where
  workDir := effect.workDir_apply place files
  limits := effect.limits_apply place files
  openingInput := FileSystem.openInput_apply effect apart
  reading := fun input openingInput => by
    -- The input has been opened at the place that its path names.
    rw [← (FileSystem.openInput_cases openingInput).1] at apart
    exact FileSystem.contents?_apply effect apart
  -- What the output opens as stays the same, even if the effect is felt at its place.
  opening := FileSystem.opensAs_apply effect place files job.output

end Job

/-- A step that does a job has an effect, and would be the same where the job finds the same. -/
theorem Session.step_job_effect (before : Machine) (job : Job) :
    ∃ effect : Effect,
      (step before (.job job)).2.files
        = effect.apply (before.files.locate job.output) before.files ∧
      ∀ other : Machine, job.FindsSame before.files other.files →
        step other (.job job)
          = ((step before (.job job)).1,
              { (step before (.job job)).2 with
                files := effect.apply (before.files.locate job.output) other.files }) := by
  obtain ⟨ending, goes, replied⟩ := job.goes_step before
  obtain ⟨effect, left, again⟩ := goes.exists_effect
  refine ⟨effect, left, fun other same => ?_⟩
  rw [replied]
  -- Nothing is on the outputs when a step begins, so only the files and the flag can differ.
  exact (again other.files other.flag same).step_eq

/--
Two jobs can be done in either order if neither writes where the other reads or writes.

Both orders end with the same files, and each job replies and prints the same in both.
This holds whether the jobs succeed or fail, and although a job that fails may make its output.
-/
theorem step_jobs_comm (before : Machine) (first second : Job)
    (keepsInput : before.files.locate first.output ≠ before.files.locate second.input)
    (keepsOutput : before.files.locate first.output ≠ before.files.locate second.output)
    (inputKept : before.files.locate second.output ≠ before.files.locate first.input) :
    let firstAlone := Session.step before (.job first)
    let secondAfter := Session.step firstAlone.2 (.job second)
    let secondAlone := Session.step before (.job second)
    let firstAfter := Session.step secondAlone.2 (.job first)
    secondAfter.2.files = firstAfter.2.files ∧
    (firstAfter.1 = firstAlone.1 ∧ firstAfter.2.output = firstAlone.2.output ∧
      firstAfter.2.errors = firstAlone.2.errors ∧ firstAfter.2.flag = firstAlone.2.flag) ∧
    (secondAfter.1 = secondAlone.1 ∧ secondAfter.2.output = secondAlone.2.output ∧
      secondAfter.2.errors = secondAlone.2.errors ∧ secondAfter.2.flag = secondAlone.2.flag) := by
  intro firstAlone secondAfter secondAlone firstAfter
  obtain ⟨effect, firstFiles, firstAgain⟩ := Session.step_job_effect before first
  obtain ⟨otherEffect, secondFiles, secondAgain⟩ := Session.step_job_effect before second
  -- Each job finds the same after the other has been done as before.
  have firstSame : first.FindsSame before.files secondAlone.2.files := by
    rw [secondFiles]
    exact Job.findsSame_apply otherEffect inputKept
  have secondSame : second.FindsSame before.files firstAlone.2.files := by
    rw [firstFiles]
    exact Job.findsSame_apply effect keepsInput
  have firstEq := firstAgain secondAlone.2 firstSame
  have secondEq := secondAgain firstAlone.2 secondSame
  -- So both effects are felt in both orders, and they are felt at different places.
  refine ⟨?_, ?_, ?_⟩
  · calc secondAfter.2.files
        = otherEffect.apply (before.files.locate second.output) firstAlone.2.files :=
          congrArg (fun result => result.2.files) secondEq
      _ = effect.apply (before.files.locate first.output) secondAlone.2.files := by
          rw [firstFiles, secondFiles, Effect.apply_comm keepsOutput]
      _ = firstAfter.2.files := (congrArg (fun result => result.2.files) firstEq).symm
  · rw [show firstAfter = _ from firstEq]
    exact ⟨rfl, rfl, rfl, rfl⟩
  · rw [show secondAfter = _ from secondEq]
    exact ⟨rfl, rfl, rfl, rfl⟩

/-- A job that fails makes a file on the way to another job's output, which is refused all the same. -/
theorem step_jobs_comm_file_on_path :
    let before := Session.final Session.start [.putFile "a" ⟨#[0xff]⟩, .putFile "b" "IF x".toUTF8]
    let first : Job := ⟨"a", "c"⟩
    let second : Job := ⟨"b", "./c/d"⟩
    let firstAlone := Session.step before (.job first)
    let secondAlone := Session.step before (.job second)
    firstAlone.1 = .returned 1 ∧ secondAlone.1 = .returned 1 ∧
      firstAlone.2.files.node? (before.files.locate "c") = some (.file .empty) ∧
      (Session.step firstAlone.2 (.job second)).1 = secondAlone.1 ∧
      (Session.step firstAlone.2 (.job second)).2.files
        = (Session.step secondAlone.2 (.job first)).2.files := by
  intro before first second firstAlone secondAlone
  -- The three places are different, although one is on the path to another.
  obtain ⟨files, -, replied, -⟩ := step_jobs_comm before first second (by decide +kernel)
    (by decide +kernel) (by decide +kernel)
  exact ⟨by decide +kernel, by decide +kernel, by decide +kernel, replied, files⟩

end Pseudocode
