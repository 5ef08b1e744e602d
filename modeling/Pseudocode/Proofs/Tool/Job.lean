import Pseudocode.Proofs.FileSystem.Output
import Pseudocode.Proofs.Outcome
import Pseudocode.Proofs.Text.Parts
import Pseudocode.Session

/-! A job ends in one of ten ways, and succeeds in exactly one of them. -/

namespace Pseudocode

/-- The text of a program is never empty, since a program has at least one line. -/
theorem compileText_text_ne_nil (text : Text) : (compileText text).text ≠ [] := by
  -- A fault starts with its mark, and the code of a line ends with a line feed.
  rcases compile_cases (splitLines text) with ⟨-, compiled⟩ | ⟨-, number, -, compiled⟩ | ⟨-, -, compiled⟩
  · rw [compileText, compiled, Outcome.text, Fault.text_eq_marker_append]
    exact List.cons_ne_nil _ _
  · rw [compileText, compiled, Outcome.text, Fault.text_eq_marker_append]
    exact List.cons_ne_nil _ _
  · rw [compileText, compiled, Outcome.text]
    -- There is at least one line, and so there is a line feed.
    obtain ⟨first, others, lines⟩ := List.exists_cons_of_ne_nil (splitLines_ne_nil text)
    simp [lines, placed]

/-- The bytes that a program is compiled into. -/
def codeBytes (program : String) : ByteArray :=
  (String.ofList (compileText program.toList).text).toUTF8

/-- A program is compiled into at least one byte. -/
theorem codeBytes_ne_empty (program : String) : codeBytes program ≠ .empty := by
  intro empty
  -- Only the empty text is written without any bytes.
  have noText : String.ofList (compileText program.toList).text = "" := String.toByteArray_inj.mp empty
  have noCode : (compileText program.toList).text = [] := by
    rw [← String.toList_ofList (l := (compileText program.toList).text), noText]
    rfl
  exact compileText_text_ne_nil program.toList noCode

/-- The machine after a diagnostic. -/
def Machine.warned (machine : Machine) (diagnostic : Diagnostic) : Machine :=
  { machine with errors := machine.errors ++ diagnostic.text, flag := true }

/-- The machine after it has been told of the fault of a program, if there is one. -/
def Machine.told (machine : Machine) (outcome : Outcome) : Machine :=
  match outcome.fault? with
  | none => machine
  | some fault => machine.warned ⟨String.ofList fault.message, none⟩

/-- Telling of a fault prints nothing to the standard output. -/
@[simp] theorem Machine.told_output (machine : Machine) (outcome : Outcome) :
    (machine.told outcome).output = machine.output := by
  -- A diagnostic is printed elsewhere.
  unfold told
  split <;> rfl

namespace Job

/-- The machine after a job has said which files it is about. -/
def announced (job : Job) (machine : Machine) : Machine :=
  { machine with
    -- Whatever went wrong before this job is forgotten.
    flag := false
    output := machine.output ++ ("Input file: " ++ job.input ++ "\n")
      ++ ("Output file: " ++ job.output ++ "\n") }

/-- The machine that a job has announced itself on, with its output opened. -/
def opened (job : Job) (machine : Machine) (files : FileSystem) : Machine :=
  { job.announced machine with files }

/-- The machine after a job has compiled its program and told of its fault, with files left behind. -/
def compiled (job : Job) (machine : Machine) (program : String) (files : FileSystem) : Machine :=
  { (job.announced machine).told (compileText program.toList) with files }

/-- What a job leaves behind when it has compiled its program is the files it is left with. -/
@[simp] theorem compiled_files (job : Job) (machine : Machine) (program : String)
    (files : FileSystem) : (job.compiled machine program files).files = files := rfl

/-- A job that has compiled its program has printed which files it is about. -/
@[simp] theorem compiled_output (job : Job) (machine : Machine) (program : String)
    (files : FileSystem) :
    (job.compiled machine program files).output = (job.announced machine).output :=
  Machine.told_output _ _

/-- The ways in which a job can go: what it meets, how it ends, and the machine it leaves. -/
inductive Goes (job : Job) (machine : Machine) : Ending → Machine → Prop where
  | inputMalformed (openingInput : machine.files.openInput job.input = .malformed) :
      Goes job machine .malformedPath (job.announced machine)
  | inputRefused (openingInput : machine.files.openInput job.input = .refused) :
      Goes job machine .failure
        ((job.announced machine).warned ⟨(Problem.cannotOpen job.input).message, none⟩)
  | outputMalformed {input : Location}
      (openingInput : machine.files.openInput job.input = .granted input)
      (opening : machine.files.openOutput job.output = .malformed) :
      Goes job machine .malformedPath (job.announced machine)
  | outputRefused {input : Location}
      (openingInput : machine.files.openInput job.input = .granted input)
      (opening : machine.files.openOutput job.output = .refused) :
      Goes job machine .failure
        ((job.announced machine).warned ⟨(Problem.cannotOpen job.output).message, none⟩)
  /-- The input cannot be read to an end, and nobody is prepared for that. -/
  | notRead {input place : Location} {files : FileSystem}
      (openingInput : machine.files.openInput job.input = .granted input)
      (opening : machine.files.openOutput job.output = .granted (place, files))
      (noEnd : machine.files.contents? input = none) :
      Goes job machine .brokenOff (job.opened machine files)
  /-- The output may have been made by now, but what it held is still there. -/
  | notText {source : ByteArray} {place : Location} {files : FileSystem}
      (reading : machine.files.Reads job.input source)
      (opening : machine.files.openOutput job.output = .granted (place, files))
      (noText : ∀ program : String, source ≠ program.toUTF8) :
      Goes job machine .failure
        ((job.opened machine files).warned ⟨(Problem.cannotConvert job.input).message, none⟩)
  | notCut {program : String} {place : Location} {files : FileSystem}
      (reading : machine.files.Reads job.input program.toUTF8)
      (opening : machine.files.openOutput job.output = .granted (place, files))
      (noCut : files.cut place = none) :
      Goes job machine .failure
        ((job.compiled machine program files).warned ⟨Problem.writingFailed.message, none⟩)
  /-- What the output held is gone, and not all of the code can take its place. -/
  | notWritten {program : String} {place : Location} {files emptied : FileSystem}
      (reading : machine.files.Reads job.input program.toUTF8)
      (opening : machine.files.openOutput job.output = .granted (place, files))
      (cutting : files.cut place = some emptied)
      (refuses : Output.RefusesAtOnce (codeBytes program) (emptied.append place (codeBytes program)).1) :
      Goes job machine .failure
        ((job.compiled machine program (emptied.append place (codeBytes program)).2).warned
          ⟨Problem.writingFailed.message, none⟩)
  /-- The same is found out too late, when the output is closed. -/
  | notClosed {program : String} {place : Location} {files emptied : FileSystem}
      (reading : machine.files.Reads job.input program.toUTF8)
      (opening : machine.files.openOutput job.output = .granted (place, files))
      (cutting : files.cut place = some emptied)
      (accepts :
        ¬ Output.RefusesAtOnce (codeBytes program) (emptied.append place (codeBytes program)).1)
      (notTaken : ¬ emptied.Takes place (codeBytes program)) :
      Goes job machine .brokenOff
        (job.compiled machine program (emptied.append place (codeBytes program)).2)
  | written {program : String} {place : Location} {files emptied : FileSystem}
      (reading : machine.files.Reads job.input program.toUTF8)
      (opening : machine.files.openOutput job.output = .granted (place, files))
      (cutting : files.cut place = some emptied)
      (taken : emptied.Takes place (codeBytes program)) :
      Goes job machine .success
        { job.compiled machine program (emptied.append place (codeBytes program)).2 with
          output := (job.announced machine).output ++ "DONE!\n" }

end Job

/-- Telling of a fault and going on is going on with the machine that has been told. -/
theorem Plan.exec_tell (outcome : Outcome) (next : Plan Location Output) (machine : Machine) :
    (Job.tell outcome next).exec machine = next.exec (machine.told outcome) := by
  -- Both sides look at the same fault, if there is one.
  unfold Job.tell Machine.told
  cases outcome.fault? <;> rfl

namespace Job

variable {machine : Machine} {place : Location} {content : ByteArray} {emptied : FileSystem}

/-- An output that cannot be cut is not replaced. -/
theorem exec_replace_of_noCut (noCut : machine.files.cut place = none) :
    (replace ⟨place, .empty⟩ content).exec machine
      = (.failure, machine.warned ⟨Problem.writingFailed.message, none⟩) := by
  -- The plan ends with the request to cut the output.
  simp only [replace, Plan.exec, noCut, giveUp, complain, Machine.warned]

/-- An output that refuses its new bytes at once is left with what it has taken of them. -/
theorem exec_replace_of_refuses (cutting : machine.files.cut place = some emptied)
    (refuses : Output.RefusesAtOnce content (emptied.append place content).1) :
    (replace ⟨place, .empty⟩ content).exec machine
      = (.failure, { machine with files := (emptied.append place content).2 }.warned
          ⟨Problem.writingFailed.message, none⟩) := by
  -- The plan goes on to the request to write, and ends there.
  simp only [replace, Plan.exec, cutting, Output.write_of_refusesAtOnce refuses, giveUp, complain,
    Machine.warned]

/-- An output that accepts its new bytes at first is found to have taken all of them, or not. -/
theorem exec_replace_of_accepts (cutting : machine.files.cut place = some emptied)
    (accepts : ¬ Output.RefusesAtOnce content (emptied.append place content).1) :
    (replace ⟨place, .empty⟩ content).exec machine
      = if emptied.Takes place content then
          (.success, { machine with
            files := (emptied.append place content).2, output := machine.output ++ "DONE!\n" })
        else (.brokenOff, { machine with files := (emptied.append place content).2 }) := by
  obtain ⟨output, between, writing, closing⟩ := Output.close_of_write accepts
  -- The plan goes on to the end, where closing the output tells whether all is well.
  simp only [replace, Plan.exec, cutting, writing, closing]
  by_cases taken : emptied.Takes place content
  · rw [if_pos taken, show (emptied.append place content).1 = .empty from taken]
    rfl
  · -- Something is left of the bytes, so it is not nothing that is left.
    have left : (emptied.append place content).1.isEmpty = false := by
      simpa [FileSystem.Takes, ByteArray.isEmpty] using taken
    rw [if_neg taken, left]
    rfl

variable {job : Job} {input : Location} {files : FileSystem} {program : String}

/-- A job does not look at what its input holds before its output has been opened. -/
theorem exec_of_opens (openingInput : machine.files.openInput job.input = .granted input)
    (opening : machine.files.openOutput job.output = .granted (place, files)) :
    job.plan.exec machine
      = match machine.files.contents? input with
        | none => (.brokenOff, job.opened machine files)
        | some source =>
          (job.compileInto source (⟨place, .empty⟩ : Output)).exec (job.opened machine files) := by
  -- By the time the input is read, the output is open and may have been made.
  simp only [plan, Plan.exec, openingInput, opening,
    FileSystem.contents?_openOutput openingInput opening]
  cases machine.files.contents? input <;> rfl

/-- A job that reads bytes goes on to compile them. -/
theorem exec_of_reads {source : ByteArray} (reading : machine.files.Reads job.input source)
    (opening : machine.files.openOutput job.output = .granted (place, files)) :
    job.plan.exec machine
      = (job.compileInto source (⟨place, .empty⟩ : Output)).exec (job.opened machine files) := by
  obtain ⟨input, openingInput, contents⟩ := reading
  -- The bytes that are read are all that was missing.
  rw [exec_of_opens openingInput opening, contents]

/-- A program that is read is compiled, and the output is replaced by what it is compiled into. -/
theorem exec_compileInto (job : Job) (machine : Machine) (program : String) (output : Output)
    (files : FileSystem) :
    (job.compileInto program.toUTF8 output).exec (job.opened machine files)
      = (replace output (codeBytes program)).exec (job.compiled machine program files) := by
  -- Bytes that a text is written as are read as that text.
  have decoded := (fromUTF8?_eq_some_iff _ program).mpr rfl
  -- Telling of a fault and opening the output can be had in either order.
  have told : (job.opened machine files).told (compileText program.toList)
      = job.compiled machine program files := by
    unfold compiled Machine.told
    split <;> rfl
  simp only [compileInto, decoded, Plan.exec_tell, told]
  rfl

/-- What a job meets decides how it goes: there is no second way for the same job and machine. -/
theorem Goes.exec_eq {after : Machine} {ending : Ending} (goes : job.Goes machine ending after) :
    job.plan.exec machine = (ending, after) := by
  -- With the answers of the file system known, the plan can be carried out to its end.
  cases goes with
  | inputMalformed openingInput => simp only [plan, Plan.exec, openingInput, announced]
  | inputRefused openingInput =>
    simp only [plan, Plan.exec, openingInput, announced, giveUp, complain, Machine.warned]
  | outputMalformed openingInput opening =>
    simp only [plan, Plan.exec, openingInput, opening, announced]
  | outputRefused openingInput opening =>
    simp only [plan, Plan.exec, openingInput, opening, announced, giveUp, complain, Machine.warned]
  | notRead openingInput opening noEnd => rw [exec_of_opens openingInput opening, noEnd]
  | notText reading opening noText =>
    have decoded := (fromUTF8?_eq_none_iff _).mpr noText
    -- What is read is no text, so there is nothing to compile.
    rw [exec_of_reads reading opening]
    simp only [compileInto, decoded, giveUp, complain, Plan.exec, Machine.warned]
  | notCut reading opening noCut =>
    -- From here on the program has been compiled, and its fault has been told of.
    rw [exec_of_reads reading opening, exec_compileInto, exec_replace_of_noCut noCut]
  | notWritten reading opening cutting refuses =>
    rw [exec_of_reads reading opening, exec_compileInto, exec_replace_of_refuses cutting refuses]
    rfl
  | notClosed reading opening cutting accepts notTaken =>
    -- The bytes that are left wait until the output is closed.
    rw [exec_of_reads reading opening, exec_compileInto, exec_replace_of_accepts cutting accepts,
      if_neg notTaken]
    rfl
  | written reading opening cutting taken =>
    rw [exec_of_reads reading opening, exec_compileInto,
      exec_replace_of_accepts cutting (Output.not_refusesAtOnce taken), if_pos taken, compiled_output]
    rfl

/-- Every job goes in one of the ways in which jobs can go, on every machine. -/
theorem exists_goes (job : Job) (machine : Machine) : ∃ ending after, job.Goes machine ending after := by
  -- The answers of the file system are asked for one by one, and each may be the last.
  cases openingInput : machine.files.openInput job.input with
  | malformed => exact ⟨_, _, .inputMalformed openingInput⟩
  | refused => exact ⟨_, _, .inputRefused openingInput⟩
  | granted input =>
    cases opening : machine.files.openOutput job.output with
    | malformed => exact ⟨_, _, .outputMalformed openingInput opening⟩
    | refused => exact ⟨_, _, .outputRefused openingInput opening⟩
    | granted answer =>
      obtain ⟨place, files⟩ := answer
      -- From here on the output is open, and may have been made.
      cases contents : machine.files.contents? input with
      | none => exact ⟨_, _, .notRead openingInput opening contents⟩
      | some source =>
        have reading : machine.files.Reads job.input source := ⟨input, openingInput, contents⟩
        cases decoded : String.fromUTF8? source with
        | none =>
          exact ⟨_, _, .notText reading opening ((fromUTF8?_eq_none_iff source).mp decoded)⟩
        | some program =>
          rw [(fromUTF8?_eq_some_iff source program).mp decoded] at reading
          cases cutting : files.cut place with
          | none => exact ⟨_, _, .notCut reading opening cutting⟩
          | some emptied =>
            -- If the output does not take all of the code, it shows now or when it is closed.
            by_cases taken : emptied.Takes place (codeBytes program)
            · exact ⟨_, _, .written reading opening cutting taken⟩
            · by_cases refuses : Output.RefusesAtOnce (codeBytes program)
                (emptied.append place (codeBytes program)).1
              · exact ⟨_, _, .notWritten reading opening cutting refuses⟩
              · exact ⟨_, _, .notClosed reading opening cutting refuses taken⟩

/-- Carrying out a job on a machine goes in one of the ways in which jobs can go. -/
theorem goes_exec (job : Job) (machine : Machine) :
    job.Goes machine (job.plan.exec machine).1 (job.plan.exec machine).2 := by
  obtain ⟨ending, after, goes⟩ := job.exists_goes machine
  -- The one way that the job can go is the way it goes.
  rw [goes.exec_eq]
  exact goes

end Job

/-- A step of a session that does a job goes in one of the ways in which jobs can go. -/
theorem Job.goes_step (job : Job) (before : Machine) :
    ∃ ending, job.Goes before.silent ending (Session.step before (.job job)).2 ∧
      (Session.step before (.job job)).1 = ending.reply .returned :=
  -- The step carries out the job's plan and does nothing else.
  ⟨(job.plan.exec before.silent).1, job.goes_exec before.silent, rfl⟩

/-- A step that does a job replies as the job ends, and leaves the machine that the job leaves. -/
theorem Job.Goes.step_eq {job : Job} {before after : Machine} {ending : Ending}
    (goes : job.Goes before.silent ending after) :
    Session.step before (.job job) = (ending.reply .returned, after) := by
  -- The step carries out the plan in silence and replies as it ends.
  show ((job.plan.exec before.silent).1.reply .returned, (job.plan.exec before.silent).2) = _
  rw [goes.exec_eq]

/-- A job succeeds exactly when all that it asks of the file system is granted. -/
theorem Job.exec_success_iff (job : Job) (machine : Machine) :
    (job.plan.exec machine).1 = .success ↔
      ∃ program place files emptied, machine.files.Reads job.input (String.toUTF8 program) ∧
        machine.files.openOutput job.output = .granted (place, files) ∧
        files.cut place = some emptied ∧ emptied.Takes place (codeBytes program) := by
  constructor
  · intro success
    have goes := job.goes_exec machine
    rw [success] at goes
    generalize (job.plan.exec machine).2 = after at goes
    -- Nine of the ways do not end like this.
    cases goes with
    | written reading opening cutting taken =>
      exact ⟨_, _, _, _, reading, opening, cutting, taken⟩
  · intro granted
    obtain ⟨program, place, files, emptied, reading, opening, cutting, taken⟩ := granted
    rw [(Goes.written reading opening cutting taken).exec_eq]

/-- Only a file takes what a program is compiled into, and then it holds that and nothing else. -/
theorem Job.append_of_taken {files emptied : FileSystem} {place : Location} {program : String}
    (cutting : files.cut place = some emptied) (taken : emptied.Takes place (codeBytes program)) :
    (emptied.append place (codeBytes program)).2 = files.set place (.file (codeBytes program)) := by
  rcases FileSystem.cut_cases cutting with ⟨-, rfl⟩ | ⟨⟨device, there⟩, rfl⟩
  · -- The file was empty, so there was room for all of the bytes.
    have empty : (files.set place (.file .empty)).node? place = some (.file .empty) := by
      rw [FileSystem.node?_set, if_pos rfl]
    have room := (FileSystem.takes_of_empty_iff empty _).mp taken
    rw [FileSystem.append_of_empty empty, room.holdable_eq, FileSystem.set_set]
  · -- A device takes nothing, and there is something to take.
    rw [FileSystem.Takes, FileSystem.append_of_device there] at taken
    exact absurd taken (codeBytes_ne_empty program)

/-- A machine that is told of an outcome whose text is code stays as it was. -/
theorem Machine.told_of_code (machine : Machine) {outcome : Outcome}
    (code : Fault.isText outcome.text = false) : machine.told outcome = machine := by
  -- The recogniser and the outcome agree on whether there is a fault.
  rw [Outcome.isText_text_eq] at code
  cases outcome with
  | code lines => rfl
  | rejected fault => simp [Outcome.fault?] at code

/-- A machine that is told of an outcome whose text is a fault's is warned with the rest of it. -/
theorem Machine.told_of_fault (machine : Machine) {outcome : Outcome}
    (fault : Fault.isText outcome.text = true) :
    ∃ message, outcome.text = Fault.marker ++ message ∧
      machine.told outcome = machine.warned ⟨String.ofList message, none⟩ := by
  -- The recogniser is right, so the program was rejected.
  rw [Outcome.isText_text_eq] at fault
  cases outcome with
  | code lines => simp [Outcome.fault?] at fault
  | rejected cause => exact ⟨cause.message, cause.text_eq_marker_append, rfl⟩

/-- The reply to a job is the status zero exactly when the job succeeds. -/
theorem Ending.reply_returned_eq_zero_iff (ending : Ending) :
    ending.reply .returned = .returned 0 ↔ ending = .success := by
  cases ending <;> simp [reply]

/--
A job returns zero exactly when its input can be read as a text and its output can be written.

That is so when the output can be opened and cut, and takes all of the code that it is given then.
The output then holds the text of the program that was read, and all other places are as before.
A fault of the program is told of, but it does not keep the job from being done.
-/
theorem step_job_returns_zero_iff (before : Machine) (job : Job) :
    ((Session.step before (.job job)).1 = .returned 0 ↔
      ∃ (program : String) (place : Location) (opened emptied : FileSystem),
        before.files.Reads job.input program.toUTF8 ∧
        before.files.openOutput job.output = .granted (place, opened) ∧
        opened.cut place = some emptied ∧
        emptied.Takes place (String.ofList (compileText program.toList).text).toUTF8) ∧
    ((Session.step before (.job job)).1 = .returned 0 →
      ∃ program : String, before.files.Reads job.input program.toUTF8 ∧
        let code := (compileText program.toList).text
        let after := (Session.step before (.job job)).2
        after.files.node? (before.files.locate job.output)
            = some (.file (String.ofList code).toUTF8) ∧
        (∀ other, other ≠ before.files.locate job.output →
          after.files.node? other = before.files.node? other) ∧
        after.files.workDir = before.files.workDir ∧
        after.output = "Input file: " ++ job.input ++ "\n" ++ "Output file: " ++ job.output ++ "\n"
          ++ "DONE!\n" ∧
        (Fault.isText code = false → after.errors = "" ∧ after.flag = false) ∧
        (Fault.isText code = true → ∃ message, code = "ERROR: ".toList ++ message ∧
          after.errors = "Error: " ++ String.ofList message ++ "\n" ∧ after.flag = true)) := by
  have goes := job.goes_exec before.silent
  have replied : (Session.step before (.job job)).1
      = (job.plan.exec before.silent).1.reply .returned := rfl
  have left : (Session.step before (.job job)).2 = (job.plan.exec before.silent).2 := rfl
  rw [replied, left, Ending.reply_returned_eq_zero_iff]
  refine ⟨job.exec_success_iff before.silent, fun success => ?_⟩
  rw [success] at goes
  generalize (job.plan.exec before.silent).2 = after at goes
  cases goes with
  | @written program place files emptied reading opening cutting taken =>
    -- The output is at the place its path names, so that is the only place written to.
    replace opening : before.files.openOutput job.output = .granted (place, files) := opening
    have located := FileSystem.openOutput_place opening
    subst located
    refine ⟨program, reading, ?_, fun other apart => ?_, ?_, ?_, fun code => ?_, fun fault => ?_⟩
    · -- The output has taken all of the code and holds nothing else.
      rw [Job.compiled_files, Job.append_of_taken cutting taken, FileSystem.node?_set, if_pos rfl]
      rfl
    · rw [Job.compiled_files, Job.append_of_taken cutting taken, FileSystem.node?_set,
        if_neg (Ne.symm apart)]
      exact FileSystem.openOutput_frame opening apart
    · rw [Job.compiled_files, Job.append_of_taken cutting taken, FileSystem.workDir_set]
      exact FileSystem.openOutput_workDir opening
    · simp only [Job.announced, Machine.silent, String.empty_append, String.append_assoc]
    · -- The flag was lowered at the beginning, and nothing is told of.
      rw [Job.compiled, Machine.told_of_code _ code]
      exact ⟨rfl, rfl⟩
    · -- What is told of is the text that is written, without the mark of a fault.
      obtain ⟨message, text, told⟩ := Machine.told_of_fault (job.announced before.silent) fault
      rw [Job.compiled, told]
      refine ⟨message, text, ?_, rfl⟩
      simp [Machine.warned, Diagnostic.text, Diagnostic.place, Job.announced, Machine.silent]

/-- A job can be done in place, and is done although the program in the file has a fault. -/
theorem step_job_returns_zero_in_place :
    let before := Session.final Session.start [.putFile "a" "IF x".toUTF8]
    let job : Job := ⟨"a", "./a"⟩
    let result := Session.step before (.job job)
    result.1 = .returned 0 ∧
      result.2.files.node? (before.files.locate job.output)
        = some (.file "ERROR: INDENTATION MISMATCH".toUTF8) ∧
      result.2.errors = "Error: INDENTATION MISMATCH\n" := by
  intro before job result
  have zero : result.1 = .returned 0 := by decide +kernel
  have known : before.files.Reads job.input "IF x".toUTF8 :=
    ⟨before.files.locate job.input, by decide +kernel, by decide +kernel⟩
  obtain ⟨program, reading, holds, -, -, -, -, told⟩ := (step_job_returns_zero_iff before job).2 zero
  -- What is read is what was put into the file, so that is the program that is compiled.
  obtain rfl : program = "IF x" := String.toByteArray_inj.mp (known.eq reading)
  -- The block of the program is never closed.
  have code : (compileText "IF x".toList).text = "ERROR: INDENTATION MISMATCH".toList := by
    decide +kernel
  simp only [code] at holds told
  obtain ⟨message, text, errors, -⟩ := told (by decide +kernel)
  have message : message = "INDENTATION MISMATCH".toList := List.append_cancel_left text.symm
  rw [message] at errors
  exact ⟨zero, holds, errors⟩

end Pseudocode
