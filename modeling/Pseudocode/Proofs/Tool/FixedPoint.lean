import Pseudocode.Proofs.Retranslation
import Pseudocode.Proofs.Tool.Job

/-! There is one text that is compiled into itself, so every other file is changed by a job in place. -/

namespace Pseudocode

/-- A text is compiled into itself exactly if it says that its first line is at fault. -/
theorem translation_eq_self_iff (text : Text) :
    translation text = text ↔ text = "ERROR: FAILED TO PROCESS LINE 1".toList := by
  constructor
  · intro unchanged
    cases recognised : Fault.isText (translation text) with
    | false =>
      -- The code of a program has a line more than the program.
      have longer := length_splitLines_translation recognised
      rw [unchanged] at longer
      omega
    | true =>
      -- The text of a fault is compiled into one and the same fault, whatever it says.
      rw [unchanged] at recognised
      rw [← unchanged]
      exact translation_of_isText recognised
  · -- That text is the text of a fault, and of the fault that it is compiled into.
    rintro rfl
    exact translation_of_isText (by decide)

/-- A job that succeeds in place reads the program that a file holds, and writes over it. -/
theorem Job.Goes.in_place {job : Job} {machine after : Machine}
    (goes : job.Goes machine .success after)
    (inPlace : machine.files.locate job.input = machine.files.locate job.output) :
    ∃ program : String,
      machine.files.node? (machine.files.locate job.output) = some (.file program.toUTF8) ∧
      after.files.node? (machine.files.locate job.output)
        = some (.file (String.ofList (translation program.toList)).toUTF8) := by
  cases goes with
  | @written program place files emptied reading opening cutting taken =>
    have located := FileSystem.openOutput_place opening
    subst located
    refine ⟨program, ?_, ?_⟩
    · rw [← inPlace]
      rcases reading.cases with held | ⟨device, there⟩
      · exact held
      · -- A device would still be there after opening, and could not have taken the code.
        rw [inPlace] at there
        have still := FileSystem.openOutput_keeps opening there
        rcases FileSystem.cut_cases cutting with ⟨⟨held, isFile⟩, -⟩ | ⟨-, rfl⟩
        · rw [still] at isFile
          cases isFile
        · rw [FileSystem.Takes, FileSystem.append_of_device still] at taken
          exact absurd taken (codeBytes_ne_empty program)
    · rw [Job.compiled_files, Job.append_of_taken cutting taken, FileSystem.node?_set, if_pos rfl]
      rfl

/--
The only text that is compiled into itself says that its first line is at fault.

So a job that succeeds with one file as its input and its output changes what the file holds,
unless that is this text.
-/
theorem translation_fixed_point :
    (∀ text : Text,
      (compileText text).text = text ↔ text = "ERROR: FAILED TO PROCESS LINE 1".toList) ∧
    ∀ (before : Machine) (job : Job),
      before.files.locate job.input = before.files.locate job.output →
      let place := before.files.locate job.output
      let result := Session.step before (.job job)
      result.1 = .returned 0 →
        ∃ held, before.files.node? place = some (.file held) ∧
          (result.2.files.node? place = some (.file held) ↔
            held = "ERROR: FAILED TO PROCESS LINE 1".toUTF8) := by
  refine ⟨translation_eq_self_iff, fun before job inPlace => ?_⟩
  intro place result zero
  obtain ⟨ending, goes, replied⟩ := job.goes_step before
  obtain rfl : ending = .success :=
    (Ending.reply_returned_eq_zero_iff ending).mp (replied.symm.trans zero)
  obtain ⟨program, held, written⟩ := goes.in_place inPlace
  refine ⟨program.toUTF8, held, ?_⟩
  -- The bytes are the same exactly if the texts are, and then the text is compiled into itself.
  have sameBytes (text other : String) : text.toUTF8 = other.toUTF8 ↔ text.toList = other.toList := by
    rw [String.toList_inj]
    exact String.toByteArray_inj
  rw [show result.2.files.node? place = _ from written, Option.some.injEq, Node.file.injEq, sameBytes,
    sameBytes, String.toList_ofList]
  exact translation_eq_self_iff program.toList

/-- The text of the fault stays in the file it is in, although the file is written. -/
theorem translation_fixed_point_in_place :
    let fault := "ERROR: FAILED TO PROCESS LINE 1".toUTF8
    let before := Session.final Session.start [.putFile "a" fault]
    let result := Session.step before (.job ⟨"a", "./a"⟩)
    result.1 = .returned 0 ∧
      before.files.node? (before.files.locate "./a") = some (.file fault) ∧
      result.2.files.node? (before.files.locate "./a") = some (.file fault) := by
  intro fault before
  have zero : (Session.step before (.job ⟨"a", "./a"⟩)).1 = .returned 0 := by decide +kernel
  have there : before.files.node? (before.files.locate "./a") = some (.file fault) := by
    decide +kernel
  obtain ⟨held, holds, kept⟩ :=
    translation_fixed_point.2 before ⟨"a", "./a"⟩ (by decide +kernel) zero
  -- What the file is known to hold is what was put there.
  obtain rfl : fault = held := Node.file.inj (Option.some.inj (there.symm.trans holds))
  exact ⟨zero, there, kept.mpr rfl⟩

end Pseudocode
