import Pseudocode.Proofs.Tool.Job

/-!
A job that fails says the first thing that was wrong, and destroys nothing before it writes.

What an output held is lost only if the output is cut and then does not take the code.
-/

namespace Pseudocode

/-- Something that keeps a job from being done. -/
inductive Failure where
  | inputMalformed
  | inputRefused
  | outputMalformed
  | outputRefused
  /-- What the input holds is not text. -/
  | notText
  /-- The output cannot be cut to a length. -/
  | notCut
  /-- The output has been cut, but does not take all of the code. -/
  | notTaken
deriving DecidableEq, Repr

namespace Failure

/-- All failures, in the order in which a job is kept from going on by them. -/
def all : List Failure :=
  [.inputMalformed, .inputRefused, .outputMalformed, .outputRefused, .notText, .notCut, .notTaken]

/-- There is reason for a failure before the job is begun, whatever else is wrong. -/
def Applies (files : FileSystem) (job : Job) : Failure → Prop
  | .inputMalformed => '\x00' ∈ job.input.toList
  | .inputRefused => ∀ place, files.openInput job.input ≠ .granted place
  | .outputMalformed => '\x00' ∈ job.output.toList
  | .outputRefused => ∀ place opened, files.openOutput job.output ≠ .granted (place, opened)
  | .notText =>
    ∃ source, files.Reads job.input source ∧ ∀ program : String, source ≠ program.toUTF8
  | .notCut =>
    ∃ place opened, files.openOutput job.output = .granted (place, opened) ∧
      opened.cut place = none
  | .notTaken =>
    ∃ (program : String) (place : Location) (opened emptied : FileSystem),
      files.Reads job.input program.toUTF8 ∧
      files.openOutput job.output = .granted (place, opened) ∧
      opened.cut place = some emptied ∧
      ¬ emptied.Takes place (String.ofList (compileText program.toList).text).toUTF8

end Failure

namespace Job

variable {job : Job} {machine after : Machine} {ending : Ending}

namespace Goes

/-- A job that fails before the code is written leaves the files alone, but for opening an output. -/
theorem files_of_fails (goes : job.Goes machine ending after)
    (fails : ending = .failure ∨ ending = .malformedPath)
    (otherwise : ¬ Failure.notTaken.Applies machine.files job) :
    after.files = machine.files ∨ Failure.notText.Applies machine.files job ∧
      ∃ place, machine.files.openOutput job.output = .granted (place, after.files) := by
  cases goes with
  | inputMalformed openingInput => exact Or.inl rfl
  | inputRefused openingInput => exact Or.inl rfl
  | outputMalformed openingInput opening => exact Or.inl rfl
  | outputRefused openingInput opening => exact Or.inl rfl
  | notRead openingInput opening noEnd => simp at fails
  | @notText source place files reading opening noText =>
    exact Or.inr ⟨⟨source, reading, noText⟩, place, opening⟩
  | @notCut program place files reading opening noCut =>
    -- An output that was made would be a file, and could be cut.
    exact Or.inl (FileSystem.openOutput_eq_self opening noCut)
  | notWritten reading opening cutting refuses =>
    -- What has been refused at once has not been taken.
    exact absurd ⟨_, _, _, _, reading, opening, cutting,
      fun taken => Output.not_refusesAtOnce taken refuses⟩ otherwise
  | notClosed reading opening cutting accepts notTaken => simp at fails
  | written reading opening cutting taken => simp at fails

/-- A job that fails before the code is written changes nothing that was there before. -/
theorem keeps (goes : job.Goes machine ending after)
    (fails : ending = .failure ∨ ending = .malformedPath)
    (otherwise : ¬ Failure.notTaken.Applies machine.files job) {place : Location} {node : Node}
    (there : machine.files.node? place = some node) : after.files.node? place = some node := by
  -- At most an output has been made, and that takes nothing away.
  rcases goes.files_of_fails fails otherwise with same | ⟨-, output, opening⟩
  · rw [same, there]
  · exact FileSystem.openOutput_keeps opening there

end Goes

end Job

/-- A comment with a number of letters. -/
def letters (count : Nat) : String := String.ofList ('#' :: List.replicate count 'a')

end Pseudocode
