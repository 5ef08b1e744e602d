import Pseudocode.Proofs.Tool.Independence

/-! A job that does not write its own input can be done again and again, and nothing changes. -/

namespace Pseudocode

/-- A step that is answered alike when it is taken again is answered alike however often it is. -/
theorem Session.play_replicate {machine : Machine} {next : Step}
    (settled : step (step machine next).2 next = step machine next) (count : Nat) :
    play machine (List.replicate count next) = List.replicate count (step machine next) := by
  -- Each time the step is taken on the machine it has left, so that stays quantified over.
  induction count generalizing machine with
  | zero => rfl
  | succ count ih =>
    -- After the first time, the step is taken where it has been taken before.
    have stillSettled : step (step (step machine next).2 next).2 next
        = step (step machine next).2 next := by
      rw [settled, settled]
    rw [List.replicate_succ, List.replicate_succ]
    show step machine next :: play (step machine next).2 (List.replicate count next) = _
    rw [ih stillSettled, settled]

/--
A job whose output is not its input does the same when it is done again.

It replies and prints the same, raises the flag or not as before, and leaves all files as they are.
This holds for jobs that succeed and for jobs that fail, and for any number of repetitions.
-/
theorem step_job_again (before : Machine) (job : Job)
    (apart : before.files.locate job.input ≠ before.files.locate job.output) :
    let first := Session.step before (.job job)
    Session.step first.2 (.job job) = first ∧
      ∀ count, Session.play before (List.replicate count (.job job)) = List.replicate count first := by
  intro first
  obtain ⟨effect, files, again⟩ := Session.step_job_effect before job
  -- The effect of the first time is not at the place of the input, so the job finds the same.
  have same : job.FindsSame before.files first.2.files := by
    rw [files]
    exact Job.findsSame_apply effect apart.symm
  have settled : Session.step first.2 (.job job) = first := by
    rw [again first.2 same, files, Effect.apply_apply, ← files]
  exact ⟨settled, Session.play_replicate settled⟩

/-- A job that fails makes its output the first time, and does not notice that later. -/
theorem step_job_again_output_made :
    let before := Session.final Session.start [.putFile "a" ⟨#[0xff]⟩, .complain ⟨"first", none⟩]
    let job : Job := ⟨"a", "./b"⟩
    let first := Session.step before (.job job)
    first.1 = .returned 1 ∧ before.files.node? (before.files.locate "b") = none ∧
      first.2.files.node? (before.files.locate "b") = some (.file .empty) ∧
      Session.step first.2 (.job job) = first ∧
      Session.play before [.job job, .job job, .job job] = [first, first, first] := by
  intro before job first
  -- The output is another file than the input, however the two are written.
  obtain ⟨settled, often⟩ := step_job_again before job (by decide +kernel)
  exact ⟨by decide +kernel, by decide +kernel, by decide +kernel, settled, often 3⟩

end Pseudocode
