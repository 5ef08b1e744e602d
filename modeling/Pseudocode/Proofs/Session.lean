import Pseudocode.Proofs.Tool.Job

/-! The flag at the end of a session is decided by the last step that has anything to do with it. -/

namespace Pseudocode

/-- Whether the flag after a step is the step's own doing, whatever it was before. -/
def Step.decidesFlag : Step → Bool
  | .job _ | .complain _ => true
  -- With fewer arguments there is no job, and all that is done is to say how to ask for one.
  | .command arguments => 2 ≤ arguments.length
  | .putFile .. | .makeDirectories _ | .separateCommand _ | .readArguments _ => false

/-- The flag is up exactly when something has been printed to the standard error output. -/
def Machine.FlagTellsErrors (machine : Machine) : Prop :=
  machine.flag = true ↔ machine.errors ≠ ""

namespace Machine

/-- A warning raises the flag, and it prints something. -/
theorem warned_flagTellsErrors (machine : Machine) (diagnostic : Diagnostic) :
    (machine.warned diagnostic).FlagTellsErrors := by
  -- Whatever the message says, the mark in front of it has been printed.
  simp [FlagTellsErrors, warned, Diagnostic.text]

/-- Telling of a fault raises the flag and prints something, and no fault changes nothing. -/
theorem told_flagTellsErrors {machine : Machine} (tells : machine.FlagTellsErrors)
    (outcome : Outcome) : (machine.told outcome).FlagTellsErrors := by
  unfold told
  -- Either nothing happens, or the machine is warned.
  split
  · exact tells
  · exact warned_flagTellsErrors _ _

/-- Telling of an outcome raises the flag exactly if its text is a fault's. -/
theorem told_flag (machine : Machine) (outcome : Outcome) :
    (machine.told outcome).flag = (machine.flag || Fault.isText outcome.text) := by
  rw [Outcome.isText_text_eq]
  -- The recogniser and the outcome agree on whether there is a fault to warn of.
  unfold told
  cases outcome.fault? <;> simp [warned]

end Machine

namespace Job

variable {job : Job} {machine after : Machine} {ending : Ending}

/-- A job lowers the flag before it does anything else. -/
theorem announced_flagTellsErrors (job : Job) (silent : machine.errors = "") :
    (job.announced machine).FlagTellsErrors := by
  -- The flag is down and nothing has been printed.
  simp [Machine.FlagTellsErrors, announced, silent]

/-- After a job that began in silence, the flag tells whether it printed any errors. -/
theorem Goes.flagTellsErrors (goes : job.Goes machine ending after) (silent : machine.errors = "") :
    after.FlagTellsErrors := by
  have begun := announced_flagTellsErrors job silent
  -- What happens to the files changes neither the flag nor what is printed.
  have compiled (program : String) (files : FileSystem) :
      (job.compiled machine program files).FlagTellsErrors :=
    Machine.told_flagTellsErrors begun (compileText program.toList)
  -- The last thing to happen is a warning, or what the program has to be told of.
  cases goes with
  | inputMalformed openingInput => exact begun
  | inputRefused openingInput => exact Machine.warned_flagTellsErrors _ _
  | outputMalformed openingInput opening => exact begun
  | outputRefused openingInput opening => exact Machine.warned_flagTellsErrors _ _
  | notRead openingInput opening noEnd => exact begun
  | notText reading opening noText => exact Machine.warned_flagTellsErrors _ _
  | notCut reading opening noCut => exact Machine.warned_flagTellsErrors _ _
  | notWritten reading opening cutting refuses => exact Machine.warned_flagTellsErrors _ _
  | @notClosed program place files emptied reading opening cutting accepts notTaken =>
    exact compiled program _
  | @written program place files emptied reading opening cutting taken =>
    exact compiled program files

/-- A job that fails raises the flag. -/
theorem Goes.flag_of_failure (goes : job.Goes machine .failure after) : after.flag = true := by
  -- In each of the ways to fail, the last thing that happens is a warning.
  cases goes <;> rfl

/-- A job that is given a path it cannot ask for lowers the flag and no more. -/
theorem Goes.flag_of_malformedPath (goes : job.Goes machine .malformedPath after) :
    after.flag = false := by
  -- Nothing is printed after the job has been announced.
  cases goes <;> rfl

/-- A job that succeeds raises the flag exactly if the text it has written is a fault's. -/
theorem Goes.flag_of_success (goes : job.Goes machine .success after) :
    ∃ code : Text,
      after.files.node? (machine.files.locate job.output)
        = some (.file (String.ofList code).toUTF8) ∧
      after.flag = Fault.isText code := by
  cases goes with
  | @written program place files emptied reading opening cutting taken =>
    refine ⟨(compileText program.toList).text, ?_, ?_⟩
    · -- The output has taken the code, which is written as the bytes it holds.
      rw [compiled_files, append_of_taken cutting taken, ← FileSystem.openOutput_place opening,
        FileSystem.node?_set, if_pos rfl, codeBytes]
    · -- The flag was lowered at the beginning, so it is up only if a fault was told of.
      exact Machine.told_flag (job.announced machine) (compileText program.toList)

end Job

/-- The replies to jobs tell the endings apart. -/
theorem Ending.reply_returned_inj {ending other : Ending} :
    ending.reply .returned = other.reply .returned ↔ ending = other := by
  -- There are few endings, and no two of them get the same reply.
  cases ending <;> cases other <;> simp [reply]

/-- Arguments ask for a job exactly when there are at least two. -/
theorem Job.ofArguments?_eq_none_iff (arguments : List String) :
    Job.ofArguments? arguments = none ↔ arguments.length < 2 := by
  -- The first two arguments are the paths, and any others are not looked at.
  match arguments with
  | [] => simp [ofArguments?]
  | [input] => simp [ofArguments?]
  | input :: output :: others => simp [ofArguments?]

namespace Session

variable {before : Machine} {arguments : List String}

/-- A command that asks for no job says how to ask for one, and does nothing else. -/
theorem step_command_of_none (before : Machine) (noJob : Job.ofArguments? arguments = none) :
    step before (.command arguments) = (.exited 1, { before.silent with errors := usage }) := by
  simp [step, commandPlan, noJob, Plan.exec, Ending.reply, Machine.silent]

/-- A command that asks for a job leaves the machine as the job does. -/
theorem step_command_of_some {job : Job} (asked : Job.ofArguments? arguments = some job) :
    (step before (.command arguments)).2 = (step before (.job job)).2 := by
  -- Only the reply differs, since a command exits and does not return.
  simp [step, commandPlan, asked]

/-- After a step that decides the flag, the flag tells whether the step printed any errors. -/
theorem step_flagTellsErrors {next : Step} (decides : next.decidesFlag = true) :
    (step before next).2.FlagTellsErrors := by
  -- A step begins in silence, so the errors are those of the job.
  have ofJob (job : Job) : (step before (.job job)).2.FlagTellsErrors := by
    obtain ⟨ending, goes, -⟩ := job.goes_step before
    exact goes.flagTellsErrors rfl
  cases next with
  | job job => exact ofJob job
  | command arguments =>
    cases asked : Job.ofArguments? arguments with
    | none =>
      -- With too few arguments for a job, the step would not decide the flag.
      have few := (Job.ofArguments?_eq_none_iff arguments).mp asked
      have enough : 2 ≤ arguments.length := by simpa [Step.decidesFlag] using decides
      omega
    | some job =>
      rw [step_command_of_some asked]
      exact ofJob job
  | complain diagnostic => simp [step, Machine.FlagTellsErrors, Diagnostic.text]
  | putFile path content => contradiction
  | makeDirectories path => contradiction
  | separateCommand arguments => contradiction
  | readArguments arguments => contradiction

/-- A step that does not decide the flag leaves it as it was. -/
theorem step_flag_eq {next : Step} (keeps : next.decidesFlag = false) :
    (step before next).2.flag = before.flag := by
  cases next with
  | putFile path content => rfl
  | makeDirectories path => rfl
  | separateCommand arguments => rfl
  | readArguments arguments =>
    -- Whether or not there is a job in the arguments, the flag is not looked at.
    simp only [step]
    split <;> rfl
  | command arguments =>
    -- A command that does not decide the flag has too few arguments for a job.
    have few : arguments.length < 2 := by simpa [Step.decidesFlag] using keeps
    rw [step_command_of_none before ((Job.ofArguments?_eq_none_iff arguments).mpr few)]
    rfl
  | job job => contradiction
  | complain diagnostic => contradiction

/-- Steps can be taken in two parts. -/
theorem final_append (machine : Machine) (front rest : List Step) :
    final machine (front ++ rest) = final (final machine front) rest := by
  -- The machine that the first part leaves is where the second begins.
  simp [final, List.foldl_append]

/-- No steps change nothing. -/
theorem final_nil (machine : Machine) : final machine [] = machine := rfl

/-- The first step is taken before all others. -/
theorem final_cons (machine : Machine) (first : Step) (rest : List Step) :
    final machine (first :: rest) = final (step machine first).2 rest := rfl

/-- A session answers each step as it is on the machine that the steps before it leave. -/
theorem play_eq_mapIdx (machine : Machine) (steps : List Step) :
    play machine steps
      = steps.mapIdx fun index next => step (final machine (steps.take index)) next := by
  -- The first step changes the machine for all others, so the machine stays quantified over.
  induction steps generalizing machine with
  | nil => rfl
  | cons first rest ih =>
    -- The first answer is the first step, and the others go on from its machine.
    show step machine first :: play (step machine first).2 rest = _
    rw [ih, List.mapIdx_cons]
    rfl

/-- Steps that do not decide the flag leave it as it was. -/
theorem final_flag_eq {machine : Machine} {steps : List Step}
    (keep : ∀ next ∈ steps, next.decidesFlag = false) :
    (final machine steps).flag = machine.flag := by
  -- Each step leaves another machine, so the machine stays quantified over.
  induction steps generalizing machine with
  | nil => rfl
  | cons first rest ih =>
    obtain ⟨keeps, later⟩ := List.forall_mem_cons.mp keep
    rw [final_cons, ih later, step_flag_eq keeps]

/-- The flag after steps whose last deciding one is known tells of the errors of that one. -/
theorem final_flag_of_last {machine : Machine} {front rest : List Step} {last : Step}
    (decides : last.decidesFlag = true) (keep : ∀ next ∈ rest, next.decidesFlag = false) :
    (final machine (front ++ last :: rest)).flag = true ↔
      (step (final machine front) last).2.errors ≠ "" := by
  -- What comes after the last deciding step leaves the flag alone.
  rw [final_append, final_cons, final_flag_eq keep]
  exact step_flagTellsErrors decides

/-- Among steps, either none decides the flag or there is a last one that does. -/
theorem exists_last_decides (steps : List Step) :
    (∀ next ∈ steps, next.decidesFlag = false) ∨
      ∃ front last rest, steps = front ++ last :: rest ∧ last.decidesFlag = true ∧
        ∀ next ∈ rest, next.decidesFlag = false := by
  -- The last one is the first one from the end.
  cases found : steps.reverse.find? Step.decidesFlag with
  | none => exact Or.inl (by simpa using found)
  | some last =>
    obtain ⟨decides, rest, front, split, keep⟩ := List.find?_eq_some_iff_append.mp found
    refine Or.inr ⟨front.reverse, last, rest.reverse, ?_, decides, by simpa using keep⟩
    rw [← List.reverse_inj, split]
    simp

/-- A job lowers the flag first, so nothing of it depends on what the flag was before. -/
theorem step_job_of_flag (before : Machine) (flag : Bool) (job : Job) :
    step { before with flag } (.job job) = step before (.job job) := rfl

/-- How the flag stands after a job follows from how the job ended. -/
theorem step_job_flag (before : Machine) (job : Job) :
    ((step before (.job job)).1 = .returned 1 → (step before (.job job)).2.flag = true) ∧
    ((step before (.job job)).1 = .returned 0 → ∃ code : Text,
      (step before (.job job)).2.files.node? (before.files.locate job.output)
        = some (.file (String.ofList code).toUTF8) ∧
      (step before (.job job)).2.flag = Fault.isText code) ∧
    ((step before (.job job)).1 = .malformedPath → (step before (.job job)).2.flag = false) := by
  obtain ⟨ending, goes, replied⟩ := job.goes_step before
  rw [replied]
  -- The reply tells how the job ended, and that tells about the flag.
  refine ⟨fun one => ?_, fun zero => ?_, fun malformed => ?_⟩
  · obtain rfl : ending = .failure := Ending.reply_returned_inj.mp one
    exact goes.flag_of_failure
  · obtain rfl : ending = .success := Ending.reply_returned_inj.mp zero
    exact goes.flag_of_success
  · obtain rfl : ending = .malformedPath := Ending.reply_returned_inj.mp malformed
    exact goes.flag_of_malformedPath

end Session

/--
The flag at the end of a session tells whether the last step that decides it printed any errors.

Such a step is a job, a command with a job in it, or a diagnostic.
What it printed is in the answer to it, which is that of the step on the machine it was taken on.
A job does not look at the flag it finds, and raises it if it fails or writes the text of a fault.
All other steps leave the flag as it is, even those that say how the tool is to be called.
-/
theorem final_flag_iff (steps : List Step) :
    (Session.play Session.start steps
      = steps.mapIdx fun index next =>
          Session.step (Session.final Session.start (steps.take index)) next) ∧
    ((Session.final Session.start steps).flag = true ↔
      ∃ front last rest, steps = front ++ last :: rest ∧ last.decidesFlag = true ∧
        (∀ next ∈ rest, next.decidesFlag = false) ∧
        (Session.step (Session.final Session.start front) last).2.errors ≠ "") ∧
    (∀ (before : Machine) (job : Job),
      let result := Session.step before (.job job)
      (∀ flag, Session.step { before with flag } (.job job) = result) ∧
      (result.1 = .returned 1 → result.2.flag = true) ∧
      (result.1 = .returned 0 → ∃ code : Text,
        result.2.files.node? (before.files.locate job.output)
          = some (.file (String.ofList code).toUTF8) ∧
        result.2.flag = Fault.isText code) ∧
      (result.1 = .malformedPath → result.2.flag = false)) ∧
    (∀ (before : Machine) (arguments : List String), arguments.length < 2 →
      let result := Session.step before (.command arguments)
      result.1 = .exited 1 ∧
        result.2.errors = "Usage: pseudopy <input_file> <output_file>\n" ∧
        result.2.flag = before.flag) ∧
    (∀ (before : Machine) (arguments : List String),
      (Session.step before (.readArguments arguments)).2.flag = before.flag ∧
      (Session.step before (.separateCommand arguments)).2.flag = before.flag) := by
  refine ⟨Session.play_eq_mapIdx _ _, ⟨fun up => ?_, fun errors => ?_⟩, fun before job => ?_,
    fun before arguments few => ?_, fun before arguments => ?_⟩
  · rcases Session.exists_last_decides steps with keep | ⟨front, last, rest, rfl, decides, keep⟩
    · -- Nothing has happened to the flag, which was down at the start.
      rw [Session.final_flag_eq keep] at up
      contradiction
    · exact ⟨front, last, rest, rfl, decides, keep,
        (Session.final_flag_of_last decides keep).mp up⟩
  · -- The deciding step that is given is the last one.
    obtain ⟨front, last, rest, rfl, decides, keep, printed⟩ := errors
    exact (Session.final_flag_of_last decides keep).mpr printed
  · exact ⟨fun flag => Session.step_job_of_flag before flag job, Session.step_job_flag before job⟩
  · -- Too few arguments make no job, and nothing is done.
    intro result
    have said := Session.step_command_of_none before
      ((Job.ofArguments?_eq_none_iff arguments).mpr few)
    rw [show result = _ from said]
    exact ⟨rfl, rfl, rfl⟩
  · exact ⟨Session.step_flag_eq rfl, Session.step_flag_eq rfl⟩

/-- A fault stays noted through later errors of other kinds, until a job begins anew. -/
theorem final_flag_iff_after_usage :
    let steps : List Step :=
      [.complain ⟨"first", some 3⟩, .putFile "a" "IF x".toUTF8, .job ⟨"a", "b"⟩, .command ["a"],
        .separateCommand ["c", "d"], .readArguments []]
    (Session.final Session.start steps).flag = true ∧
      (Session.final Session.start (steps ++ [.job ⟨"a", "\x00"⟩])).flag = false := by
  intro steps
  constructor
  · -- The job wrote the text of a fault, and none of the three steps after it decides the flag.
    exact (final_flag_iff steps).2.1.mpr
      ⟨[.complain ⟨"first", some 3⟩, .putFile "a" "IF x".toUTF8], .job ⟨"a", "b"⟩, _, rfl, rfl,
        by decide, by decide +kernel⟩
  · -- The last job is given a path it cannot ask for, and has lowered the flag by then.
    have malformed : (Session.step (Session.final Session.start steps)
        (.job ⟨"a", "\x00"⟩)).1 = .malformedPath := by
      decide +kernel
    have lowered := ((final_flag_iff []).2.2.1 _ _).2.2.2 malformed
    rw [Session.final_append, Session.final_cons, Session.final_nil]
    exact lowered

end Pseudocode
